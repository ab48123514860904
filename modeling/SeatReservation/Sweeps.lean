import SeatReservation.SeatRuntime

/-!
# Sweeping is exact and drains

A tick commits the release of the holds it has picked, announces each of them
and frees their seats, and nothing else (`Consistent.exactCommit`); ticks of
several replicas pick disjoint sets; and a tick that nothing gets in the way of
picks as many expired holds as the limit allows, so enough of them leave none.
-/

namespace SeatReservation

open Relational TransitionSystem

/-- HELD, and expired at `now`. -/
def HoldRow.isExpired (now : Nat) (h : HoldRow) : Bool :=
  h.status == .held && decide (h.heldUntil < now)

theorem HoldRow.isExpired_iff {now : Nat} {h : HoldRow} :
    h.isExpired now = true ↔ h.status = .held ∧ h.heldUntil < now := by
  simp [HoldRow.isExpired]

@[simp] theorem HoldRow.isExpired_release (releasedAt now : Nat) (h : HoldRow) :
    (h.release releasedAt).isExpired now = false := rfl

/-! ### What a tick commits -/

/-- The COMMIT of a tick: the picked holds released, each announced once and its seat
    AVAILABLE, and everything else as it was. -/
structure Sweep.ExactCommit (env : SeatEnv) (t : Sweep) (db db' : SeatDb) : Prop where
  limit : t.locks.length ≤ env.sweepBatchLimit
  distinct : t.locks.Nodup
  expired : ∀ id ∈ t.locks, ∃ h ∈ db.holds, h.id = id ∧ h.isExpired t.now = true
  holds : db'.holds = update (fun h => t.locks.contains h.id) (HoldRow.release t.now) db.holds
  seats : db'.seats = update (fun r => (t.batch.map HoldRow.seatId).contains r.id)
    (fun r => { r with status := .available }) db.seats
  outbox : ∃ rows, db.outbox.Appends db'.outbox rows ∧
    List.Forall₂ (fun h row => row.announcesRelease h = true) t.batch rows
  consumedEvents : db'.consumedEvents = db.consumedEvents

theorem Sweep.Consistent.exactCommit {env : SeatEnv} {db : SeatDb} {t : Sweep}
    (h : t.Consistent env db) (hwf : db.WellFormed) (hpoint : t.point = .loop []) :
    t.ExactCommit env db (t.writes db) := by
  obtain ⟨outbox, rows, happ, hrows, heq⟩ := foldl_sweepRow t.traceId.toString t.now t.draw
    t.batch { db with holds := (t.writes db).holds }
  have hcommit : t.writes db = { db with
      seats := freeSeats (t.batch.map HoldRow.seatId) (t.writes db).holds db.seats
      holds := (t.writes db).holds
      outbox := outbox } := by
    have htick := h.writes_eq_tick hwf hpoint
    unfold tick at htick
    dsimp only at htick
    rw [sweepBatch_locks h, h.batch] at htick
    exact htick.trans heq
  refine ⟨by simpa [Sweep.locks] using h.limit, h.locks_nodup hwf, ?_, rfl, ?_, ⟨rows, ?_, hrows⟩,
    rfl⟩
  · intro id hid
    obtain ⟨r, hr, rfl⟩ := List.mem_map.mp hid
    obtain ⟨hold, hmem, hlocked, hheld, rfl⟩ := h.mem_batch hr
    exact ⟨hold, hmem, rfl, HoldRow.isExpired_iff.mpr (h.expired hold hmem hlocked)⟩
  · rw [hcommit]
    apply List.map_congr_left
    intro r _
    by_cases hin : r.id ∈ t.batch.map HoldRow.seatId
    · obtain ⟨hold, hhold, hseat⟩ := List.mem_map.mp hin
      have hfree := h.seat_free hwf hhold
      rw [hseat] at hfree
      simp [hin, hfree]
    · simp [hin]
  · rw [hcommit]
    exact happ

/-- What the COMMIT of a tick releases. -/
def Sweep.commits (t : Sweep) : List Uuid := if t.point = .loop [] then t.locks else []

def releasedByTick (s : SeatRuntime) : RuntimeAction → List Uuid
  | .sweep i _ => (s.sweeps[i]?.map Sweep.commits).getD []
  | _ => []

/-! ### No hold is released twice -/

/-- What ticks have released so far is not HELD any more. -/
structure ReleasedOnce (env : SeatEnv) (s : SeatRuntime) (released : List Uuid) : Prop where
  consistent : s.Consistent env
  distinct : released.Nodup
  settled : ∀ id ∈ released, ∃ h ∈ s.db.holds, h.id = id ∧ h.status ≠ .held

theorem ReleasedOnce.settled_step {env : SeatEnv} {s : SeatRuntime} {released : List Uuid}
    (h : ReleasedOnce env s released) (a : RuntimeAction) {id : Uuid} (hid : id ∈ released) :
    ∃ h ∈ (runtimeStep env s a).db.holds, h.id = id ∧ h.status ≠ .held := by
  obtain ⟨c, heffect⟩ := h.consistent.runtimeStep_db a
  obtain ⟨hold, hmem, hid, hstatus⟩ := h.settled id hid
  exact ⟨hold, heffect.frozen hmem hstatus, hid, hstatus⟩

theorem ReleasedOnce.step {env : SeatEnv} {s : SeatRuntime} {released : List Uuid}
    (h : ReleasedOnce env s released) (a : RuntimeAction) :
    ReleasedOnce env (runtimeStep env s a) (released ++ releasedByTick s a) := by
  have hquiet : releasedByTick s a = [] →
      ReleasedOnce env (runtimeStep env s a) (released ++ releasedByTick s a) := by
    intro hnone
    rw [hnone, List.append_nil]
    exact ⟨h.consistent.step a, h.distinct, fun id hid => h.settled_step a hid⟩
  cases a with
  | sweep i scan =>
    cases hget : s.sweeps[i]? with
    | none => exact hquiet (by simp [releasedByTick, hget])
    | some t =>
      by_cases hpoint : t.point = .loop []
      · have hreleased : releasedByTick s (.sweep i scan) = t.locks := by
          simp [releasedByTick, hget, Sweep.commits, hpoint]
        have ht := h.consistent.sweeps t (List.mem_of_getElem? hget)
        have hexact := ht.exactCommit h.consistent.wellFormed hpoint
        obtain ⟨before, after, hsplit, rfl⟩ := exists_split_of_getElem? hget
        have hstep := fun id (hid : id ∈ released) =>
          h.settled_step (.sweep before.length scan) hid
        refine ⟨h.consistent.step _, ?_, ?_⟩
        · -- The holds it releases are HELD until then.
          rw [hreleased]
          apply List.Nodup.append h.distinct hexact.distinct
          intro id hid hlocked
          obtain ⟨hold, hmem, hsame, hstatus⟩ := h.settled id hid
          obtain ⟨hold', hmem', hsame', hexpired⟩ := hexact.expired id hlocked
          rw [h.consistent.wellFormed.holdKeys.eq_of_mem hmem hmem' (hsame.trans hsame'.symm)]
            at hstatus
          exact hstatus (HoldRow.isExpired_iff.mp hexpired).1
        · intro id hid
          rcases List.mem_append.mp hid with hid | hid
          · exact hstep id hid
          · rw [hreleased] at hid
            obtain ⟨hold, hmem, rfl, -⟩ := hexact.expired id hid
            rw [runtimeStep_sweep hsplit, Sweep.next_commit hpoint]
            refine ⟨hold.release t.now, ?_, rfl, by simp⟩
            exact mem_update_of_mem hmem (by simpa using hid)
      · exact hquiet (by simp [releasedByTick, hget, Sweep.commits, hpoint])
  | _ => exact hquiet rfl

/-! ### A tick that nothing gets in the way of -/

/-- The scan visits every hold. -/
def Scan.Complete (scan : Scan) (db : SeatDb) : Prop :=
  scan.ids.Perm (db.holds.map HoldRow.id)

/-- By its id a hold is found expired iff it is. -/
theorem any_isExpired_iff {holds : List HoldRow} (hkeys : KeyedBy HoldRow.id holds) {now : Nat}
    {h : HoldRow} (hmem : h ∈ holds) :
    (holds.any fun x => x.id == h.id && x.status == .held && decide (x.heldUntil < now)) =
      h.isExpired now := by
  rw [Bool.eq_iff_iff, HoldRow.isExpired_iff]
  simp only [List.any_eq_true, Bool.and_eq_true, beq_iff_eq, decide_eq_true_eq]
  constructor
  · rintro ⟨x, hx, ⟨hid, hheld⟩, hlt⟩
    rw [← hkeys.eq_of_mem hx hmem hid]
    exact ⟨hheld, hlt⟩
  · rintro ⟨hheld, hlt⟩
    exact ⟨h, hmem, ⟨rfl, hheld⟩, hlt⟩

/-- A complete scan finds all expired holds, and the limit cuts them. -/
theorem length_sweepBatch {db : SeatDb} (hwf : db.WellFormed) {scan : Scan}
    (hscan : scan.Complete db) (limit now : Nat) :
    (sweepBatch limit scan now db.holds).length =
      min limit (db.holds.countP (HoldRow.isExpired now)) := by
  unfold sweepBatch
  rw [List.length_take, ← List.countP_eq_length_filter, hscan.countP_eq, List.countP_map]
  congr 1
  apply List.countP_congr
  intro h hmem
  rw [Function.comp_apply, any_isExpired_iff hwf.holdKeys hmem]

theorem sweepBatch_nodup (limit : Nat) (scan : Scan) (now : Nat) (holds : List HoldRow) :
    (sweepBatch limit scan now holds).Nodup :=
  List.Nodup.sublist ((List.take_sublist _ _).trans List.filter_sublist) scan.nodup

/-- Every picked id is that of one hold. -/
theorem countP_picked {db : SeatDb} (hwf : db.WellFormed) (limit : Nat) (scan : Scan) (now : Nat) :
    db.holds.countP (fun h => (sweepBatch limit scan now db.holds).contains h.id) =
      (sweepBatch limit scan now db.holds).length := by
  have hids : ((db.holds.filter fun h =>
      (sweepBatch limit scan now db.holds).contains h.id).map HoldRow.id).Perm
        (sweepBatch limit scan now db.holds) := by
    rw [List.perm_ext_iff_of_nodup (hwf.holdKeys.sublist List.filter_sublist)
      (sweepBatch_nodup limit scan now db.holds)]
    intro id
    constructor
    · intro hid
      obtain ⟨h, hmem, rfl⟩ := List.mem_map.mp hid
      simpa using (List.mem_filter.mp hmem).2
    · intro hid
      obtain ⟨h, hmem, rfl, -, -⟩ := mem_sweepBatch hid
      exact List.mem_map_of_mem (List.mem_filter.mpr ⟨hmem, by simpa using hid⟩)
  rw [List.countP_eq_length_filter, ← List.length_map HoldRow.id, hids.length_eq]

theorem tick_holds (env : SeatEnv) (scan : Scan) (traceId : Uuid) (now : Nat)
    (draw : Uuid → Uuid × Nat) (db : SeatDb) :
    (tick env scan traceId now draw db).holds =
      update (fun h => (sweepBatch env.sweepBatchLimit scan now db.holds).contains h.id)
        (HoldRow.release now) db.holds := by
  unfold tick
  dsimp only
  generalize sweepBatch env.sweepBatchLimit scan now db.holds = ids
  obtain ⟨outbox, rows, -, -, heq⟩ := foldl_sweepRow traceId.toString now draw
    (returning (fun h => ids.contains h.id) (HoldRow.release now) db.holds)
    { db with holds := update (fun h => ids.contains h.id) (HoldRow.release now) db.holds }
  rw [heq]

/-- Such a tick lowers the number of expired holds by the limit. -/
theorem countP_tick {db : SeatDb} (hwf : db.WellFormed) (env : SeatEnv) {scan : Scan}
    (hscan : scan.Complete db) (traceId : Uuid) (now : Nat) (draw : Uuid → Uuid × Nat) :
    (tick env scan traceId now draw db).holds.countP (HoldRow.isExpired now) =
      db.holds.countP (HoldRow.isExpired now) - env.sweepBatchLimit := by
  have hcount := countP_update
    (p := fun h => (sweepBatch env.sweepBatchLimit scan now db.holds).contains h.id)
    (q := HoldRow.isExpired now) (f := HoldRow.release now) (t := db.holds)
    (by
      intro h hmem hpicked
      obtain ⟨hold, hhold, hid, hheld, hlt⟩ := mem_sweepBatch (List.contains_iff_mem.mp hpicked)
      rw [hwf.holdKeys.eq_of_mem hmem hhold hid.symm]
      exact HoldRow.isExpired_iff.mpr ⟨hheld, hlt⟩)
    (by simp [HoldRow.isExpired])
  rw [countP_picked hwf, length_sweepBatch hwf hscan] at hcount
  rw [tick_holds]
  omega

/-! ### The machine, when one tick runs alone -/

/-- How many statements a tick has before it, at most. -/
def Sweep.remaining (env : SeatEnv) (t : Sweep) : Nat :=
  match t.point with
  | .update => 3 * env.sweepBatchLimit + 2
  | .loop rest => 3 * rest.length + 1
  | .announce _ rest => 3 * rest.length + 3
  | .emit _ rest => 3 * rest.length + 2
  | .ended => 0

theorem Sweep.remaining_pos {env : SeatEnv} {t : Sweep} (hrunning : t.point ≠ .ended) :
    0 < t.remaining env := by
  unfold Sweep.remaining
  cases hpoint : t.point with
  | ended => exact absurd hpoint hrunning
  | _ =>
    dsimp only
    omega

/-- The tick as it will be at its COMMIT. -/
def Sweep.whole (t : Sweep) : Sweep :=
  { t with point := .loop [], freed := t.batch.map HoldRow.seatId, announced := t.batch }

theorem Sweep.Consistent.whole {env : SeatEnv} {db : SeatDb} {t : Sweep}
    (h : t.Consistent env db) : t.whole.Consistent env db :=
  ⟨h.batch, h.expired, h.limit, by simp [Sweep.whole, Sweep.unannounced],
    by simp [Sweep.whole, Sweep.halfDone], by simp [Sweep.whole], by simp [Sweep.whole]⟩

theorem Sweep.Consistent.whole_eq {env : SeatEnv} {db : SeatDb} {t : Sweep}
    (h : t.Consistent env db) (hpoint : t.point = .loop []) : t.whole = t := by
  obtain ⟨hannounced, hfreed⟩ := h.committing hpoint
  obtain ⟨traceId, now, draw, point, batch, freed, announced⟩ := t
  dsimp only at hannounced hfreed hpoint
  rw [Sweep.whole, hannounced, hfreed, hpoint]

/-- A statement in the loop takes a tick forward and leaves its batch alone. -/
theorem Sweep.next_loop {env : SeatEnv} {locked : List Uuid} {scan : Scan} {t : Sweep}
    {db : SeatDb} (hopen : t.point ≠ .loop []) (hpicked : t.point ≠ .update)
    (hrunning : t.point ≠ .ended) :
    (t.next env locked scan db).1.whole = t.whole ∧
      (t.next env locked scan db).1.finish = t.finish ∧
      (t.next env locked scan db).1.remaining env < t.remaining env ∧
      (t.next env locked scan db).1.point ≠ .update ∧
      (t.next env locked scan db).1.point ≠ .ended := by
  unfold Sweep.next Sweep.remaining
  cases hpoint : t.point with
  | update => exact absurd hpoint hpicked
  | loop rest =>
    cases rest with
    | nil => exact absurd hpoint hopen
    | cons r rest => simp [Sweep.whole, Sweep.finish]; omega
  | announce r rest => simp [Sweep.whole, Sweep.finish]
  | emit r rest => simp [Sweep.whole, Sweep.finish]
  | ended => exact absurd hpoint hrunning

theorem exec_ended {env : SeatEnv} {s : SeatRuntime} {before : List Sweep} {t : Sweep}
    (hsplit : s.sweeps = before ++ [t]) (hended : t.point = .ended) (scan : Scan) (n : Nat) :
    exec (runtimeStep env) s (List.replicate n (.sweep before.length scan)) = s := by
  induction n with
  | zero => rfl
  | succ n ih =>
    have hstep : runtimeStep env s (.sweep before.length scan) = s := by
      rw [runtimeStep_sweep hsplit]
      simp [Sweep.next, hended, ← hsplit]
    rw [List.replicate_succ, exec_cons, hstep, ih]

/-- Left alone, a tick that has picked its batch commits it. -/
theorem exec_loop {env : SeatEnv} {s : SeatRuntime} (h : s.Consistent env) {before : List Sweep}
    {t : Sweep} (hsplit : s.sweeps = before ++ [t]) (hpicked : t.point ≠ .update)
    (hrunning : t.point ≠ .ended) (scan : Scan) {n : Nat} (hn : t.remaining env ≤ n) :
    exec (runtimeStep env) s (List.replicate n (.sweep before.length scan)) =
      { s with db := t.whole.writes s.db, sweeps := before ++ [t.finish] } := by
  induction n generalizing s t with
  | zero =>
    have hpos := @Sweep.remaining_pos env t hrunning
    omega
  | succ n ih =>
    rw [List.replicate_succ, exec_cons]
    have ht : t.Consistent env s.db := h.sweeps t (by simp [hsplit])
    have hstep := @runtimeStep_sweep env s scan _ _ _ hsplit
    by_cases hopen : t.point = .loop []
    · rw [Sweep.next_commit hopen] at hstep
      rw [hstep, exec_ended rfl rfl, ht.whole_eq hopen]
    · obtain ⟨hwhole, hfinish, hless, hpicked', hrunning'⟩ :=
        @Sweep.next_loop env s.locked scan t s.db hopen hpicked hrunning
      rw [Sweep.next_db hopen] at hstep
      rw [ih (h.step _) (by rw [hstep]) hpicked' hrunning' (by omega), hwhole, hfinish, hstep]

theorem pick_unlocked (env : SeatEnv) (scan : Scan) (t : Sweep) (db : SeatDb) :
    t.pick env [] scan db =
      returning (fun h => (sweepBatch env.sweepBatchLimit scan t.now db.holds).contains h.id)
        (HoldRow.release t.now) db.holds := by
  have hall : (scan.ids.filter fun id => !([] : List Uuid).contains id) = scan.ids := by simp
  unfold Sweep.pick sweepBatch
  dsimp only
  rw [hall]

theorem tick_congr {env : SeatEnv} {scan scan' : Scan} {now : Nat} {db : SeatDb}
    (hsame : ∀ h ∈ db.holds, (sweepBatch env.sweepBatchLimit scan now db.holds).contains h.id =
      (sweepBatch env.sweepBatchLimit scan' now db.holds).contains h.id)
    (traceId : Uuid) (draw : Uuid → Uuid × Nat) :
    tick env scan traceId now draw db = tick env scan' traceId now draw db := by
  unfold tick
  dsimp only
  rw [update_congr hsame, returning_congr hsame]

/-- `tick`, statement by statement, with nothing in between. -/
def tickAlone (env : SeatEnv) (i : Nat) (traceId : Uuid) (now : Nat) (draw : Uuid → Uuid × Nat)
    (scan : Scan) : List RuntimeAction :=
  .tick traceId now draw :: List.replicate (3 * env.sweepBatchLimit + 2) (.sweep i scan)

theorem exec_tickAlone {env : SeatEnv} {s : SeatRuntime} (h : s.Consistent env)
    (hfree : s.locked = []) (traceId : Uuid) (now : Nat) (draw : Uuid → Uuid × Nat) (scan : Scan) :
    exec (runtimeStep env) s (tickAlone env s.sweeps.length traceId now draw scan) =
      { s with
        db := tick env scan traceId now draw s.db
        sweeps := s.sweeps ++ [(Sweep.begun traceId now draw).finish] } := by
  let t : Sweep := Sweep.begun traceId now draw
  let rows := t.pick env [] scan s.db
  let t' : Sweep := { t with batch := rows, point := .loop rows }
  have hbegun := h.step (.tick traceId now draw)
  have hlocked : (runtimeStep env s (.tick traceId now draw)).locked = [] := by
    have hnone : (s.sweeps ++ [t]).flatMap Sweep.locks = s.locked := by
      simp [SeatRuntime.locked, t, Sweep.begun, Sweep.locks]
    exact hnone.trans hfree
  have hpicked : runtimeStep env (runtimeStep env s (.tick traceId now draw))
      (.sweep s.sweeps.length scan) = { s with sweeps := s.sweeps ++ [t'] } := by
    rw [@runtimeStep_sweep env _ scan s.sweeps [] t rfl, hlocked]
    rfl
  have hconsistent := hbegun.step (.sweep s.sweeps.length scan)
  rw [hpicked] at hconsistent
  have ht' : t'.Consistent env s.db := hconsistent.sweeps t' (by simp)
  rw [tickAlone, List.replicate_succ, exec_cons, exec_cons, hpicked,
    exec_loop hconsistent (t := t') rfl (by simp [t']) (by simp [t'])]
  · rw [ht'.whole.writes_eq_tick h.wellFormed rfl, @tick_congr env _ scan]
    · rfl
    · intro x hx
      rw [Bool.eq_iff_iff, List.contains_iff_mem, List.contains_iff_mem]
      have hlocks := sweepBatch_locks ht'.whole (ht'.whole.locks_nodup h.wellFormed)
      rw [hlocks]
      have hpicked : t'.whole.locks = (t.pick env [] scan s.db).map HoldRow.id := rfl
      rw [hpicked, pick_unlocked, locks_picked]
      exact ⟨fun hin => hin.1, fun hin => ⟨hin, x, hx, rfl⟩⟩
  · have hlimit := ht'.limit
    simp only [Sweep.remaining, t'] at hlimit ⊢
    omega

/-! ### Draining -/

structure TickCall where
  traceId : Uuid
  now : Nat
  draw : Uuid → Uuid × Nat
  scan : Scan

/-- One tick after the other; the first is the `i`-th of the machine. -/
def ticksAlone (env : SeatEnv) (i : Nat) : List TickCall → List RuntimeAction
  | [] => []
  | c :: calls =>
      tickAlone env i c.traceId c.now c.draw c.scan ++ ticksAlone env (i + 1) calls

/-- The call sees every hold, and takes those for expired that are at `now`. -/
structure TickCall.Uncontended (c : TickCall) (db : SeatDb) (now : Nat) : Prop where
  complete : c.scan.Complete db
  noNewExpiry : ∀ h ∈ db.holds, h.isExpired c.now = h.isExpired now

theorem TickCall.Uncontended.tick {c : TickCall} {db : SeatDb} {now : Nat}
    (h : c.Uncontended db now) (env : SeatEnv) (first : TickCall) :
    c.Uncontended (tick env first.scan first.traceId first.now first.draw db) now where
  complete := by
    unfold Scan.Complete
    rw [tick_holds, map_update fun r _ => HoldRow.release_id first.now r]
    exact h.complete
  noNewExpiry := by
    intro r hr
    rw [tick_holds] at hr
    rcases mem_update.mp hr with ⟨r₀, -, -, rfl⟩ | ⟨hr, -⟩
    · rw [HoldRow.isExpired_release, HoldRow.isExpired_release]
    · exact h.noNewExpiry r hr

theorem countP_ticksAlone {env : SeatEnv} {s : SeatRuntime} (h : s.Consistent env)
    (hfree : s.locked = []) {now : Nat} {calls : List TickCall}
    (hcalls : ∀ c ∈ calls, c.Uncontended s.db now) :
    (exec (runtimeStep env) s (ticksAlone env s.sweeps.length calls)).db.holds.countP
        (HoldRow.isExpired now) =
      s.db.holds.countP (HoldRow.isExpired now) - env.sweepBatchLimit * calls.length := by
  induction calls generalizing s with
  | nil => simp [ticksAlone]
  | cons c calls ih =>
    have hc := hcalls c List.mem_cons_self
    have hexec := exec_tickAlone h hfree c.traceId c.now c.draw c.scan
    let s' := exec (runtimeStep env) s
      (tickAlone env s.sweeps.length c.traceId c.now c.draw c.scan)
    have hs' : s'.Consistent env :=
      exec_invariant' (SeatRuntime.Consistent env) (fun _ a hs => hs.step a) h _
    have hdb : s'.db = tick env c.scan c.traceId c.now c.draw s.db := by
      simp only [s', hexec]
    have hlength : s'.sweeps.length = s.sweeps.length + 1 := by
      simp only [s', hexec, List.length_append, List.length_singleton]
    have hfree' : s'.locked = [] := by
      simp only [s', hexec, SeatRuntime.locked, List.flatMap_append, List.flatMap_singleton,
        Sweep.finish_locks, List.append_nil]
      exact hfree
    have hafter : s'.db.holds.countP (HoldRow.isExpired now) =
        s.db.holds.countP (HoldRow.isExpired now) - env.sweepBatchLimit := by
      have htick := countP_tick h.wellFormed env hc.complete c.traceId c.now c.draw
      rw [← hdb] at htick
      have hbefore : s.db.holds.countP (HoldRow.isExpired c.now) =
          s.db.holds.countP (HoldRow.isExpired now) :=
        List.countP_congr fun x hx => by rw [hc.noNewExpiry x hx]
      have hlater : s'.db.holds.countP (HoldRow.isExpired c.now) =
          s'.db.holds.countP (HoldRow.isExpired now) := by
        rw [hdb]
        exact List.countP_congr fun x hx => by rw [(hc.tick env c).noNewExpiry x hx]
      rw [← hlater, htick, hbefore]
    have hrest := ih hs' hfree' (by
      intro c' hc'
      rw [hdb]
      exact (hcalls c' (List.mem_cons_of_mem _ hc')).tick env c)
    rw [ticksAlone, exec_append, ← hlength, hrest, hafter, List.length_cons, Nat.mul_succ]
    omega

/-! ### The result -/

/-- What the next statement of a tick does: it picks its batch, keeps it, or commits it. -/
structure Sweep.ExactStep (env : SeatEnv) (s : SeatRuntime) (i : Nat) (scan : Scan) (t : Sweep)
    (s' : SeatRuntime) : Prop where
  picks : t.point = .update → s'.db = s.db ∧ ∃ t', s'.sweeps[i]? = some t' ∧
    t'.locks.length ≤ env.sweepBatchLimit ∧ (∀ id ∈ t'.locks, id ∉ s.locked) ∧
    (s.locked = [] → scan.Complete s.db → t'.locks.length =
      min env.sweepBatchLimit (s.db.holds.countP (HoldRow.isExpired t.now)))
  keeps : t.point ≠ .update → t.point ≠ .loop [] → s'.db = s.db ∧
    ∃ t', s'.sweeps[i]? = some t' ∧ t'.locks = t.locks
  commits : t.point = .loop [] → t.ExactCommit env s.db s'.db

theorem SeatRuntime.Consistent.exactStep {env : SeatEnv} {s : SeatRuntime} (h : s.Consistent env)
    {i : Nat} {t : Sweep} (hget : s.sweeps[i]? = some t) (scan : Scan) :
    t.ExactStep env s i scan (runtimeStep env s (.sweep i scan)) := by
  have ht := h.sweeps t (List.mem_of_getElem? hget)
  obtain ⟨before, after, hsplit, rfl⟩ := exists_split_of_getElem? hget
  have hat : (runtimeStep env s (.sweep before.length scan)).sweeps[before.length]? =
      some (t.next env s.locked scan s.db).1 := by
    rw [runtimeStep_sweep hsplit]
    simp
  refine ⟨?_, ?_, ?_⟩
  · intro hpoint
    have hopen : t.point ≠ .loop [] := by simp [hpoint]
    have hlocks := @Sweep.locks_next env s.locked scan t s.db hopen
    rw [if_pos hpoint] at hlocks
    have hnext := ht.next h.wellFormed s.locked scan hopen
    refine ⟨?_, _, hat, by simpa [Sweep.locks] using hnext.limit, ?_, ?_⟩
    · rw [runtimeStep_sweep hsplit, Sweep.next_db hopen]
    · intro id hid
      rw [hlocks] at hid
      obtain ⟨-, hold, hmem, rfl⟩ := locks_picked.mp hid
      exact (Sweep.mem_pick h.wellFormed.holdKeys hmem hid).2.2
    · intro hfree hscan
      rw [hlocks, hfree, List.length_map, pick_unlocked, length_returning,
        countP_picked h.wellFormed, length_sweepBatch h.wellFormed hscan]
  · intro hpicked hopen
    have hlocks := @Sweep.locks_next env s.locked scan t s.db hopen
    rw [if_neg hpicked] at hlocks
    refine ⟨?_, _, hat, hlocks⟩
    rw [runtimeStep_sweep hsplit, Sweep.next_db hopen]
  · intro hpoint
    rw [runtimeStep_sweep hsplit, Sweep.next_commit hpoint]
    exact ht.exactCommit h.wellFormed hpoint

/-- **Sweeping is exact and drains.**  In every run of overlapping ticks and other calls:
    every statement of a tick does what `ExactStep` says (so a tick releases at most the
    limit, and exactly `min L n` when nothing is locked); a tick that fails changes
    nothing; no hold is released by two ticks; and `⌈n / L⌉` ticks left alone, with no new
    expiries, leave no expired HELD hold. -/
theorem sweeping_exact_and_drains {db : SeatDb} (h : db.WellFormed) (env : SeatEnv)
    (hlimit : 1 ≤ env.sweepBatchLimit) (as : List RuntimeAction) :
    let s := exec (runtimeStep env) (SeatRuntime.start db) as
    (∀ (i : Nat) (scan : Scan) (t : Sweep), s.sweeps[i]? = some t →
      t.ExactStep env s i scan (runtimeStep env s (.sweep i scan))) ∧
    (∀ i, (runtimeStep env s (.sweepFails i)).db = s.db) ∧
    (outputs (runtimeStep env) releasedByTick (SeatRuntime.start db) as).Nodup ∧
    (s.locked = [] → ∀ now calls, (∀ c ∈ calls, c.Uncontended s.db now) →
      (s.db.holds.countP (HoldRow.isExpired now) + env.sweepBatchLimit - 1) /
          env.sweepBatchLimit ≤ calls.length →
      ∀ x ∈ (exec (runtimeStep env) s (ticksAlone env s.sweeps.length calls)).db.holds,
        x.isExpired now = false) := by
  intro s
  have hs : s.Consistent env := h.consistent_exec as
  refine ⟨fun i scan t hget => hs.exactStep hget scan, fun i => rfl, ?_, ?_⟩
  · have hreleased : ReleasedOnce env s
        ([] ++ outputs (runtimeStep env) releasedByTick (SeatRuntime.start db) as) := by
      apply exec_outputs_invariant' (ReleasedOnce env) fun _ _ a h => h.step a
      exact ⟨SeatRuntime.consistent_start h, List.nodup_nil, by simp⟩
    exact hreleased.distinct
  · intro hfree now calls hcalls hmany x hx
    have hcount := countP_ticksAlone hs hfree hcalls
    have hzero : s.db.holds.countP (HoldRow.isExpired now) ≤
        env.sweepBatchLimit * calls.length := by
      have hceil := Nat.mul_le_mul_left env.sweepBatchLimit hmany
      have hround := Nat.div_add_mod
        (s.db.holds.countP (HoldRow.isExpired now) + env.sweepBatchLimit - 1) env.sweepBatchLimit
      have hmod := Nat.mod_lt
        (s.db.holds.countP (HoldRow.isExpired now) + env.sweepBatchLimit - 1)
        (show 0 < env.sweepBatchLimit from hlimit)
      omega
    rw [Nat.sub_eq_zero_of_le hzero, List.countP_eq_zero] at hcount
    exact Bool.eq_false_iff.mpr (hcount x hx)

/-- A limit of one, and two holds that are expired at 200000. -/
def twoExpired : SeatRuntime :=
  exec (runtimeStep ⟨120, 1⟩) (SeatRuntime.start seedDb)
    [.hold "00000000-0000-0000-0000-000000000001" 101 "t1" ⟨501, 901, 0, 0, 0⟩ fun _ => none,
      .hold "00000000-0000-0000-0000-000000000002" 102 "t2" ⟨502, 902, 0, 0, 0⟩ fun _ => none]

theorem laterFirst_nodup : ([502, 501] : List Uuid).Nodup := by decide

theorem earlierFirst_nodup : ([501, 502] : List Uuid).Nodup := by decide

def twoTickCalls : List TickCall :=
  [⟨801, 200000, fun id => (id, 200000), ⟨[502, 501], laterFirst_nodup⟩⟩,
    ⟨802, 205000, fun id => (id, 205000), ⟨[501, 502], earlierFirst_nodup⟩⟩]

theorem twoExpired_drained :
    (exec (runtimeStep ⟨120, 1⟩) twoExpired
      (ticksAlone ⟨120, 1⟩ twoExpired.sweeps.length twoTickCalls)).db.holds.countP
        (HoldRow.isExpired 200000) = 0 := by
  have hdrained : ∀ x ∈ (exec (runtimeStep ⟨120, 1⟩) twoExpired
      (ticksAlone ⟨120, 1⟩ twoExpired.sweeps.length twoTickCalls)).db.holds,
      x.isExpired 200000 = false :=
    (sweeping_exact_and_drains seedDb_seeded.wellFormed ⟨120, 1⟩ (by decide) _).2.2.2
      (by decide +kernel) 200000 twoTickCalls
      (List.forall_mem_cons.mpr ⟨⟨by unfold Scan.Complete; decide +kernel, by decide +kernel⟩,
        List.forall_mem_cons.mpr ⟨⟨by unfold Scan.Complete; decide +kernel, by decide +kernel⟩,
          by simp⟩⟩)
      (by decide +kernel)
  exact List.countP_eq_zero.mpr fun x hx => Bool.eq_false_iff.mp (hdrained x hx)

end SeatReservation
