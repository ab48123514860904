import SeatReservation.SeatInvariants
import SeatReservation.TransactionDiscipline

/-!
# The seat service with calls that overlap

`seatStep` takes a transaction as one step.  Here a tick of the sweeper takes its
statements one by one and keeps its writes to itself until its COMMIT; a
cancellation looks the hold up and releases it in two steps; and what a call puts
on the event bus after its COMMIT is a step of its own.  Between two steps of one
call anything else can happen.  All calls are handled by one process, the one that
has the bus, and a COMMIT that takes effect is answered.

A transaction that meets a hold another one has locked waits, so its step leaves
everything as it is and can be taken again later.  `runtimeStep_db` is the
refinement: seen from the database, a step is nothing or one step of `seatStep`.
-/

namespace SeatReservation

open Relational TransitionSystem SqlSession

/-! ### SeatEventBus -/

inductive SeatBusEvent where
  | held (seatId : String) (userId : Uuid) (heldUntil : Nat)
  | released (seatId : Uuid)
  | reserved (seatId userId : Uuid)
deriving DecidableEq, Repr

/-- An event put on the bus, and the hold whose transition it reports. -/
structure Emission where
  event : SeatBusEvent
  holdId : Uuid
deriving DecidableEq, Repr

def heldEmission (seatId : String) (userId : Uuid) : InsertHoldResult → List Emission
  | .ok hold => [⟨.held seatId userId hold.heldUntil, hold.id⟩]
  | .conflict _ => []

def releasedEmission (holdId : Uuid) : ReleaseResult → List Emission
  | ⟨true, some seatId⟩ => [⟨.released seatId, holdId⟩]
  | _ => []

def reservedEmission (holdId : Uuid) : ReserveResult → List Emission
  | ⟨true, some seatId, some userId⟩ => [⟨.reserved seatId userId, holdId⟩]
  | _ => []

/-! ### A tick in flight -/

/-- The statement a tick is about to execute.  In the loop, `rest` are the rows behind the
    current one; `loop []` is at its COMMIT. -/
inductive SweepPoint where
  | update
  | loop (rest : List HoldRow)
  | announce (r : HoldRow) (rest : List HoldRow)
  | emit (r : HoldRow) (rest : List HoldRow)
  | ended
deriving DecidableEq

/-- A tick, with what it has written and not committed: the holds of `batch` are released
    (and locked), the seats of `freed` AVAILABLE, and `announced` has its outbox rows. -/
structure Sweep where
  traceId : Uuid
  now : Nat
  draw : Uuid → Uuid × Nat
  point : SweepPoint
  batch : List HoldRow
  freed : List Uuid
  announced : List HoldRow

def Sweep.begun (traceId : Uuid) (now : Nat) (draw : Uuid → Uuid × Nat) : Sweep :=
  ⟨traceId, now, draw, .update, [], [], []⟩

/-- After COMMIT or ROLLBACK. -/
def Sweep.finish (t : Sweep) : Sweep :=
  { t with point := .ended, batch := [], freed := [], announced := [] }

def Sweep.locks (t : Sweep) : List Uuid := t.batch.map HoldRow.id

/-- The outbox row of one hold. -/
def Sweep.announce (t : Sweep) (o : Outbox) (r : HoldRow) : Outbox :=
  o.insert r.id "seat.released.v1"
    (.seatReleased ⟨(t.draw r.id).1, r.seatId, "sweeper", t.traceId.toString, (t.draw r.id).2⟩)
    [("traceId", t.traceId.toString), ("reason", "sweeper")] t.now

/-- The database as the tick sees it, and as its COMMIT leaves it. -/
def Sweep.writes (t : Sweep) (db : SeatDb) : SeatDb :=
  { db with
    seats := t.freed.foldl (fun seats id => markSeat id .available seats) db.seats
    holds := update (fun h => t.locks.contains h.id) (HoldRow.release t.now) db.holds
    outbox := t.announced.foldl t.announce db.outbox }

/-- The rows `UPDATE holds .. RETURNING` gives a tick, when `locked` are locked by others. -/
def Sweep.pick (env : SeatEnv) (locked : List Uuid) (scan : Scan) (t : Sweep) (db : SeatDb) :
    List HoldRow :=
  let unlocked : Scan := ⟨scan.ids.filter fun id => !locked.contains id, scan.nodup.filter _⟩
  let ids := sweepBatch env.sweepBatchLimit unlocked t.now db.holds
  returning (fun h => ids.contains h.id) (HoldRow.release t.now) db.holds

/-- The next statement of a tick, and the database it leaves. -/
def Sweep.next (env : SeatEnv) (locked : List Uuid) (scan : Scan) (t : Sweep) (db : SeatDb) :
    Sweep × SeatDb :=
  match t.point with
  | .update =>
      let rows := t.pick env locked scan db
      ({ t with batch := rows, point := .loop rows }, db)
  | .loop [] => (t.finish, t.writes db)
  | .loop (r :: rest) =>
      let freed := if hasActiveHold (t.writes db).holds r.seatId then t.freed
        else t.freed ++ [r.seatId]
      ({ t with freed := freed, point := .announce r rest }, db)
  | .announce r rest => ({ t with announced := t.announced ++ [r], point := .emit r rest }, db)
  | .emit _ rest => ({ t with point := .loop rest }, db)
  | .ended => (t, db)

/-- `bus.emit` in the loop of a tick. -/
def Sweep.emits (t : Sweep) : List Emission :=
  match t.point with
  | .emit r _ => [⟨.released r.seatId, r.id⟩]
  | _ => []

/-! ### The machine -/

/-- A `release` request whose lookup found a hold of its own user. -/
structure Cancellation where
  userId : Uuid
  seatId : Uuid
  traceId : String
  hold : HoldRow
deriving DecidableEq, Repr

structure SeatRuntime where
  db : SeatDb
  sweeps : List Sweep
  cancels : List Cancellation
  /-- What committed calls are about to put on the bus. -/
  answers : List Emission

def SeatRuntime.start (db : SeatDb) : SeatRuntime := ⟨db, [], [], []⟩

/-- The holds locked by ticks in flight. -/
def SeatRuntime.locked (s : SeatRuntime) : List Uuid := s.sweeps.flatMap Sweep.locks

/-- A locked hold is among those `p` selects. -/
def SeatRuntime.waits (s : SeatRuntime) (p : HoldRow → Bool) : Bool :=
  s.db.holds.any fun h => s.locked.contains h.id && p h

def inFailedSqlTransaction : SqlError := ⟨"25P02", ""⟩

/-- A call has ended: what it has made durable, and what it emits if it has returned. -/
def SeatRuntime.answer {α : Type} (s : SeatRuntime)
    (out : Except (Thrown SqlError) α × Session SqlError SeatDb) (emission : α → List Emission) :
    SeatRuntime :=
  { s with
    db := out.2.durable
    answers := s.answers ++ match out.1 with
      | .ok a => emission a
      | .error _ => [] }

/-- `faults` are the errors the database reports to the call. -/
inductive RuntimeAction where
  | hold (seatId : String) (userId : Uuid) (traceId : String) (d : HoldDraw)
      (faults : Nat → Option SqlError)
  | lookup (seatId : String) (userId : Uuid) (traceId : String)
  | cancel (i : Nat) (d : Draw) (faults : Nat → Option SqlError)
  | paymentSucceeded (holdId eventId : Uuid) (traceId : String) (d : Draw)
      (faults : Nat → Option SqlError)
  | paymentFailed (holdId : Uuid) (traceId : String) (d : Draw) (faults : Nat → Option SqlError)
  | emit (i : Nat)
  | tick (traceId : Uuid) (now : Nat) (draw : Uuid → Uuid × Nat)
  | sweep (i : Nat) (scan : Scan)
  | sweepFails (i : Nat)

def runtimeStep (env : SeatEnv) (s : SeatRuntime) : RuntimeAction → SeatRuntime
  | .hold seatId userId traceId d faults =>
      if s.waits fun h => Uuid.ofText seatId == some h.seatId || h.userId == userId then s
      else s.answer ((Scripts.insertHoldTx env seatId userId traceId d).run s.db faults
        inFailedSqlTransaction) (heldEmission seatId userId)
  | .lookup seatId userId traceId =>
      match Uuid.ofText seatId with
      | none => s
      | some seat =>
          match findActiveHoldForSeat seat s.db with
          | none => s
          | some hold =>
              if hold.userId = userId then
                { s with cancels := s.cancels ++ [⟨userId, seat, traceId, hold⟩] }
              else s
  | .cancel i d faults =>
      match s.cancels[i]? with
      | none => s
      | some c =>
          if s.locked.contains c.hold.id then s
          else { s with cancels := s.cancels.eraseIdx i }.answer
            ((Scripts.releaseHold c.hold.id "user_cancelled" c.traceId d).run s.db faults
              inFailedSqlTransaction) (releasedEmission c.hold.id)
  | .paymentSucceeded holdId eventId traceId d faults =>
      if s.locked.contains holdId then s
      else s.answer ((Scripts.reserveHold holdId eventId "seat-service" traceId d).run s.db faults
        inFailedSqlTransaction) (reservedEmission holdId)
  | .paymentFailed holdId traceId d faults =>
      if s.locked.contains holdId then s
      else s.answer ((Scripts.releaseHold holdId "payment_failed" traceId d).run s.db faults
        inFailedSqlTransaction) (releasedEmission holdId)
  | .emit i => { s with answers := s.answers.eraseIdx i }
  | .tick traceId now draw => { s with sweeps := s.sweeps ++ [Sweep.begun traceId now draw] }
  | .sweep i scan =>
      match s.sweeps[i]? with
      | none => s
      | some t =>
          let (t', db) := t.next env s.locked scan s.db
          { s with db := db, sweeps := s.sweeps.set i t' }
  | .sweepFails i => { s with sweeps := s.sweeps.modify i Sweep.finish }

/-- What a step puts on the bus. -/
def busOutput (s : SeatRuntime) : RuntimeAction → List Emission
  | .emit i => s.answers[i]?.toList
  | .sweep i _ => (s.sweeps[i]?.map Sweep.emits).getD []
  | _ => []

/-! ### What the calls leave behind -/

theorem SqlSession.Script.Does.run {α : Type} {x : Script SqlError SeatDb α} {d : SeatDb}
    {done : α → SeatDb → Prop} (h : x.Does d done) (faults : Nat → Option SqlError) :
    (∃ a, (x.run d faults inFailedSqlTransaction).1 = .ok a ∧
      done a (x.run d faults inFailedSqlTransaction).2.durable) ∨
    (∃ e, (x.run d faults inFailedSqlTransaction).1 = .error e ∧
      (x.run d faults inFailedSqlTransaction).2.durable = d) := by
  have hrun := h _ (Idle.borrowed d faults inFailedSqlTransaction)
  unfold Script.run
  rcases hout : x (Session.borrowed d faults inFailedSqlTransaction) with ⟨result, s⟩
  rw [hout] at hrun
  cases result with
  | ok a => exact Or.inl ⟨a, rfl, hrun.2⟩
  | error e => exact Or.inr ⟨e, rfl, hrun.2⟩

/-- The event reports the transition of this hold. -/
def SeatBusEvent.Reports (h : HoldRow) : SeatBusEvent → Prop
  | .held seatId userId heldUntil =>
      Uuid.ofText seatId = some h.seatId ∧ userId = h.userId ∧ heldUntil = h.heldUntil
  | .released seatId => seatId = h.seatId ∧ h.status = .released
  | .reserved seatId userId => seatId = h.seatId ∧ userId = h.userId ∧ h.status = .reserved

instance (h : HoldRow) : DecidablePred (SeatBusEvent.Reports h)
  | .held seatId userId heldUntil => inferInstanceAs (Decidable
      (Uuid.ofText seatId = some h.seatId ∧ userId = h.userId ∧ heldUntil = h.heldUntil))
  | .released seatId => inferInstanceAs (Decidable (seatId = h.seatId ∧ h.status = .released))
  | .reserved seatId userId => inferInstanceAs (Decidable
      (seatId = h.seatId ∧ userId = h.userId ∧ h.status = .reserved))

/-- The transition the emission reports is durable. -/
def Emission.Committed (db : SeatDb) (e : Emission) : Prop :=
  ∃ h ∈ db.holds, h.id = e.holdId ∧ e.event.Reports h

instance (db : SeatDb) (e : Emission) : Decidable (e.Committed db) :=
  inferInstanceAs (Decidable (∃ h ∈ db.holds, h.id = e.holdId ∧ e.event.Reports h))

/-- The holds with these ids are the same in both databases. -/
def SameHolds (ids : List Uuid) (db db' : SeatDb) : Prop :=
  (db'.holds.filter fun h => ids.contains h.id) = db.holds.filter fun h => ids.contains h.id

/-- What a transaction of a call leaves: one step of `seatStep`, the locked holds as they
    were, and nothing to report that is not durable. -/
structure Call.Leaves (env : SeatEnv) (s : SeatRuntime) (emissions : List Emission)
    (db' : SeatDb) : Prop where
  effect : ∃ c, SeatEffect env s.db c db'
  locked : SameHolds s.locked s.db db'
  committed : ∀ e ∈ emissions, e.Committed db'

theorem insertHoldTx_ok_cases {env : SeatEnv} {seatId : String} {userId : Uuid} {traceId : String}
    {d : HoldDraw} {db db' : SeatDb} {hold : HoldRow}
    (h : insertHoldTx env seatId userId traceId d db = (.ok (.ok hold), db')) :
    ∃ seat, Uuid.ofText seatId = some seat ∧ hold = newHold env seat userId d ∧
      holdViolation db.seats (lazyCleanup seat d.now db.holds) hold = none ∧
      db'.holds = lazyCleanup seat d.now db.holds ++ [hold] := by
  unfold insertHoldTx at h
  cases hseat : Uuid.ofText seatId with
  | none => simp [hseat] at h
  | some seat =>
    rw [hseat] at h
    dsimp only at h
    cases hviol : holdViolation db.seats (lazyCleanup seat d.now db.holds)
        (newHold env seat userId d) with
    | some err =>
      rw [hviol] at h
      dsimp only at h
      split at h
      · simp at h
      · simp at h
    | none =>
      rw [hviol] at h
      dsimp only at h
      obtain ⟨hok, rfl⟩ := Prod.ext_iff.mp h
      have hhold : newHold env seat userId d = hold := by simpa using hok
      rw [← hhold]
      exact ⟨seat, rfl, rfl, hviol, rfl⟩

/-- Every locked id is that of a hold. -/
def SeatRuntime.LocksExist (s : SeatRuntime) : Prop :=
  ∀ id ∈ s.locked, ∃ h ∈ s.db.holds, h.id = id

theorem leaves_hold {env : SeatEnv} {s : SeatRuntime} (hlocks : s.LocksExist) {seatId : String}
    {userId : Uuid} {traceId : String} {d : HoldDraw}
    (hfree : (s.waits fun h => Uuid.ofText seatId == some h.seatId || h.userId == userId) = false)
    {result : InsertHoldResult} {db' : SeatDb}
    (hdone : InsertHoldDone env seatId userId traceId d s.db result db') :
    Call.Leaves env s (heldEmission seatId userId result) db' := by
  cases result with
  | conflict reason =>
    unfold InsertHoldDone at hdone
    subst hdone
    exact ⟨⟨.insertHoldTx seatId userId traceId d, .nothing _⟩, rfl, by simp [heldEmission]⟩
  | ok hold =>
    unfold InsertHoldDone at hdone
    have heffect := insertHoldTx_effect env seatId userId traceId d s.db
    rw [hdone] at heffect
    obtain ⟨seat, hseat, hnew, hviol, hholds⟩ := insertHoldTx_ok_cases hdone
    refine ⟨⟨_, heffect⟩, ?_, ?_⟩
    · unfold SameHolds
      rw [hholds, List.filter_append, lazyCleanup, filter_update, List.filter_cons_of_neg]
      · simp
      · -- The id of the new hold is new.
        intro hlocked
        obtain ⟨h, hmem, hid⟩ := hlocks _ (List.contains_iff_mem.mp hlocked)
        obtain ⟨hfresh, -⟩ := holdViolation_eq_none_iff.mp hviol
        obtain ⟨h', hmem', hid'⟩ : ∃ h' ∈ lazyCleanup seat d.now s.db.holds, h'.id = h.id := by
          rw [← List.mem_map, lazyCleanup, map_update fun r _ => HoldRow.release_id d.now r]
          exact List.mem_map_of_mem hmem
        exact hfresh h' hmem' (hid'.trans hid)
      · intro h hmem hexpired
        rw [Bool.eq_false_iff]
        intro hlocked
        obtain ⟨hon, -, -⟩ := isExpiredOn_iff.mp hexpired
        have hnot := List.any_eq_false.mp hfree h hmem
        simp only [hseat, hon, beq_self_eq_true, Bool.true_or, Bool.and_true] at hnot
        exact hnot hlocked
      · intro h
        rfl
    · intro e he
      rw [List.mem_singleton.mp he]
      refine ⟨hold, ?_, rfl, ?_⟩
      · rw [hholds]
        exact List.mem_append_right _ List.mem_cons_self
      · rw [hnew]
        exact ⟨hseat, rfl, rfl⟩

theorem sameHolds_update {s : SeatRuntime} {holdId : Uuid}
    (hfree : s.locked.contains holdId = false) {f : HoldRow → HoldRow} (hid : ∀ h, (f h).id = h.id) :
    ((update (isActiveHold holdId) f s.db.holds).filter fun h => s.locked.contains h.id) =
      s.db.holds.filter fun h => s.locked.contains h.id := by
  apply filter_update
  · intro h _ hactive
    rw [(isActiveHold_iff.mp hactive).1]
    exact hfree
  · intro h
    rw [hid]

theorem leaves_release {env : SeatEnv} {s : SeatRuntime} (hwf : s.db.WellFormed) {holdId : Uuid}
    (hfree : s.locked.contains holdId = false) {reason traceId : String} {d : Draw}
    {result : ReleaseResult} {db' : SeatDb}
    (hdone : (result, db') = releaseHold holdId reason traceId d s.db) :
    Call.Leaves env s (releasedEmission holdId result) db' := by
  have heffect := releaseHold_effect hwf.holdKeys env holdId reason traceId d
  unfold releaseHold at hdone heffect
  cases hrows : returning (isActiveHold holdId) (HoldRow.release d.now) s.db.holds with
  | nil =>
    rw [hrows] at hdone heffect
    obtain ⟨rfl, rfl⟩ := Prod.mk.inj hdone
    exact ⟨⟨_, heffect⟩, rfl, by simp [releasedEmission]⟩
  | cons row rest =>
    rw [hrows] at hdone heffect
    obtain ⟨rfl, rfl⟩ := Prod.mk.inj hdone
    obtain ⟨hold, hmem, hid, hheld, rfl, -⟩ := returning_isActiveHold hwf.holdKeys hrows
    refine ⟨⟨_, heffect⟩, sameHolds_update hfree fun _ => rfl, ?_⟩
    intro e he
    rw [List.mem_singleton.mp he]
    refine ⟨hold.release d.now, ?_, hid, rfl, rfl⟩
    exact mem_update_of_mem hmem (isActiveHold_iff.mpr ⟨hid, hheld⟩)

theorem leaves_reserve {env : SeatEnv} {s : SeatRuntime} (hwf : s.db.WellFormed) {holdId : Uuid}
    (hfree : s.locked.contains holdId = false) {eventId : Uuid} {group traceId : String} {d : Draw}
    {result : ReserveResult} {db' : SeatDb}
    (hdone : (result, db') = reserveHold holdId eventId group traceId d s.db) :
    Call.Leaves env s (reservedEmission holdId result) db' := by
  have heffect := reserveHold_effect hwf.holdKeys env holdId eventId group traceId d
  unfold reserveHold at hdone heffect
  by_cases hconsumed : s.db.consumedEvents.contains (eventId, group) = true
  · rw [if_pos hconsumed] at hdone heffect
    obtain ⟨rfl, rfl⟩ := Prod.mk.inj hdone
    exact ⟨⟨_, heffect⟩, rfl, by simp [reservedEmission]⟩
  · rw [if_neg hconsumed] at hdone heffect
    cases hrows : returning (isActiveHold holdId) (HoldRow.reserve d.now) s.db.holds with
    | nil =>
      rw [hrows] at hdone heffect
      obtain ⟨rfl, rfl⟩ := Prod.mk.inj hdone
      exact ⟨⟨_, heffect⟩, rfl, by simp [reservedEmission]⟩
    | cons row rest =>
      rw [hrows] at hdone heffect
      obtain ⟨rfl, rfl⟩ := Prod.mk.inj hdone
      obtain ⟨hold, hmem, hid, hheld, rfl, -⟩ := returning_isActiveHold hwf.holdKeys hrows
      refine ⟨⟨_, heffect⟩, sameHolds_update hfree fun _ => rfl, ?_⟩
      intro e he
      rw [List.mem_singleton.mp he]
      refine ⟨hold.reserve d.now, ?_, hid, rfl, rfl, rfl⟩
      exact mem_update_of_mem hmem (isActiveHold_iff.mpr ⟨hid, hheld⟩)

/-! ### A tick keeps what it has locked -/

/-- The rows a tick has still to announce. -/
def Sweep.unannounced (t : Sweep) : List HoldRow :=
  match t.point with
  | .loop rest => rest
  | .announce r rest => r :: rest
  | .emit _ rest => rest
  | _ => []

/-- The row whose seat is freed and not announced yet. -/
def Sweep.halfDone (t : Sweep) : List HoldRow :=
  match t.point with
  | .announce r _ => [r]
  | _ => []

/-- What a tick has done so far is right for the database it will be committed to. -/
structure Sweep.Consistent (env : SeatEnv) (db : SeatDb) (t : Sweep) : Prop where
  batch : returning (fun h => t.locks.contains h.id) (HoldRow.release t.now) db.holds = t.batch
  expired : ∀ h ∈ db.holds, h.id ∈ t.locks → h.status = .held ∧ h.heldUntil < t.now
  limit : t.batch.length ≤ env.sweepBatchLimit
  announced : t.announced ++ t.unannounced = t.batch
  freed : t.freed = (t.announced ++ t.halfDone).map HoldRow.seatId
  emitting : ∀ r rest, t.point = .emit r rest → r ∈ t.announced
  idle : t.point = .update ∨ t.point = .ended → t.batch = []

theorem Sweep.Consistent.of_empty {env : SeatEnv} {db : SeatDb} {t : Sweep} (hbatch : t.batch = [])
    (hannounced : t.announced = []) (hfreed : t.freed = [])
    (hpoint : t.point = .update ∨ t.point = .ended) : t.Consistent env db where
  batch := by simp [Sweep.locks, hbatch, returning]
  expired := by simp [Sweep.locks, hbatch]
  limit := by simp [hbatch]
  announced := by rcases hpoint with h | h <;> simp [Sweep.unannounced, h, hbatch, hannounced]
  freed := by rcases hpoint with h | h <;> simp [Sweep.halfDone, h, hfreed, hannounced]
  emitting := by rcases hpoint with h | h <;> simp [h]
  idle := fun _ => hbatch

theorem Sweep.consistent_begun (env : SeatEnv) (db : SeatDb) (traceId : Uuid) (now : Nat)
    (draw : Uuid → Uuid × Nat) : (Sweep.begun traceId now draw).Consistent env db :=
  .of_empty rfl rfl rfl (Or.inl rfl)

theorem Sweep.consistent_finish (env : SeatEnv) (db : SeatDb) (t : Sweep) :
    t.finish.Consistent env db :=
  .of_empty rfl rfl rfl (Or.inr rfl)

/-- Holds agree on a part of the ids they agree on. -/
theorem SameHolds.mono {ids ids' : List Uuid} {db db' : SeatDb} (h : SameHolds ids db db')
    (hsub : ids' ⊆ ids) : SameHolds ids' db db' := by
  have hboth : ∀ holds : List HoldRow, (holds.filter fun h => ids'.contains h.id) =
      (holds.filter fun h => ids.contains h.id).filter fun h => ids'.contains h.id := by
    intro holds
    rw [List.filter_filter]
    apply List.filter_congr
    intro r _
    by_cases hin : r.id ∈ ids'
    · simp [hin, hsub hin]
    · simp [hin]
  unfold SameHolds
  rw [hboth, h, ← hboth]

theorem Sweep.Consistent.sameHolds {env : SeatEnv} {db db' : SeatDb} {t : Sweep}
    (h : t.Consistent env db) (hsame : SameHolds t.locks db db') : t.Consistent env db' where
  batch := by
    have hbatch := h.batch
    unfold returning at hbatch ⊢
    rw [hsame, hbatch]
  expired := by
    intro r hr hlocked
    have hmem : r ∈ db.holds.filter fun h => t.locks.contains h.id := by
      rw [← hsame]
      exact List.mem_filter.mpr ⟨hr, by simpa using hlocked⟩
    exact h.expired r (List.mem_filter.mp hmem).1 hlocked
  limit := h.limit
  announced := h.announced
  freed := h.freed
  emitting := h.emitting
  idle := h.idle

/-- A row of the batch is a HELD hold, released. -/
theorem Sweep.Consistent.mem_batch {env : SeatEnv} {db : SeatDb} {t : Sweep}
    (h : t.Consistent env db) {r : HoldRow} (hr : r ∈ t.batch) :
    ∃ hold ∈ db.holds, hold.id ∈ t.locks ∧ hold.status = .held ∧ r = hold.release t.now := by
  rw [← h.batch] at hr
  obtain ⟨hold, hmem, hlocked, rfl⟩ := mem_returning.mp hr
  have hin : hold.id ∈ t.locks := by simpa using hlocked
  exact ⟨hold, hmem, hin, (h.expired hold hmem hin).1, rfl⟩

/-- The seat of a locked hold has no other active one. -/
theorem Sweep.Consistent.seat_free {env : SeatEnv} {db : SeatDb} {t : Sweep}
    (h : t.Consistent env db) (hwf : db.WellFormed) {r : HoldRow} (hr : r ∈ t.batch) :
    hasActiveHold (t.writes db).holds r.seatId = false := by
  obtain ⟨hold, hmem, hlocked, hheld, rfl⟩ := h.mem_batch hr
  simp only [hasActiveHold, List.any_eq_false, Bool.and_eq_true, beq_iff_eq, not_and]
  intro x hx hseat hactive
  rcases mem_update.mp hx with ⟨x₀, -, -, rfl⟩ | ⟨hx, hnot⟩
  · simp at hactive
  · have heq : x = hold :=
      hwf.activePerSeat x hx hold hmem (by simp [hactive]) (by simp [hheld]) hseat
    rw [heq] at hnot
    simp [hlocked] at hnot

theorem length_batch_le {holds : List HoldRow} (hkeys : KeyedBy HoldRow.id holds) (ids : List Uuid)
    (f : HoldRow → HoldRow) :
    (returning (fun h => ids.contains h.id) f holds).length ≤ ids.length := by
  have hnodup : ((holds.filter fun h => ids.contains h.id).map HoldRow.id).Nodup :=
    hkeys.sublist List.filter_sublist
  have hsub : ((holds.filter fun h => ids.contains h.id).map HoldRow.id) ⊆ ids := by
    intro id hid
    obtain ⟨h, hmem, rfl⟩ := List.mem_map.mp hid
    simpa using (List.mem_filter.mp hmem).2
  rw [returning, List.length_map, ← List.length_map HoldRow.id]
  exact (List.subperm_of_subset hnodup hsub).length_le

theorem locks_picked {holds : List HoldRow} {ids : List Uuid} {now : Nat} {id : Uuid} :
    id ∈ (returning (fun h => ids.contains h.id) (HoldRow.release now) holds).map HoldRow.id ↔
      id ∈ ids ∧ ∃ h ∈ holds, h.id = id := by
  simp only [List.mem_map, mem_returning]
  constructor
  · rintro ⟨r, ⟨h, hmem, hin, rfl⟩, rfl⟩
    exact ⟨by simpa using hin, h, hmem, rfl⟩
  · rintro ⟨hin, h, hmem, rfl⟩
    exact ⟨h.release now, ⟨h, hmem, by simpa using hin, rfl⟩, rfl⟩

/-- The holds a tick picks are expired, HELD and not locked. -/
theorem Sweep.mem_pick {env : SeatEnv} {locked : List Uuid} {scan : Scan} {t : Sweep} {db : SeatDb}
    (hkeys : KeyedBy HoldRow.id db.holds) {h : HoldRow} (hmem : h ∈ db.holds)
    (hpicked : h.id ∈ (t.pick env locked scan db).map HoldRow.id) :
    h.status = .held ∧ h.heldUntil < t.now ∧ h.id ∉ locked := by
  obtain ⟨hin, -⟩ := locks_picked.mp hpicked
  obtain ⟨hold, hhold, hid, hheld, hlt⟩ := mem_sweepBatch hin
  rw [hkeys.eq_of_mem hmem hhold hid.symm]
  have hscan := (List.mem_filter.mp (List.mem_filter.mp (List.mem_of_mem_take hin)).1).2
  exact ⟨hheld, hlt, by simpa [← hid] using hscan⟩

theorem Sweep.Consistent.picked {env : SeatEnv} {db : SeatDb} {t : Sweep}
    (h : t.Consistent env db) (hwf : db.WellFormed) (hpoint : t.point = .update)
    (locked : List Uuid) (scan : Scan) :
    Sweep.Consistent env db
      { t with batch := t.pick env locked scan db, point := .loop (t.pick env locked scan db) } := by
  have hnone : t.announced = [] := by
    have hall := h.announced
    rw [h.idle (Or.inl hpoint)] at hall
    exact (List.append_eq_nil_iff.mp hall).1
  refine ⟨?_, ?_, ?_, ?_, ?_, by simp, by simp⟩
  · unfold Sweep.locks
    dsimp only
    unfold Sweep.pick returning
    congr 1
    apply List.filter_congr
    intro r hr
    rw [Bool.eq_iff_iff, List.contains_iff_mem, List.contains_iff_mem, ← returning, locks_picked]
    exact ⟨fun hin => hin.1, fun hin => ⟨hin, r, hr, rfl⟩⟩
  · intro r hr hlocked
    obtain ⟨hheld, hlt, -⟩ := Sweep.mem_pick hwf.holdKeys hr hlocked
    exact ⟨hheld, hlt⟩
  · exact (length_batch_le hwf.holdKeys _ _).trans (List.length_take_le _ _)
  · simp [hnone, Sweep.unannounced]
  · have hfreed := h.freed
    rw [hnone] at hfreed
    simp [hfreed, hnone, Sweep.halfDone, hpoint]

theorem Sweep.Consistent.next {env : SeatEnv} {db : SeatDb} {t : Sweep}
    (h : t.Consistent env db) (hwf : db.WellFormed) (locked : List Uuid) (scan : Scan)
    (hopen : t.point ≠ .loop []) : (t.next env locked scan db).1.Consistent env db := by
  unfold Sweep.next
  cases hpoint : t.point with
  | update => exact h.picked hwf hpoint locked scan
  | loop rest =>
    cases rest with
    | nil => exact absurd hpoint hopen
    | cons r rest =>
      have hall := h.announced
      have hfreed := h.freed
      simp only [Sweep.unannounced, Sweep.halfDone, hpoint, List.append_nil] at hall hfreed
      have hr : r ∈ t.batch := by simp [← hall]
      dsimp only
      rw [h.seat_free hwf hr]
      refine ⟨h.batch, h.expired, h.limit, ?_, ?_, by simp, by simp⟩
      · simpa [Sweep.unannounced] using hall
      · simp [Sweep.halfDone, hfreed]
  | announce r rest =>
    have hall := h.announced
    have hfreed := h.freed
    simp only [Sweep.unannounced, Sweep.halfDone, hpoint] at hall hfreed
    refine ⟨h.batch, h.expired, h.limit, ?_, ?_, by simp, by simp⟩
    · simpa [Sweep.unannounced] using hall
    · simp [Sweep.halfDone, hfreed]
  | emit r rest =>
    have hall := h.announced
    have hfreed := h.freed
    simp only [Sweep.unannounced, Sweep.halfDone, hpoint] at hall hfreed
    exact ⟨h.batch, h.expired, h.limit, by simpa [Sweep.unannounced] using hall,
      by simpa [Sweep.halfDone] using hfreed, by simp, by simp⟩
  | ended => exact h

/-! ### The COMMIT of a tick -/

theorem Sweep.Consistent.locks_nodup {env : SeatEnv} {db : SeatDb} {t : Sweep}
    (h : t.Consistent env db) (hwf : db.WellFormed) : t.locks.Nodup := by
  have hlocks : t.locks = (db.holds.filter fun h => t.locks.contains h.id).map HoldRow.id := by
    conv_lhs => rw [Sweep.locks, ← h.batch, returning, List.map_map]
    rfl
  rw [hlocks]
  exact hwf.holdKeys.sublist List.filter_sublist

/-- The loop of a tick writes seats and outbox. -/
theorem foldl_sweepRow_eq (t : Sweep) (rows : List HoldRow) (db : SeatDb) :
    rows.foldl (sweepRow t.traceId.toString t.now t.draw) db =
      { db with
        seats := rows.foldl (fun seats r => freeSeat r.seatId db.holds seats) db.seats
        outbox := rows.foldl t.announce db.outbox } := by
  induction rows generalizing db with
  | nil => rfl
  | cons r rows ih =>
    rw [List.foldl_cons, ih]
    rfl

theorem freeSeat_eq_markSeat {id : Uuid} {holds : List HoldRow}
    (hfree : hasActiveHold holds id = false) (seats : List SeatRow) :
    freeSeat id holds seats = markSeat id .available seats := by
  unfold freeSeat markSeat
  rw [hfree]
  simp

theorem foldl_freeSeat_eq {holds : List HoldRow} {rows : List HoldRow}
    (hfree : ∀ r ∈ rows, hasActiveHold holds r.seatId = false) (seats : List SeatRow) :
    rows.foldl (fun seats r => freeSeat r.seatId holds seats) seats =
      (rows.map HoldRow.seatId).foldl (fun seats id => markSeat id .available seats) seats := by
  induction rows generalizing seats with
  | nil => rfl
  | cons r rows ih =>
    rw [List.foldl_cons, List.map_cons, List.foldl_cons,
      freeSeat_eq_markSeat (hfree r List.mem_cons_self),
      ih fun x hx => hfree x (List.mem_cons_of_mem _ hx)]

/-- At its COMMIT a tick has the whole batch behind it. -/
theorem Sweep.Consistent.committing {env : SeatEnv} {db : SeatDb} {t : Sweep}
    (h : t.Consistent env db) (hpoint : t.point = .loop []) :
    t.announced = t.batch ∧ t.freed = t.batch.map HoldRow.seatId := by
  have hall := h.announced
  have hfreed := h.freed
  simp only [Sweep.unannounced, Sweep.halfDone, hpoint, List.append_nil] at hall hfreed
  rw [hall] at hfreed
  exact ⟨hall, hfreed⟩

theorem sweepBatch_locks {env : SeatEnv} {db : SeatDb} {t : Sweep} (h : t.Consistent env db)
    (hnodup : t.locks.Nodup) :
    sweepBatch env.sweepBatchLimit ⟨t.locks, hnodup⟩ t.now db.holds = t.locks := by
  have hexpired : (t.locks.filter fun id => db.holds.any fun r =>
      r.id == id && r.status == .held && decide (r.heldUntil < t.now)) = t.locks := by
    apply List.filter_eq_self.mpr
    intro id hid
    obtain ⟨r, hr, rfl⟩ := List.mem_map.mp hid
    obtain ⟨hold, hmem, hlocked, hheld, rfl⟩ := h.mem_batch hr
    exact List.any_eq_true.mpr ⟨hold, hmem, by simp [hheld, (h.expired hold hmem hlocked).2]⟩
  unfold sweepBatch
  dsimp only
  rw [hexpired]
  apply List.take_of_length_le
  rw [Sweep.locks, List.length_map]
  exact h.limit

/-- **What a tick commits is what `tick` does at once** to the database of its COMMIT. -/
theorem Sweep.Consistent.writes_eq_tick {env : SeatEnv} {db : SeatDb} {t : Sweep}
    (h : t.Consistent env db) (hwf : db.WellFormed) (hpoint : t.point = .loop []) :
    t.writes db = tick env ⟨t.locks, h.locks_nodup hwf⟩ t.traceId t.now t.draw db := by
  obtain ⟨hannounced, hfreed⟩ := h.committing hpoint
  unfold tick
  dsimp only
  rw [sweepBatch_locks h, h.batch, foldl_sweepRow_eq, Sweep.writes, hannounced, hfreed,
    foldl_freeSeat_eq]
  intro r hr
  exact h.seat_free hwf hr

/-! ### What a step of the machine can do -/

structure SeatRuntime.Consistent (env : SeatEnv) (s : SeatRuntime) : Prop where
  wellFormed : s.db.WellFormed
  sweeps : ∀ t ∈ s.sweeps, t.Consistent env s.db
  locked : s.locked.Nodup

theorem SeatRuntime.consistent_start {env : SeatEnv} {db : SeatDb} (h : db.WellFormed) :
    (SeatRuntime.start db).Consistent env :=
  ⟨h, by simp [SeatRuntime.start], by simp [SeatRuntime.start, SeatRuntime.locked]⟩

theorem SeatRuntime.Consistent.locksExist {env : SeatEnv} {s : SeatRuntime}
    (h : s.Consistent env) : s.LocksExist := by
  intro id hid
  obtain ⟨t, ht, hlocked⟩ := List.mem_flatMap.mp hid
  obtain ⟨r, hr, rfl⟩ := List.mem_map.mp hlocked
  obtain ⟨hold, hmem, -, -, rfl⟩ := (h.sweeps t ht).mem_batch hr
  exact ⟨hold, hmem, rfl⟩

inductive RuntimeEffect (env : SeatEnv) (s : SeatRuntime) : RuntimeAction → SeatRuntime → Prop
  | nothing (a : RuntimeAction) : RuntimeEffect env s a s
  | call (a : RuntimeAction) (cancels : List Cancellation) (emissions : List Emission)
      (db' : SeatDb) (hleaves : Call.Leaves env s emissions db') (hcancels : cancels ⊆ s.cancels) :
      RuntimeEffect env s a
        { s with db := db', cancels := cancels, answers := s.answers ++ emissions }
  | lookup (a : RuntimeAction) (c : Cancellation) (hrow : c.hold ∈ s.db.holds)
      (hown : c.hold.userId = c.userId) (hseat : c.hold.seatId = c.seatId) :
      RuntimeEffect env s a { s with cancels := s.cancels ++ [c] }
  | emit (i : Nat) : RuntimeEffect env s (.emit i) { s with answers := s.answers.eraseIdx i }
  | tick (traceId : Uuid) (now : Nat) (draw : Uuid → Uuid × Nat) :
      RuntimeEffect env s (.tick traceId now draw)
        { s with sweeps := s.sweeps ++ [Sweep.begun traceId now draw] }
  /-- A statement of a tick that is not its COMMIT. -/
  | sweep (scan : Scan) (before after : List Sweep) (t : Sweep)
      (hsplit : s.sweeps = before ++ t :: after) (hopen : t.point ≠ .loop []) :
      RuntimeEffect env s (.sweep before.length scan)
        { s with sweeps := before ++ (t.next env s.locked scan s.db).1 :: after }
  | commit (scan : Scan) (before after : List Sweep) (t : Sweep)
      (hsplit : s.sweeps = before ++ t :: after) (hpoint : t.point = .loop []) :
      RuntimeEffect env s (.sweep before.length scan)
        { s with db := t.writes s.db, sweeps := before ++ t.finish :: after }
  | fails (before after : List Sweep) (t : Sweep) (hsplit : s.sweeps = before ++ t :: after) :
      RuntimeEffect env s (.sweepFails before.length)
        { s with sweeps := before ++ t.finish :: after }

/-- Only its COMMIT changes the database. -/
theorem Sweep.next_db {env : SeatEnv} {locked : List Uuid} {scan : Scan} {t : Sweep} {db : SeatDb}
    (hopen : t.point ≠ .loop []) : (t.next env locked scan db).2 = db := by
  unfold Sweep.next
  cases hpoint : t.point with
  | loop rest =>
    cases rest with
    | nil => exact absurd hpoint hopen
    | cons r rest => rfl
  | _ => rfl

theorem Sweep.next_commit {env : SeatEnv} {locked : List Uuid} {scan : Scan} {t : Sweep}
    {db : SeatDb} (hpoint : t.point = .loop []) :
    t.next env locked scan db = (t.finish, t.writes db) := by
  unfold Sweep.next
  rw [hpoint]

theorem runtimeStep_sweep {env : SeatEnv} {s : SeatRuntime} {scan : Scan}
    {before after : List Sweep} {t : Sweep} (hsplit : s.sweeps = before ++ t :: after) :
    runtimeStep env s (.sweep before.length scan) =
      { s with
        db := (t.next env s.locked scan s.db).2
        sweeps := before ++ (t.next env s.locked scan s.db).1 :: after } := by
  simp [runtimeStep, hsplit]

/-- A call that returns has done what its transaction does, and one that throws nothing. -/
theorem effect_answer {env : SeatEnv} {s : SeatRuntime} (a : RuntimeAction) {α : Type}
    {x : Script SqlError SeatDb α} {done : α → SeatDb → Prop} (h : x.Does s.db done)
    (faults : Nat → Option SqlError) {emission : α → List Emission}
    (hleaves : ∀ result db', done result db' → Call.Leaves env s (emission result) db')
    {cancels : List Cancellation} (hcancels : cancels ⊆ s.cancels) :
    RuntimeEffect env s a ({ s with cancels := cancels }.answer
      (x.run s.db faults inFailedSqlTransaction) emission) := by
  unfold SeatRuntime.answer
  rcases h.run faults with ⟨result, hok, hdone⟩ | ⟨e, herror, hsame⟩
  · rw [hok]
    exact .call a cancels _ _ (hleaves result _ hdone) hcancels
  · rw [herror, hsame]
    exact .call a cancels [] s.db
      ⟨⟨.releaseHold 0 "" "" ⟨0, 0, 0⟩, .nothing _⟩, rfl, by simp⟩ hcancels

/-- **Everything a step can do.** -/
theorem SeatRuntime.Consistent.effect {env : SeatEnv} {s : SeatRuntime} (h : s.Consistent env)
    (a : RuntimeAction) : RuntimeEffect env s a (runtimeStep env s a) := by
  cases a with
  | hold seatId userId traceId d faults =>
    dsimp only [runtimeStep]
    split
    · exact .nothing _
    · rename_i hwaits
      exact effect_answer _ (insertHoldTx_does env seatId userId traceId d s.db) faults
        (fun _ _ hdone => leaves_hold h.locksExist (Bool.eq_false_iff.mpr hwaits) hdone)
        (List.Subset.refl _)
  | lookup seatId userId traceId =>
    dsimp only [runtimeStep]
    cases Uuid.ofText seatId with
    | none => exact .nothing _
    | some seat =>
      dsimp only
      cases hfound : findActiveHoldForSeat seat s.db with
      | none => exact .nothing _
      | some hold =>
        dsimp only
        split
        · rename_i hown
          have hseat := List.find?_some hfound
          simp only [Bool.and_eq_true, beq_iff_eq] at hseat
          exact .lookup _ ⟨userId, seat, traceId, hold⟩ (List.mem_of_find?_eq_some hfound) hown
            hseat.1
        · exact .nothing _
  | cancel i d faults =>
    dsimp only [runtimeStep]
    cases s.cancels[i]? with
    | none => exact .nothing _
    | some c =>
      dsimp only
      split
      · exact .nothing _
      · rename_i hlocked
        exact effect_answer _ (releaseHold_does c.hold.id "user_cancelled" c.traceId d s.db) faults
          (fun _ _ hdone => leaves_release h.wellFormed (Bool.eq_false_iff.mpr hlocked) hdone)
          (List.eraseIdx_subset)
  | paymentSucceeded holdId eventId traceId d faults =>
    dsimp only [runtimeStep]
    split
    · exact .nothing _
    · rename_i hlocked
      exact effect_answer _ (reserveHold_does holdId eventId "seat-service" traceId d s.db) faults
        (fun _ _ hdone => leaves_reserve h.wellFormed (Bool.eq_false_iff.mpr hlocked) hdone)
        (List.Subset.refl _)
  | paymentFailed holdId traceId d faults =>
    dsimp only [runtimeStep]
    split
    · exact .nothing _
    · rename_i hlocked
      exact effect_answer _ (releaseHold_does holdId "payment_failed" traceId d s.db) faults
        (fun _ _ hdone => leaves_release h.wellFormed (Bool.eq_false_iff.mpr hlocked) hdone)
        (List.Subset.refl _)
  | emit i => exact .emit i
  | tick traceId now draw => exact .tick traceId now draw
  | sweep i scan =>
    cases hget : s.sweeps[i]? with
    | none =>
      have hstep : runtimeStep env s (.sweep i scan) = s := by
        dsimp only [runtimeStep]
        rw [hget]
      rw [hstep]
      exact .nothing _
    | some t =>
      obtain ⟨before, after, hsplit, rfl⟩ := exists_split_of_getElem? hget
      rw [runtimeStep_sweep hsplit]
      by_cases hpoint : t.point = .loop []
      · rw [Sweep.next_commit hpoint]
        exact .commit scan before after t hsplit hpoint
      · rw [Sweep.next_db hpoint]
        exact .sweep scan before after t hsplit hpoint
  | sweepFails i =>
    cases hget : s.sweeps[i]? with
    | none =>
      have hstep : runtimeStep env s (.sweepFails i) = s := by
        dsimp only [runtimeStep]
        rw [List.modify_eq_self (List.getElem?_eq_none_iff.mp hget)]
      rw [hstep]
      exact .nothing _
    | some t =>
      obtain ⟨before, after, hsplit, rfl⟩ := exists_split_of_getElem? hget
      have hstep : runtimeStep env s (.sweepFails before.length) =
          { s with sweeps := before ++ t.finish :: after } := by
        simp [runtimeStep, hsplit, List.modify_eq_take_drop]
      rw [hstep]
      exact .fails before after t hsplit

/-! ### Every state is consistent, and refines the transactions -/

/-- Seen from the database, a step is nothing or one transaction. -/
theorem SeatRuntime.Consistent.effect_db {env : SeatEnv} {s s' : SeatRuntime} {a : RuntimeAction}
    (h : s.Consistent env) (heffect : RuntimeEffect env s a s') :
    ∃ c, SeatEffect env s.db c s'.db := by
  have hnothing : ∃ c, SeatEffect env s.db c s.db :=
    ⟨.releaseHold 0 "" "" ⟨0, 0, 0⟩, .nothing _⟩
  cases heffect with
  | nothing => exact hnothing
  | call _ cancels emissions db' hleaves hcancels => exact hleaves.effect
  | lookup _ c hrow hown hseat => exact hnothing
  | emit i => exact hnothing
  | tick traceId now draw => exact hnothing
  | sweep scan before after t hsplit hopen => exact hnothing
  | commit scan before after t hsplit hpoint =>
    have ht : t ∈ s.sweeps := by simp [hsplit]
    have hcommit := (h.sweeps t ht).writes_eq_tick h.wellFormed hpoint
    refine ⟨.tick ⟨t.locks, (h.sweeps t ht).locks_nodup h.wellFormed⟩ t.traceId t.now t.draw, ?_⟩
    dsimp only
    rw [hcommit]
    exact tick_effect h.wellFormed.holdKeys env _ _ _ _
  | fails before after t hsplit => exact hnothing

theorem SeatRuntime.locked_split {s : SeatRuntime} {before after : List Sweep} {t : Sweep}
    (hsplit : s.sweeps = before ++ t :: after) :
    s.locked = before.flatMap Sweep.locks ++ (t.locks ++ after.flatMap Sweep.locks) := by
  rw [SeatRuntime.locked, hsplit, List.flatMap_append, List.flatMap_cons]

@[simp] theorem Sweep.finish_locks (t : Sweep) : t.finish.locks = [] := rfl

/-- The other ticks hold what a finished one has let go. -/
theorem locked_finish {before after : List Sweep} {t : Sweep}
    (h : ((before ++ t :: after).flatMap Sweep.locks).Nodup) :
    ((before ++ t.finish :: after).flatMap Sweep.locks).Nodup := by
  apply List.Nodup.sublist _ h
  simp only [List.flatMap_append, List.flatMap_cons, Sweep.finish_locks, List.nil_append]
  exact (List.sublist_append_right _ _).append_left _

theorem sameHolds_writes {t : Sweep} {db : SeatDb} {ids : List Uuid}
    (hdisjoint : ∀ id ∈ t.locks, id ∉ ids) : SameHolds ids db (t.writes db) := by
  apply filter_update
  · intro h _ hlocked
    simpa using hdisjoint h.id (by simpa using hlocked)
  · intro h
    rfl

/-- A tick locks what it picks, and a later statement no more. -/
theorem Sweep.locks_next {env : SeatEnv} {locked : List Uuid} {scan : Scan} {t : Sweep}
    {db : SeatDb} (hopen : t.point ≠ .loop []) :
    (t.next env locked scan db).1.locks =
      if t.point = .update then (t.pick env locked scan db).map HoldRow.id else t.locks := by
  unfold Sweep.next
  cases hpoint : t.point with
  | loop rest =>
    cases rest with
    | nil => exact absurd hpoint hopen
    | cons r rest => rfl
  | _ => rfl

theorem SeatRuntime.Consistent.locked_next {env : SeatEnv} {s : SeatRuntime}
    (h : s.Consistent env) {before after : List Sweep} {t : Sweep} (scan : Scan)
    (hsplit : s.sweeps = before ++ t :: after) (hopen : t.point ≠ .loop []) :
    ((before ++ (t.next env s.locked scan s.db).1 :: after).flatMap Sweep.locks).Nodup := by
  have hlocked := h.locked
  rw [SeatRuntime.locked_split hsplit] at hlocked
  rw [List.flatMap_append, List.flatMap_cons, Sweep.locks_next hopen]
  split
  · have hnodup : ((t.pick env s.locked scan s.db).map HoldRow.id).Nodup := by
      rw [Sweep.pick, returning, List.map_map]
      exact h.wellFormed.holdKeys.sublist List.filter_sublist
    have hnew : ∀ id ∈ (t.pick env s.locked scan s.db).map HoldRow.id, id ∉ s.locked := by
      intro id hid
      obtain ⟨-, hold, hmem, rfl⟩ := locks_picked.mp hid
      exact (Sweep.mem_pick h.wellFormed.holdKeys hmem hid).2.2
    generalize (t.pick env s.locked scan s.db).map HoldRow.id = picked at hnodup hnew ⊢
    rw [SeatRuntime.locked_split hsplit] at hnew
    simp only [List.nodup_append, List.mem_append] at hlocked hnew ⊢
    refine ⟨hlocked.1, ⟨hnodup, hlocked.2.1.2.1, ?_⟩, ?_⟩
    · rintro a ha b hb rfl
      exact hnew a ha (Or.inr (Or.inr hb))
    · rintro a ha b (hb | hb) rfl
      · exact hnew a hb (Or.inl ha)
      · exact hlocked.2.2 a ha a (Or.inr hb) rfl
  · exact hlocked

theorem SeatRuntime.Consistent.of_effect {env : SeatEnv} {s s' : SeatRuntime} {a : RuntimeAction}
    (h : s.Consistent env) (heffect : RuntimeEffect env s a s') : s'.Consistent env := by
  obtain ⟨c, hdb⟩ := h.effect_db heffect
  have hwf := h.wellFormed.effect hdb
  cases heffect with
  | nothing => exact h
  | call _ cancels emissions db' hleaves hcancels =>
    refine ⟨hwf, ?_, h.locked⟩
    intro t ht
    apply (h.sweeps t ht).sameHolds
    exact hleaves.locked.mono fun id hid => List.mem_flatMap.mpr ⟨t, ht, hid⟩
  | lookup _ c hrow hown hseat => exact ⟨hwf, h.sweeps, h.locked⟩
  | emit i => exact ⟨hwf, h.sweeps, h.locked⟩
  | tick traceId now draw =>
    refine ⟨hwf, ?_, ?_⟩
    · intro t ht
      rcases List.mem_append.mp ht with ht | ht
      · exact h.sweeps t ht
      · rw [List.mem_singleton.mp ht]
        exact Sweep.consistent_begun env s.db traceId now draw
    · simpa [SeatRuntime.locked, Sweep.begun, Sweep.locks] using h.locked
  | sweep scan before after t hsplit hopen =>
    have ht : t ∈ s.sweeps := by simp [hsplit]
    have hall := h.sweeps
    rw [hsplit] at hall
    exact ⟨hwf, forall_mem_replace hall ((h.sweeps t ht).next h.wellFormed s.locked scan hopen),
      h.locked_next scan hsplit hopen⟩
  | commit scan before after t hsplit hpoint =>
    have hlocked := h.locked
    rw [SeatRuntime.locked_split hsplit] at hlocked
    simp only [List.nodup_append, List.mem_append] at hlocked
    have hothers : ∀ t' ∈ s.sweeps, (∀ id ∈ t.locks, id ∉ t'.locks) →
        t'.Consistent env (t.writes s.db) :=
      fun t' ht' hdisjoint => (h.sweeps t' ht').sameHolds (sameHolds_writes hdisjoint)
    refine ⟨hwf, ?_, ?_⟩
    · intro t' ht'
      rcases List.mem_append.mp ht' with ht' | ht'
      · apply hothers t' (by simp [hsplit, ht'])
        intro id hid hin
        exact hlocked.2.2 id (List.mem_flatMap.mpr ⟨t', ht', hin⟩) id (Or.inl hid) rfl
      · rcases List.mem_cons.mp ht' with rfl | ht'
        · exact Sweep.consistent_finish env _ t
        · apply hothers t' (by simp [hsplit, ht'])
          intro id hid hin
          exact hlocked.2.1.2.2 id hid id (List.mem_flatMap.mpr ⟨t', ht', hin⟩) rfl
    · have hall := h.locked
      rw [SeatRuntime.locked, hsplit] at hall
      exact locked_finish hall
  | fails before after t hsplit =>
    have hall := h.sweeps
    have hlocked := h.locked
    rw [hsplit] at hall
    rw [SeatRuntime.locked, hsplit] at hlocked
    exact ⟨hwf, forall_mem_replace hall (Sweep.consistent_finish env _ t), locked_finish hlocked⟩

/-- **Refinement.**  Seen from the database, a step is nothing or one transaction. -/
theorem SeatRuntime.Consistent.runtimeStep_db {env : SeatEnv} {s : SeatRuntime}
    (h : s.Consistent env) (a : RuntimeAction) :
    ∃ c, SeatEffect env s.db c (runtimeStep env s a).db := h.effect_db (h.effect a)

theorem SeatRuntime.Consistent.step {env : SeatEnv} {s : SeatRuntime} (h : s.Consistent env)
    (a : RuntimeAction) : (runtimeStep env s a).Consistent env := h.of_effect (h.effect a)

theorem SeatDb.WellFormed.consistent_exec {env : SeatEnv} {db : SeatDb} (h : db.WellFormed)
    (as : List RuntimeAction) :
    (exec (runtimeStep env) (SeatRuntime.start db) as).Consistent env :=
  exec_invariant' (SeatRuntime.Consistent env) (fun _ a hs => hs.step a)
    (SeatRuntime.consistent_start h) as

end SeatReservation
