import SeatReservation.SeatInvariants

/-!
# The life of a hold

A hold is HELD until it becomes RELEASED or RESERVED, and stays that for good.
`HoldRow.Lifecycle` ties the row of a hold to the history of the outbox: its two
timestamps are set exactly by its status, it was announced once when it was
made, and at most one terminal event names it, of the kind its status says.  A
released hold may lack its terminal event (the cleanup inside `insertHoldTx`
appends none), a reserved one never does.
-/

namespace SeatReservation

open Relational TransitionSystem

structure HoldRow.Lifecycle (h : HoldRow) (history : List OutboxRow) : Prop where
  releasedAt : h.releasedAt.isSome = true ↔ h.status = .released
  reservedAt : h.reservedAt.isSome = true ↔ h.status = .reserved
  held : eventCount history h.id "seat.held.v1" = 1
  released : eventCount history h.id "seat.released.v1" ≤ if h.status = .released then 1 else 0
  reserved : eventCount history h.id "seat.reserved.v1" = if h.status = .reserved then 1 else 0

/-- Every hold is where its life should be, and no event is about anything else. -/
structure HoldLifecycle (db : SeatDb) : Prop where
  holds : ∀ h ∈ db.holds, h.Lifecycle db.outbox.history
  events : ∀ r ∈ db.outbox.history, ∃ h ∈ db.holds, h.id = r.aggregateId

/-! ### Counting events -/

/-- Release events name the released holds one after the other. -/
theorem announced_ids {holds : List HoldRow} {rows : List OutboxRow}
    (h : List.Forall₂ (fun h row => row.announcesRelease h = true) holds rows) :
    rows.map (·.aggregateId) = holds.map HoldRow.id ∧
      ∀ r ∈ rows, r.eventType = "seat.released.v1" := by
  induction h with
  | nil => simp
  | cons hann _ ih =>
    obtain ⟨hid, htype, -⟩ := OutboxRow.announcesRelease_iff.mp hann
    constructor
    · rw [List.map_cons, List.map_cons, hid, ih.1]
    · intro r hr
      rcases List.mem_cons.mp hr with rfl | hr
      · exact htype
      · exact ih.2 r hr

theorem eventCount_announced {holds : List HoldRow} {rows : List OutboxRow}
    (h : List.Forall₂ (fun h row => row.announcesRelease h = true) holds rows) (holdId : Uuid)
    (eventType : String) :
    eventCount rows holdId eventType =
      if eventType = "seat.released.v1" then (holds.map HoldRow.id).count holdId else 0 := by
  obtain ⟨hids, htypes⟩ := announced_ids h
  by_cases htype : eventType = "seat.released.v1"
  · rw [if_pos htype, ← hids, List.count, List.countP_map]
    apply List.countP_congr
    intro r hr
    simp [htype, htypes r hr]
  · rw [if_neg htype]
    apply List.countP_eq_zero.mpr
    intro r hr
    simp only [htypes r hr, Bool.and_eq_true, beq_iff_eq, not_and]
    intro _ heq
    exact htype heq.symm

/-! ### One step -/

/-- An event about another hold does not concern this one. -/
theorem HoldRow.Lifecycle.append {h : HoldRow} {history new : List OutboxRow}
    (hlife : h.Lifecycle history) (hnew : ∀ eventType, eventCount new h.id eventType = 0) :
    h.Lifecycle (history ++ new) where
  releasedAt := hlife.releasedAt
  reservedAt := hlife.reservedAt
  held := by rw [eventCount_append, hnew]; exact hlife.held
  released := by rw [eventCount_append, hnew]; exact hlife.released
  reserved := by rw [eventCount_append, hnew]; exact hlife.reserved

/-- A HELD hold has no terminal event. -/
theorem HoldRow.Lifecycle.open_counts {h : HoldRow} {history : List OutboxRow}
    (hlife : h.Lifecycle history) (hheld : h.status = .held) :
    eventCount history h.id "seat.released.v1" = 0 ∧
      eventCount history h.id "seat.reserved.v1" = 0 := by
  have hreleased := hlife.released
  have hreserved := hlife.reserved
  rw [hheld] at hreleased hreserved
  simp only [reduceCtorEq, if_false] at hreleased hreserved
  exact ⟨Nat.le_zero.mp hreleased, hreserved⟩

/-- Releasing a HELD hold, with or without its event. -/
theorem HoldRow.Lifecycle.release {h : HoldRow} {history new : List OutboxRow}
    (hlife : h.Lifecycle history) (hheld : h.status = .held) (now : Nat)
    (hkeep : ∀ eventType, eventType ≠ "seat.released.v1" → eventCount new h.id eventType = 0)
    (hone : eventCount new h.id "seat.released.v1" ≤ 1) :
    (h.release now).Lifecycle (history ++ new) := by
  obtain ⟨hreleased, hreserved⟩ := hlife.open_counts hheld
  have hnull : h.reservedAt.isSome = false := by
    rw [Bool.eq_false_iff]
    intro hsome
    rw [hlife.reservedAt.mp hsome] at hheld
    simp at hheld
  constructor
  · simp [HoldRow.release]
  · simp [HoldRow.release, hnull]
  · rw [HoldRow.release_id, eventCount_append, hlife.held, hkeep _ (by simp)]
  · rw [HoldRow.release_id, eventCount_append, hreleased, Nat.zero_add]
    simpa using hone
  · rw [HoldRow.release_id, eventCount_append, hreserved, hkeep _ (by simp)]
    simp

/-- Reserving a HELD hold, with its event. -/
theorem HoldRow.Lifecycle.reserve {h : HoldRow} {history : List OutboxRow} {row : OutboxRow}
    (hlife : h.Lifecycle history) (hheld : h.status = .held) (now : Nat)
    (hsaid : row.Says h.id "seat.reserved.v1") : (h.reserve now).Lifecycle (history ++ [row]) := by
  obtain ⟨hreleased, hreserved⟩ := hlife.open_counts hheld
  have hnull : h.releasedAt.isSome = false := by
    rw [Bool.eq_false_iff]
    intro hsome
    rw [hlife.releasedAt.mp hsome] at hheld
    simp at hheld
  constructor
  · simp [HoldRow.reserve, hnull]
  · simp [HoldRow.reserve]
  · rw [HoldRow.reserve_id, eventCount_append, hlife.held, hsaid.eventCount]
    simp
  · rw [HoldRow.reserve_id, eventCount_append, hreleased, hsaid.eventCount]
    simp
  · rw [HoldRow.reserve_id, eventCount_append, hreserved, hsaid.eventCount]
    simp

/-- A new hold, announced once. -/
theorem HoldRow.Lifecycle.new {h : HoldRow} {history : List OutboxRow} {row : OutboxRow}
    (hheld : h.status = .held) (hreleased : h.releasedAt = none) (hreserved : h.reservedAt = none)
    (hfresh : ∀ r ∈ history, r.aggregateId ≠ h.id) (hsaid : row.Says h.id "seat.held.v1") :
    h.Lifecycle (history ++ [row]) := by
  have hcount : ∀ eventType, eventCount (history ++ [row]) h.id eventType =
      if "seat.held.v1" = eventType then 1 else 0 := by
    intro eventType
    rw [eventCount_append, eventCount_eq_zero eventType hfresh, hsaid.eventCount]
    simp
  constructor
  · simp [hreleased, hheld]
  · simp [hreserved, hheld]
  · rw [hcount]; simp
  · rw [hcount]; simp
  · rw [hcount]; simp [hheld]

theorem HoldLifecycle.held {db : SeatDb} (h : HoldLifecycle db) (seat : Uuid) (now : Nat)
    (hold : HoldRow) {row : OutboxRow} (hheld : hold.status = .held)
    (hreleased : hold.releasedAt = none) (hreserved : hold.reservedAt = none)
    (hfree : ∀ r ∈ db.holds, r.id ≠ hold.id) (hsaid : row.Says hold.id "seat.held.v1") :
    (∀ r ∈ lazyCleanup seat now db.holds ++ [hold], r.Lifecycle (db.outbox.history ++ [row])) ∧
      ∀ e ∈ db.outbox.history ++ [row], ∃ r ∈ lazyCleanup seat now db.holds ++ [hold],
        r.id = e.aggregateId := by
  have hother : ∀ r ∈ db.holds, ∀ eventType, eventCount [row] r.id eventType = 0 := by
    intro r hr eventType
    rw [hsaid.eventCount]
    simp [(hfree r hr).symm]
  constructor
  · intro r hr
    rcases List.mem_append.mp hr with hr | hr
    · rcases mem_lazyCleanup.mp hr with ⟨r₀, hr₀, hexp, rfl⟩ | ⟨hr, -⟩
      · refine (h.holds r₀ hr₀).release (isExpiredOn_iff.mp hexp).2.1 now ?_ ?_
        · intro eventType _
          exact hother r₀ hr₀ eventType
        · simp [hother r₀ hr₀]
      · exact (h.holds r hr).append (hother r hr)
    · rw [List.mem_singleton.mp hr]
      apply HoldRow.Lifecycle.new hheld hreleased hreserved _ hsaid
      intro e he heq
      obtain ⟨r', hr', hid⟩ := h.events e he
      exact hfree r' hr' (hid.trans heq)
  · intro e he
    rcases List.mem_append.mp he with he | he
    · obtain ⟨r, hr, hid⟩ := h.events e he
      by_cases hexp : isExpiredOn seat now r = true
      · refine ⟨r.release now, List.mem_append_left _ ?_, hid⟩
        exact mem_lazyCleanup.mpr (Or.inl ⟨r, hr, hexp, rfl⟩)
      · refine ⟨r, List.mem_append_left _ ?_, hid⟩
        exact mem_lazyCleanup.mpr (Or.inr ⟨hr, by simpa using hexp⟩)
    · rw [List.mem_singleton.mp he, hsaid.aggregateId]
      exact ⟨hold, List.mem_append_right _ List.mem_cons_self, rfl⟩

/-- An update of holds that keeps their ids keeps the holds the events are about. -/
theorem HoldLifecycle.events_update {db : SeatDb} (h : HoldLifecycle db) (p : HoldRow → Bool)
    {f : HoldRow → HoldRow} (hid : ∀ r, (f r).id = r.id) {new : List OutboxRow}
    (hnew : ∀ e ∈ new, ∃ r ∈ db.holds, r.id = e.aggregateId) :
    ∀ e ∈ db.outbox.history ++ new, ∃ r ∈ update p f db.holds, r.id = e.aggregateId := by
  intro e he
  have hold : ∃ r ∈ db.holds, r.id = e.aggregateId := by
    rcases List.mem_append.mp he with he | he
    · exact h.events e he
    · exact hnew e he
  obtain ⟨r, hr, heq⟩ := hold
  by_cases hp : p r = true
  · exact ⟨f r, mem_update_of_mem hr hp, (hid r).trans heq⟩
  · exact ⟨r, mem_update.mpr (Or.inr ⟨hr, by simpa using hp⟩), heq⟩

theorem HoldLifecycle.released {db : SeatDb} (h : HoldLifecycle db)
    (hkeys : KeyedBy HoldRow.id db.holds) {p : HoldRow → Bool} {now : Nat} {rows : List OutboxRow}
    (hactive : ∀ r ∈ db.holds, p r = true → r.status = .held)
    (hrows : List.Forall₂ (fun h row => row.announcesRelease h = true)
      (returning p (HoldRow.release now) db.holds) rows) :
    ∀ r ∈ update p (HoldRow.release now) db.holds, r.Lifecycle (db.outbox.history ++ rows) := by
  have hids : (returning p (HoldRow.release now) db.holds).map HoldRow.id =
      (db.holds.filter p).map HoldRow.id := by
    simp [returning, Function.comp_def]
  have hnodup : ((db.holds.filter p).map HoldRow.id).Nodup :=
    hkeys.sublist List.filter_sublist
  have hcount := eventCount_announced hrows
  rw [hids] at hcount
  intro r hr
  rcases mem_update.mp hr with ⟨r₀, hr₀, hp, rfl⟩ | ⟨hr, hnot⟩
  · refine (h.holds r₀ hr₀).release (hactive r₀ hr₀ hp) now ?_ ?_
    · intro eventType hne
      rw [hcount, if_neg hne]
    · rw [hcount, if_pos rfl]
      exact List.nodup_iff_count_le_one.mp hnodup r₀.id
  · apply (h.holds r hr).append
    intro eventType
    rw [hcount]
    split
    · apply List.count_eq_zero_of_not_mem
      intro hmem
      -- A released hold with this id would be `r` itself, which is not selected.
      obtain ⟨r', hr', hid⟩ := List.mem_map.mp hmem
      obtain ⟨hin, hp⟩ := List.mem_filter.mp hr'
      rw [hkeys.eq_of_mem hin hr hid, hnot] at hp
      simp at hp
    · rfl

theorem HoldLifecycle.effect {env : SeatEnv} {db db' : SeatDb} {a : SeatAction}
    (h : HoldLifecycle db) (hkeys : KeyedBy HoldRow.id db.holds)
    (heffect : SeatEffect env db a db') : HoldLifecycle db' := by
  cases heffect with
  | nothing => exact h
  | held seatId userId traceId d seat outbox row hseat hfree happ hsaid =>
    have hnew := (holdViolation_lazyCleanup.mp hfree).1
    obtain ⟨hholds, hevents⟩ :=
      h.held seat d.now (newHold env seat userId d) rfl rfl rfl hnew hsaid
    rw [← happ.2] at hholds hevents
    exact ⟨hholds, hevents⟩
  | released a now p outbox rows hactive happ hrows =>
    have hholds := h.released hkeys hactive hrows
    have hevents : ∀ e ∈ db.outbox.history ++ rows,
        ∃ r ∈ update p (HoldRow.release now) db.holds, r.id = e.aggregateId := by
      apply h.events_update p (HoldRow.release_id now)
      intro e he
      obtain ⟨r, hr, hann⟩ := exists_match hrows.flip he
      obtain ⟨r₀, hr₀, -, rfl⟩ := mem_returning.mp hr
      exact ⟨r₀, hr₀, (OutboxRow.announcesRelease_iff.mp hann).1.symm⟩
    rw [← happ.2] at hholds hevents
    exact ⟨hholds, hevents⟩
  | reserved eventId group traceId d hold outbox row hmem hactive hnew happ hsaid =>
    have hholds : ∀ r ∈ update (isActiveHold hold.id) (HoldRow.reserve d.now) db.holds,
        r.Lifecycle (db.outbox.history ++ [row]) := by
      intro r hr
      rcases mem_update.mp hr with ⟨r₀, hr₀, hsel, rfl⟩ | ⟨hr, hnot⟩
      · obtain ⟨hid, hheld⟩ := isActiveHold_iff.mp hsel
        rw [← hid] at hsaid
        exact (h.holds r₀ hr₀).reserve hheld d.now hsaid
      · apply (h.holds r hr).append
        intro eventType
        rw [hsaid.eventCount, if_neg]
        rintro ⟨hid, -⟩
        rw [← hkeys.eq_of_mem hmem hr hid, isActiveHold_iff.mpr ⟨rfl, hactive⟩] at hnot
        simp at hnot
    have hevents : ∀ e ∈ db.outbox.history ++ [row],
        ∃ r ∈ update (isActiveHold hold.id) (HoldRow.reserve d.now) db.holds,
          r.id = e.aggregateId := by
      apply h.events_update (isActiveHold hold.id) (HoldRow.reserve_id d.now)
      intro e he
      rw [List.mem_singleton.mp he, hsaid.aggregateId]
      exact ⟨hold, hmem, rfl⟩
    rw [← happ.2] at hholds hevents
    exact ⟨hholds, hevents⟩

/-! ### Every run -/

theorem SeatDb.Seeded.holdLifecycle_exec {db : SeatDb} (h : db.Seeded) (env : SeatEnv)
    (as : List SeatAction) : HoldLifecycle (exec (seatStep env) db as) := by
  have hinv : (exec (seatStep env) db as).WellFormed ∧
      HoldLifecycle (exec (seatStep env) db as) := by
    apply exec_invariant' fun db => db.WellFormed ∧ HoldLifecycle db
    · rintro db a ⟨hwf, hlife⟩
      exact ⟨hwf.step env a, hlife.effect hwf.holdKeys (seatStep_effect hwf.holdKeys env a)⟩
    · refine ⟨h.wellFormed, ?_, ?_⟩
      · intro r hr
        simp [h.holds] at hr
      · intro r hr
        simp [h.outbox, Outbox.empty] at hr
  exact hinv.2

/-- A hold that is not HELD is the same in every later state. -/
theorem SeatDb.WellFormed.frozen_exec {db : SeatDb} (h : db.WellFormed) (env : SeatEnv)
    {hold : HoldRow} (hmem : hold ∈ db.holds) (hstatus : hold.status ≠ .held)
    (as : List SeatAction) : hold ∈ (exec (seatStep env) db as).holds := by
  have hinv : (exec (seatStep env) db as).WellFormed ∧
      hold ∈ (exec (seatStep env) db as).holds := by
    apply exec_invariant' fun db : SeatDb => db.WellFormed ∧ hold ∈ db.holds
    · rintro db a ⟨hwf, hin⟩
      exact ⟨hwf.step env a, (seatStep_effect hwf.holdKeys env a).frozen hin hstatus⟩
    · exact ⟨h, hmem⟩
  exact hinv.2

theorem HoldRow.Lifecycle.terminal_le_one {h : HoldRow} {history : List OutboxRow}
    (hlife : h.Lifecycle history) :
    eventCount history h.id "seat.released.v1" + eventCount history h.id "seat.reserved.v1" ≤
      1 := by
  have hreleased := hlife.released
  have hreserved := hlife.reserved
  cases hstatus : h.status with
  | held => simp_all
  | released => simp_all
  | reserved => simp_all

/-- **The life of a hold.**  In every reachable state the row of a hold and the event
    history agree, at most one terminal event names it, and once it is RELEASED or
    RESERVED its row never changes again. -/
theorem hold_lifecycle {db : SeatDb} (hseed : db.Seeded) (env : SeatEnv) (as : List SeatAction) :
    (∀ h ∈ (exec (seatStep env) db as).holds,
      h.Lifecycle (exec (seatStep env) db as).outbox.history ∧
        eventCount (exec (seatStep env) db as).outbox.history h.id "seat.released.v1" +
          eventCount (exec (seatStep env) db as).outbox.history h.id "seat.reserved.v1" ≤ 1) ∧
      ∀ h ∈ (exec (seatStep env) db as).holds, h.status ≠ .held →
        ∀ bs, h ∈ (exec (seatStep env) db (as ++ bs)).holds := by
  constructor
  · intro h hmem
    have hlife := (hseed.holdLifecycle_exec env as).holds h hmem
    exact ⟨hlife, hlife.terminal_le_one⟩
  · intro h hmem hstatus bs
    rw [exec_append]
    exact (hseed.wellFormed_exec env as).frozen_exec env hmem hstatus bs

/-- A hold on seat A1 that is reserved, and one on seat A2 that expires and is swept. -/
def twoLives : List SeatAction :=
  let trace := "00000000-0000-0000-0000-0000000000aa"
  [.insertHoldTx "00000000-0000-0000-0000-000000000001" 101 trace ⟨201, 301, 1000, 1000, 1000⟩,
   .insertHoldTx "00000000-0000-0000-0000-000000000002" 102 trace ⟨202, 302, 1000, 1000, 1000⟩,
   .reserveHold 201 401 "seat-service" trace ⟨501, 2000, 2000⟩,
   .tick ⟨[201, 202], by decide⟩ 601 200000 fun _ => (701, 200000)]

theorem twoLives_lifecycle :
    (∀ h ∈ (exec (seatStep defaultSeatEnv) seedDb twoLives).holds, h.status ≠ .held) ∧
      ∀ h ∈ (exec (seatStep defaultSeatEnv) seedDb twoLives).holds,
        eventCount (exec (seatStep defaultSeatEnv) seedDb twoLives).outbox.history h.id
          "seat.released.v1" +
        eventCount (exec (seatStep defaultSeatEnv) seedDb twoLives).outbox.history h.id
          "seat.reserved.v1" ≤ 1 :=
  ⟨by decide +kernel, fun h hmem =>
    ((hold_lifecycle seedDb_seeded defaultSeatEnv twoLives).1 h hmem).2⟩

end SeatReservation
