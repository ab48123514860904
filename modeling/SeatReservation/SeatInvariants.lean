import SeatReservation.SeatService

/-!
# Invariants of the seat database

`WellFormed` is what the constraints of the schema guarantee in every reachable
state, whatever is called.  It is also all that is needed to know exactly when a
released hold is announced: `releaseHold` and the sweeper append the release
event themselves, the cleanup inside `insertHoldTx` appends none.
-/

namespace SeatReservation

open Relational TransitionSystem

/-! ### The schema's constraints -/

structure SeatDb.WellFormed (db : SeatDb) : Prop where
  seatKeys : KeyedBy SeatRow.id db.seats
  holdKeys : KeyedBy HoldRow.id db.holds
  activePerSeat : UniqueOn (fun h => h.status == .held) HoldRow.seatId db.holds
  activePerUser : UniqueOn (fun h => h.status == .held) HoldRow.userId db.holds
  seatRef : ∀ h ∈ db.holds, h.seatId ∈ db.seats.map SeatRow.id

theorem SeatDb.Seeded.wellFormed {db : SeatDb} (h : db.Seeded) : db.WellFormed where
  seatKeys := h.keys
  holdKeys := by simp [h.holds, KeyedBy]
  activePerSeat := by intro r hr; simp [h.holds] at hr
  activePerUser := by intro r hr; simp [h.holds] at hr
  seatRef := by intro r hr; simp [h.holds] at hr

@[simp] theorem map_id_markSeat (id : Uuid) (status : SeatStatus) (seats : List SeatRow) :
    (markSeat id status seats).map SeatRow.id = seats.map SeatRow.id :=
  map_update (fun _ _ => by rfl) seats

@[simp] theorem map_id_freeSeats (ids : List Uuid) (holds : List HoldRow) (seats : List SeatRow) :
    (freeSeats ids holds seats).map SeatRow.id = seats.map SeatRow.id :=
  map_update (fun _ _ => by rfl) seats

/-- An update of holds that keeps ids, seats and users and leaves no row it
    touches HELD keeps every constraint on the holds. -/
theorem SeatDb.WellFormed.updateHolds {db : SeatDb} (h : db.WellFormed) {p : HoldRow → Bool}
    {f : HoldRow → HoldRow} (hid : ∀ r, (f r).id = r.id) (hseat : ∀ r, (f r).seatId = r.seatId)
    (hout : ∀ r, (f r).status ≠ .held) {seats : List SeatRow}
    (hseats : seats.map SeatRow.id = db.seats.map SeatRow.id) (outbox : Outbox)
    (consumed : List (Uuid × String)) :
    SeatDb.WellFormed ⟨seats, update p f db.holds, outbox, consumed⟩ where
  seatKeys := by
    unfold KeyedBy
    rw [hseats]
    exact h.seatKeys
  holdKeys := h.holdKeys.update fun r _ => hid r
  activePerSeat := h.activePerSeat.update fun r _ => by simpa using hout r
  activePerUser := h.activePerUser.update fun r _ => by simpa using hout r
  seatRef := by
    intro r hr
    rw [hseats]
    rcases mem_update.mp hr with ⟨r₀, hr₀, -, rfl⟩ | ⟨hr, -⟩
    · rw [hseat r₀]
      exact h.seatRef r₀ hr₀
    · exact h.seatRef r hr

theorem SeatDb.WellFormed.insertHold {db : SeatDb} (h : db.WellFormed) {hold : HoldRow}
    (hfree : holdViolation db.seats db.holds hold = none) :
    SeatDb.WellFormed { db with holds := db.holds ++ [hold] } := by
  obtain ⟨hid, hseat, huser, s, hs, href⟩ := holdViolation_eq_none_iff.mp hfree
  refine ⟨h.seatKeys, h.holdKeys.insert hid, h.activePerSeat.insert ?_,
    h.activePerUser.insert ?_, ?_⟩
  · intro r hr hact
    exact hseat r hr (by simpa using hact)
  · intro r hr hact
    exact huser r hr (by simpa using hact)
  · intro r hr
    rcases List.mem_append.mp hr with hr | hr
    · exact h.seatRef r hr
    · rw [List.mem_singleton.mp hr, ← href]
      exact List.mem_map_of_mem hs

theorem SeatDb.WellFormed.effect {env : SeatEnv} {db db' : SeatDb} {a : SeatAction}
    (h : db.WellFormed) (heffect : SeatEffect env db a db') : db'.WellFormed := by
  cases heffect with
  | nothing => exact h
  | held seatId userId traceId d seat outbox row hseat hfree happ hkind =>
    have hclean : SeatDb.WellFormed { db with holds := lazyCleanup seat d.now db.holds } :=
      h.updateHolds (HoldRow.release_id d.now) (HoldRow.release_seatId d.now) (by simp) rfl _ _
    have hins := hclean.insertHold hfree
    refine ⟨?_, hins.holdKeys, hins.activePerSeat, hins.activePerUser, ?_⟩
    · unfold KeyedBy
      rw [map_id_markSeat]
      exact h.seatKeys
    · intro r hr
      rw [map_id_markSeat]
      exact hins.seatRef r hr
  | released a now p outbox rows hactive happ hrows =>
    exact h.updateHolds (HoldRow.release_id now) (HoldRow.release_seatId now) (by simp)
      (map_id_freeSeats ..) _ _
  | reserved eventId group traceId d hold outbox row hmem hactive hnew happ hkind =>
    exact h.updateHolds (HoldRow.reserve_id d.now) (HoldRow.reserve_seatId d.now) (by simp)
      (map_id_markSeat ..) _ _

theorem SeatDb.WellFormed.step {db : SeatDb} (h : db.WellFormed) (env : SeatEnv)
    (a : SeatAction) : (seatStep env db a).WellFormed :=
  h.effect (seatStep_effect h.holdKeys env a)

/-- **The constraints hold in every reachable state.** -/
theorem SeatDb.Seeded.wellFormed_exec {db : SeatDb} (h : db.Seeded) (env : SeatEnv)
    (as : List SeatAction) : (exec (seatStep env) db as).WellFormed :=
  exec_invariant' SeatDb.WellFormed (fun _ a hwf => hwf.step env a) h.wellFormed as

/-! ### When an insert goes through -/

/-- The cleanup changes nothing a constraint looks at but the status of expired holds. -/
theorem mem_lazyCleanup {seat : Uuid} {now : Nat} {holds : List HoldRow} {h : HoldRow} :
    h ∈ lazyCleanup seat now holds ↔
      (∃ h₀ ∈ holds, isExpiredOn seat now h₀ = true ∧ h₀.release now = h) ∨
        (h ∈ holds ∧ isExpiredOn seat now h = false) := mem_update

theorem isExpiredOn_iff {seat : Uuid} {now : Nat} {h : HoldRow} :
    isExpiredOn seat now h = true ↔ h.seatId = seat ∧ h.status = .held ∧ h.heldUntil < now := by
  simp [isExpiredOn, and_assoc]

/-- **An insert goes through** iff the hold id is new, the seat exists and every
    active hold on the seat or of the user is an expired one on the seat. -/
theorem holdViolation_lazyCleanup {seats : List SeatRow} {holds : List HoldRow} {env : SeatEnv}
    {seat userId : Uuid} {d : HoldDraw} :
    holdViolation seats (lazyCleanup seat d.now holds) (newHold env seat userId d) = none ↔
      (∀ h ∈ holds, h.id ≠ d.holdId) ∧
      (∀ h ∈ holds, h.status = .held → h.seatId = seat → h.heldUntil < d.now) ∧
      (∀ h ∈ holds, h.status = .held → h.userId = userId → h.seatId = seat ∧ h.heldUntil < d.now) ∧
      ∃ s ∈ seats, s.id = seat := by
  rw [holdViolation_eq_none_iff]
  refine and_congr ?_ (and_congr ?_ (and_congr ?_ Iff.rfl))
  · constructor
    · intro hfree h hmem
      by_cases hexp : isExpiredOn seat d.now h = true
      · exact hfree (h.release d.now) (mem_lazyCleanup.mpr (Or.inl ⟨h, hmem, hexp, rfl⟩))
      · exact hfree h (mem_lazyCleanup.mpr (Or.inr ⟨hmem, by simpa using hexp⟩))
    · intro hfree h hmem
      rcases mem_lazyCleanup.mp hmem with ⟨h₀, hmem₀, -, rfl⟩ | ⟨hmem₀, -⟩
      · exact hfree h₀ hmem₀
      · exact hfree h hmem₀
  · constructor
    · intro hfree h hmem hheld hseat
      by_contra hlt
      have hexp : isExpiredOn seat d.now h = false := by simp [isExpiredOn, hlt]
      exact hfree h (mem_lazyCleanup.mpr (Or.inr ⟨hmem, hexp⟩)) hheld hseat
    · intro hexp h hmem hheld hseat
      change h.seatId = seat at hseat
      rcases mem_lazyCleanup.mp hmem with ⟨h₀, -, -, rfl⟩ | ⟨hmem₀, hnot⟩
      · simp at hheld
      · have hlt := hexp h hmem₀ hheld hseat
        rw [isExpiredOn_iff.mpr ⟨hseat, hheld, hlt⟩] at hnot
        cases hnot
  · constructor
    · intro hfree h hmem hheld huser
      by_contra hnot
      have hexp : isExpiredOn seat d.now h = false := by
        rw [Bool.eq_false_iff]
        intro hexp
        obtain ⟨hseat, -, hlt⟩ := isExpiredOn_iff.mp hexp
        exact hnot ⟨hseat, hlt⟩
      exact hfree h (mem_lazyCleanup.mpr (Or.inr ⟨hmem, hexp⟩)) hheld huser
    · intro hexp h hmem hheld huser
      rcases mem_lazyCleanup.mp hmem with ⟨h₀, -, -, rfl⟩ | ⟨hmem₀, hnot⟩
      · simp at hheld
      · obtain ⟨hseat, hlt⟩ := hexp h hmem₀ hheld huser
        rw [isExpiredOn_iff.mpr ⟨hseat, hheld, hlt⟩] at hnot
        cases hnot

/-! ### Holds before and after -/

/-- A hold that is not HELD never changes again. -/
theorem SeatEffect.frozen {env : SeatEnv} {db db' : SeatDb} {a : SeatAction}
    (heffect : SeatEffect env db a db') {h : HoldRow} (hmem : h ∈ db.holds)
    (hstatus : h.status ≠ .held) : h ∈ db'.holds := by
  cases heffect with
  | nothing => exact hmem
  | held seatId userId traceId d seat outbox row hseat hfree happ hkind =>
    refine List.mem_append_left _ (mem_lazyCleanup.mpr (Or.inr ⟨hmem, ?_⟩))
    simp [isExpiredOn, hstatus]
  | released a now p outbox rows hactive happ hrows =>
    refine mem_update.mpr (Or.inr ⟨hmem, ?_⟩)
    rw [Bool.eq_false_iff]
    intro hp
    exact hstatus (hactive h hmem hp)
  | reserved eventId group traceId d hold outbox row hmem' hactive hnew happ hkind =>
    refine mem_update.mpr (Or.inr ⟨hmem, ?_⟩)
    simp [isActiveHold, hstatus]

/-- A hold becomes RESERVED by a call of `reserveHold` that names it. -/
theorem SeatEffect.reserved_cases {env : SeatEnv} {db db' : SeatDb} {a : SeatAction}
    (heffect : SeatEffect env db a db') {h' : HoldRow} (hmem : h' ∈ db'.holds)
    (hstatus : h'.status = .reserved) :
    h' ∈ db.holds ∨ ∃ eventId group traceId d, a = .reserveHold h'.id eventId group traceId d := by
  cases heffect with
  | nothing => exact Or.inl hmem
  | held seatId userId traceId d seat outbox row hseat hfree happ hkind =>
    rcases List.mem_append.mp hmem with hmem | hmem
    · rcases mem_lazyCleanup.mp hmem with ⟨h₀, -, -, rfl⟩ | ⟨hmem, -⟩
      · simp at hstatus
      · exact Or.inl hmem
    · rw [List.mem_singleton.mp hmem] at hstatus
      cases hstatus
  | released a now p outbox rows hactive happ hrows =>
    rcases mem_update.mp hmem with ⟨h₀, -, -, rfl⟩ | ⟨hmem, -⟩
    · simp at hstatus
    · exact Or.inl hmem
  | reserved eventId group traceId d hold outbox row hmem' hactive hnew happ hkind =>
    rcases mem_update.mp hmem with ⟨h₀, -, hsel, rfl⟩ | ⟨hmem, -⟩
    · rw [HoldRow.reserve_id, (isActiveHold_iff.mp hsel).1]
      exact Or.inr ⟨eventId, group, traceId, d, rfl⟩
    · exact Or.inl hmem

/-- What a step does to the identity of a hold: nothing, or it is the new one. -/
theorem SeatEffect.hold_cases {env : SeatEnv} {db db' : SeatDb} {a : SeatAction}
    (heffect : SeatEffect env db a db') {h' : HoldRow} (hmem : h' ∈ db'.holds) :
    (∃ h ∈ db.holds, h.id = h'.id ∧ h.seatId = h'.seatId ∧ h.userId = h'.userId) ∨
      ∃ seatId traceId d, a = .insertHoldTx seatId h'.userId traceId d ∧ h'.id = d.holdId ∧
        Uuid.ofText seatId = some h'.seatId := by
  cases heffect with
  | nothing => exact Or.inl ⟨h', hmem, rfl, rfl, rfl⟩
  | held seatId userId traceId d seat outbox row hseat hfree happ hkind =>
    rcases List.mem_append.mp hmem with hmem | hmem
    · rcases mem_lazyCleanup.mp hmem with ⟨h₀, hmem₀, -, rfl⟩ | ⟨hmem, -⟩
      · exact Or.inl ⟨h₀, hmem₀, rfl, rfl, rfl⟩
      · exact Or.inl ⟨h', hmem, rfl, rfl, rfl⟩
    · rw [List.mem_singleton.mp hmem]
      exact Or.inr ⟨seatId, traceId, d, rfl, rfl, hseat⟩
  | released a now p outbox rows hactive happ hrows =>
    rcases mem_update.mp hmem with ⟨h₀, hmem₀, -, rfl⟩ | ⟨hmem, -⟩
    · exact Or.inl ⟨h₀, hmem₀, rfl, rfl, rfl⟩
    · exact Or.inl ⟨h', hmem, rfl, rfl, rfl⟩
  | reserved eventId group traceId d hold outbox row hmem' hactive hnew happ hkind =>
    rcases mem_update.mp hmem with ⟨h₀, hmem₀, -, rfl⟩ | ⟨hmem, -⟩
    · exact Or.inl ⟨h₀, hmem₀, rfl, rfl, rfl⟩
    · exact Or.inl ⟨h', hmem, rfl, rfl, rfl⟩

/-- A hold stays the same hold, and does not change any more once it is not HELD. -/
theorem SeatEffect.hold_kept {env : SeatEnv} {db db' : SeatDb} {a : SeatAction}
    (heffect : SeatEffect env db a db') {h : HoldRow} (hmem : h ∈ db.holds) :
    ∃ h' ∈ db'.holds, h'.id = h.id ∧ h'.seatId = h.seatId ∧ h'.userId = h.userId ∧
      h'.heldUntil = h.heldUntil ∧ (h.status ≠ .held → h' = h) := by
  have hupdate : ∀ (p : HoldRow → Bool) (f : HoldRow → HoldRow),
      (∀ r, (f r).id = r.id ∧ (f r).seatId = r.seatId ∧ (f r).userId = r.userId ∧
        (f r).heldUntil = r.heldUntil) →
      (∀ r ∈ db.holds, p r = true → r.status = .held) →
      ∃ h' ∈ update p f db.holds, h'.id = h.id ∧ h'.seatId = h.seatId ∧ h'.userId = h.userId ∧
        h'.heldUntil = h.heldUntil ∧ (h.status ≠ .held → h' = h) := by
    intro p f hkeep hactive
    by_cases hp : p h = true
    · obtain ⟨hid, hseat, huser, huntil⟩ := hkeep h
      exact ⟨f h, mem_update_of_mem hmem hp, hid, hseat, huser, huntil,
        fun hnot => absurd (hactive h hmem hp) hnot⟩
    · exact ⟨h, mem_update.mpr (Or.inr ⟨hmem, Bool.eq_false_iff.mpr hp⟩), rfl, rfl, rfl, rfl,
        fun _ => rfl⟩
  cases heffect with
  | nothing => exact ⟨h, hmem, rfl, rfl, rfl, rfl, fun _ => rfl⟩
  | held seatId userId traceId d seat outbox row hseat hfree happ hkind =>
    obtain ⟨h', hmem', hsame⟩ := hupdate (isExpiredOn seat d.now) (HoldRow.release d.now)
      (fun r => ⟨rfl, rfl, rfl, rfl⟩) fun r _ hexpired => (isExpiredOn_iff.mp hexpired).2.1
    exact ⟨h', List.mem_append_left _ hmem', hsame⟩
  | released a now p outbox rows hactive happ hrows =>
    exact hupdate p (HoldRow.release now) (fun r => ⟨rfl, rfl, rfl, rfl⟩) hactive
  | reserved eventId group traceId d hold outbox row hmem' hactive hnew happ hkind =>
    exact hupdate (isActiveHold hold.id) (HoldRow.reserve d.now) (fun r => ⟨rfl, rfl, rfl, rfl⟩)
      fun r _ hsel => (isActiveHold_iff.mp hsel).2

/-- The events a step consumes: those before, and the one of the hold it reserves. -/
theorem SeatEffect.consumed_cases {env : SeatEnv} {db db' : SeatDb} {a : SeatAction}
    (heffect : SeatEffect env db a db') {consumed : Uuid × String}
    (hmem : consumed ∈ db'.consumedEvents) :
    consumed ∈ db.consumedEvents ∨ ∃ traceId d, ∃ h ∈ db'.holds, h.status = .reserved ∧
      a = .reserveHold h.id consumed.1 consumed.2 traceId d := by
  cases heffect with
  | nothing => exact Or.inl hmem
  | held => exact Or.inl hmem
  | released => exact Or.inl hmem
  | reserved eventId group traceId d hold outbox row hmem' hactive hnew happ hkind =>
    rcases List.mem_append.mp hmem with hmem | hmem
    · exact Or.inl hmem
    · rw [List.mem_singleton.mp hmem]
      refine Or.inr ⟨traceId, d, hold.reserve d.now, ?_, rfl, rfl⟩
      exact mem_update_of_mem hmem' (isActiveHold_iff.mpr ⟨rfl, hactive⟩)

/-- Without an active hold `reserveHold` writes nothing. -/
theorem reserveHold_eq_self {holdId eventId : Uuid} {group traceId : String} {d : Draw}
    {db : SeatDb} (h : ∀ r ∈ db.holds, r.id = holdId → r.status ≠ .held) :
    (reserveHold holdId eventId group traceId d db).2 = db := by
  have hnone : returning (isActiveHold holdId) (HoldRow.reserve d.now) db.holds = [] := by
    refine returning_eq_nil_iff.mpr ?_
    intro r hr
    rw [Bool.eq_false_iff]
    intro hact
    exact h r hr (isActiveHold_iff.mp hact).1 (isActiveHold_iff.mp hact).2
  unfold reserveHold
  rw [hnone]
  split
  · rfl
  · rfl

/-- Without an active hold `releaseHold` writes nothing. -/
theorem releaseHold_eq_self {holdId : Uuid} {reason traceId : String} {d : Draw} {db : SeatDb}
    (h : ∀ r ∈ db.holds, r.id = holdId → r.status ≠ .held) :
    (releaseHold holdId reason traceId d db).2 = db := by
  have hnone : returning (isActiveHold holdId) (HoldRow.release d.now) db.holds = [] := by
    refine returning_eq_nil_iff.mpr ?_
    intro r hr
    rw [Bool.eq_false_iff]
    intro hact
    exact h r hr (isActiveHold_iff.mp hact).1 (isActiveHold_iff.mp hact).2
  unfold releaseHold
  rw [hnone]

/-- An event not consumed before reserves the active hold it names. -/
theorem reserveHold_reserves {holdId eventId : Uuid} {group traceId : String} {d : Draw}
    {db : SeatDb} {r : HoldRow} (hr : r ∈ db.holds) (hid : r.id = holdId)
    (hheld : r.status = .held) (hnew : (eventId, group) ∉ db.consumedEvents) :
    r.reserve d.now ∈ (reserveHold holdId eventId group traceId d db).2.holds := by
  have hact : isActiveHold holdId r = true := isActiveHold_iff.mpr ⟨hid, hheld⟩
  have hmem : r.reserve d.now ∈ returning (isActiveHold holdId) (HoldRow.reserve d.now) db.holds :=
    mem_returning.mpr ⟨r, hr, hact, rfl⟩
  unfold reserveHold
  rw [if_neg (by simpa using hnew)]
  cases hrows : returning (isActiveHold holdId) (HoldRow.reserve d.now) db.holds with
  | nil =>
    rw [hrows] at hmem
    cases hmem
  | cons row rest => exact mem_update_of_mem hr hact

/-! ### The history of the outbox -/

def seatSchemas : List String := ["seat.held.v1", "seat.released.v1", "seat.reserved.v1"]

/-- Every row is an event of the seat service, under its own type. -/
def SeatHistory (rows : List OutboxRow) : Prop :=
  ∀ r ∈ rows, r.eventType = r.payload.schema ∧ r.payload.schema ∈ seatSchemas

theorem OutboxRow.announcesRelease_iff {row : OutboxRow} {h : HoldRow} :
    row.announcesRelease h = true ↔ row.aggregateId = h.id ∧ row.eventType = "seat.released.v1" ∧
      ∃ e, row.payload = .seatReleased e ∧ e.seatId = h.seatId := by
  unfold OutboxRow.announcesRelease
  cases row.payload with
  | seatReleased e => simp [and_assoc]
  | seatHeld e => simp
  | seatReserved e => simp
  | paymentSucceeded e => simp
  | paymentFailed e => simp

theorem SeatEffect.appends {env : SeatEnv} {db db' : SeatDb} {a : SeatAction}
    (heffect : SeatEffect env db a db') :
    ∃ new, db.outbox.Appends db'.outbox new ∧ SeatHistory new := by
  cases heffect with
  | nothing => exact ⟨[], Outbox.Appends.refl _, by intro r hr; cases hr⟩
  | held seatId userId traceId d seat outbox row hseat hfree happ hkind =>
    refine ⟨[row], happ, ?_⟩
    intro r hr
    rw [List.mem_singleton.mp hr, hkind.eventType, hkind.schema]
    exact ⟨rfl, by decide⟩
  | released a now p outbox rows hactive happ hrows =>
    refine ⟨rows, happ, ?_⟩
    intro r hr
    obtain ⟨h, -, hann⟩ := exists_match hrows.flip hr
    obtain ⟨-, htype, e, hpayload, -⟩ := OutboxRow.announcesRelease_iff.mp hann
    rw [htype, hpayload]
    exact ⟨rfl, by simp [seatSchemas, Event.schema]⟩
  | reserved eventId group traceId d hold outbox row hmem hactive hnew happ hkind =>
    refine ⟨[row], happ, ?_⟩
    intro r hr
    rw [List.mem_singleton.mp hr, hkind.eventType, hkind.schema]
    exact ⟨rfl, by decide⟩

/-- A seat.released row is older than the step, or its hold is RELEASED after it. -/
theorem SeatEffect.released_cases {env : SeatEnv} {db db' : SeatDb} {a : SeatAction}
    (heffect : SeatEffect env db a db') {r : OutboxRow} (hr : r ∈ db'.outbox.history)
    (htype : r.eventType = "seat.released.v1") :
    r ∈ db.outbox.history ∨ ∃ h ∈ db'.holds, h.id = r.aggregateId ∧ h.status = .released := by
  cases heffect with
  | nothing => exact Or.inl hr
  | held seatId userId traceId d seat outbox row hseat hfree happ hkind =>
    rw [happ.2] at hr
    rcases List.mem_append.mp hr with hr | hr
    · exact Or.inl hr
    · rw [List.mem_singleton.mp hr, hkind.eventType] at htype
      simp at htype
  | released a now p outbox rows hactive happ hrows =>
    rw [happ.2] at hr
    rcases List.mem_append.mp hr with hr | hr
    · exact Or.inl hr
    · right
      obtain ⟨h, hreturned, hann⟩ := exists_match hrows.flip hr
      obtain ⟨h₀, hmem, hp, rfl⟩ := mem_returning.mp hreturned
      refine ⟨h₀.release now, mem_update_of_mem hmem hp, ?_, rfl⟩
      exact (OutboxRow.announcesRelease_iff.mp hann).1.symm
  | reserved eventId group traceId d hold outbox row hmem hactive hnew happ hkind =>
    rw [happ.2] at hr
    rcases List.mem_append.mp hr with hr | hr
    · exact Or.inl hr
    · rw [List.mem_singleton.mp hr, hkind.eventType] at htype
      simp at htype

end SeatReservation
