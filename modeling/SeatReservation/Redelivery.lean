import SeatReservation.System
import SeatReservation.PaymentSafety

/-!
# Messages that are delivered twice

Recovery of the outbox and requeued messages make duplicates normal, so both
consumers must be idempotent.  The seat consumer is (`payment_event_idempotent`):
what a payment event could still do is decided by the status of its hold and by
`consumed_events`, and both only ever move away from it.  The payment consumer
looks at the intents of the event's seat, which may be new ones, and keeps no
record of the events it has handled; a duplicate is harmless exactly when it
finds no PENDING intent on the seat (`seat_released_idempotent_iff`).
-/

namespace SeatReservation

open Relational TransitionSystem

/-! ### The seat consumer -/

/-- The hold a payment event is about. -/
def Event.paidHold : Event → Option Uuid
  | .paymentSucceeded e => some e.holdId
  | .paymentFailed e => some e.holdId
  | _ => none

/-- No HELD hold has this id. -/
def NotHeld (holdId : Uuid) (db : SeatDb) : Prop :=
  ∀ h ∈ db.holds, h.id = holdId → h.status ≠ .held

/-- The event has nothing left to do. -/
def Settled : Event → SeatDb → Prop
  | .paymentSucceeded e, db =>
      (e.eventId, "seat-service") ∈ db.consumedEvents ∨ NotHeld e.holdId db
  | .paymentFailed e, db => NotHeld e.holdId db
  | _, _ => True

/-- The call inserts a hold under this id. -/
def SeatAction.drawsHold : SeatAction → Uuid → Prop
  | .insertHoldTx _ _ _ d, holdId => d.holdId = holdId
  | _, _ => False

/-- A HELD hold was there before the step, or is the one it inserted. -/
theorem SeatEffect.held_cases {env : SeatEnv} {db db' : SeatDb} {a : SeatAction}
    (heffect : SeatEffect env db a db') {h : HoldRow} (hmem : h ∈ db'.holds)
    (hheld : h.status = .held) : h ∈ db.holds ∨ a.drawsHold h.id := by
  cases heffect with
  | nothing => exact Or.inl hmem
  | held seatId userId traceId d seat outbox row hseat hfree happ hkind =>
    rcases List.mem_append.mp hmem with hmem | hmem
    · rcases mem_lazyCleanup.mp hmem with ⟨h₀, -, -, rfl⟩ | ⟨hmem, -⟩
      · simp at hheld
      · exact Or.inl hmem
    · rw [List.mem_singleton.mp hmem]
      exact Or.inr rfl
  | released a now p outbox rows hactive happ hrows =>
    rcases mem_update.mp hmem with ⟨h₀, -, -, rfl⟩ | ⟨hmem, -⟩
    · simp at hheld
    · exact Or.inl hmem
  | reserved eventId group traceId d hold outbox row hmem' hactive hnew happ hkind =>
    rcases mem_update.mp hmem with ⟨h₀, -, -, rfl⟩ | ⟨hmem, -⟩
    · simp at hheld
    · exact Or.inl hmem

theorem SeatEffect.consumed_subset {env : SeatEnv} {db db' : SeatDb} {a : SeatAction}
    (heffect : SeatEffect env db a db') : db.consumedEvents ⊆ db'.consumedEvents := by
  cases heffect with
  | nothing => exact List.Subset.refl _
  | held => exact List.Subset.refl _
  | released => exact List.Subset.refl _
  | reserved => exact List.subset_append_left _ _

theorem NotHeld.effect {env : SeatEnv} {db db' : SeatDb} {a : SeatAction} {holdId : Uuid}
    (h : NotHeld holdId db) (heffect : SeatEffect env db a db') (hfresh : ¬ a.drawsHold holdId) :
    NotHeld holdId db' := by
  intro r hr hid hheld
  rcases heffect.held_cases hr hheld with hbefore | hdraws
  · exact h r hbefore hid hheld
  · rw [hid] at hdraws
    exact hfresh hdraws

/-- Nothing but a hold under the id of the event gives it something to do. -/
theorem Settled.effect {env : SeatEnv} {db db' : SeatDb} {a : SeatAction} {event : Event}
    (h : Settled event db) (heffect : SeatEffect env db a db')
    (hfresh : ∀ holdId ∈ event.paidHold, ¬ a.drawsHold holdId) : Settled event db' := by
  cases event with
  | paymentSucceeded e =>
    rcases h with hconsumed | hnot
    · exact Or.inl (heffect.consumed_subset hconsumed)
    · exact Or.inr (hnot.effect heffect (hfresh e.holdId rfl))
  | paymentFailed e => exact NotHeld.effect h heffect (hfresh e.holdId rfl)
  | seatHeld e => trivial
  | seatReleased e => trivial
  | seatReserved e => trivial

/-- A settled event changes nothing. -/
theorem Settled.eq_self {event : Event} {db : SeatDb} (h : Settled event db) (d : Draw) :
    onPaymentEvent event d db = db := by
  cases event with
  | paymentSucceeded e =>
    rcases h with hconsumed | hnot
    · unfold onPaymentEvent reserveHold
      dsimp only
      rw [if_pos (by simpa using hconsumed)]
    · exact reserveHold_eq_self hnot
  | paymentFailed e => exact releaseHold_eq_self h
  | seatHeld e => rfl
  | seatReleased e => rfl
  | seatReserved e => rfl

/-- Rows an update by id has ended are not HELD. -/
theorem notHeld_update {holds : List HoldRow} {holdId : Uuid} {f : HoldRow → HoldRow}
    (hout : ∀ r, (f r).status ≠ .held) :
    ∀ h ∈ update (isActiveHold holdId) f holds, h.id = holdId → h.status ≠ .held := by
  intro h hmem hid hheld
  rcases mem_update.mp hmem with ⟨h₀, -, -, rfl⟩ | ⟨-, hnot⟩
  · exact hout h₀ hheld
  · rw [isActiveHold_iff.mpr ⟨hid, hheld⟩] at hnot
    simp at hnot

theorem notHeld_of_returning_nil {holds : List HoldRow} {holdId : Uuid} {f : HoldRow → HoldRow}
    (h : returning (isActiveHold holdId) f holds = []) :
    ∀ r ∈ holds, r.id = holdId → r.status ≠ .held := by
  intro r hr hid hheld
  have hnot := returning_eq_nil_iff.mp h r hr
  rw [isActiveHold_iff.mpr ⟨hid, hheld⟩] at hnot
  simp at hnot

/-- Handling an event settles it. -/
theorem settled_onPaymentEvent (event : Event) (d : Draw) (db : SeatDb) :
    Settled event (onPaymentEvent event d db) := by
  cases event with
  | paymentSucceeded e =>
    unfold onPaymentEvent reserveHold
    dsimp only
    split
    · rename_i hconsumed
      exact Or.inl (by simpa using hconsumed)
    · cases hrows : returning (isActiveHold e.holdId) (HoldRow.reserve d.now) db.holds with
      | nil => exact Or.inr (notHeld_of_returning_nil hrows)
      | cons row rest => exact Or.inl (List.mem_append_right _ List.mem_cons_self)
  | paymentFailed e =>
    unfold onPaymentEvent releaseHold
    dsimp only
    cases hrows : returning (isActiveHold e.holdId) (HoldRow.release d.now) db.holds with
    | nil => exact notHeld_of_returning_nil hrows
    | cons row rest => exact notHeld_update (by simp)
  | seatHeld e => trivial
  | seatReleased e => trivial
  | seatReserved e => trivial

/-! ### Consumed events and reserved holds -/

/-- The one caller of `reserveHold` names its consumer group. -/
def SeatAction.byConsumer : SeatAction → Prop
  | .reserveHold _ _ consumerGroup _ _ => consumerGroup = "seat-service"
  | _ => True

/-- The events the seat service has consumed. -/
def serviceEvents (db : SeatDb) : List Uuid :=
  (db.consumedEvents.filter fun row => row.2 == "seat-service").map (·.1)

/-- Pairs of an event and the hold it reserved, all of both, each of them once. -/
structure Matched (pairs : List (Uuid × Uuid)) (db : SeatDb) : Prop where
  events : pairs.map Prod.fst = serviceEvents db
  eventKeys : (pairs.map Prod.fst).Nodup
  holdKeys : (pairs.map Prod.snd).Nodup
  holds : ∀ holdId, holdId ∈ pairs.map Prod.snd ↔
    ∃ h ∈ db.holds, h.id = holdId ∧ h.status = .reserved

/-- The pairs come from calls in `as`, and match what the database says. -/
def ReservedBy (as : List SeatAction) (db : SeatDb) : Prop :=
  ∃ pairs, Matched pairs db ∧ ∀ pair ∈ pairs, ∃ traceId d,
    SeatAction.reserveHold pair.2 pair.1 "seat-service" traceId d ∈ as

/-- The same events consumed and the same holds reserved. -/
theorem Matched.congr {pairs : List (Uuid × Uuid)} {db db' : SeatDb} (h : Matched pairs db)
    (hconsumed : db'.consumedEvents = db.consumedEvents)
    (hreserved : ∀ r : HoldRow, r.status = .reserved → (r ∈ db'.holds ↔ r ∈ db.holds)) :
    Matched pairs db' where
  events := by
    unfold serviceEvents
    rw [hconsumed]
    exact h.events
  eventKeys := h.eventKeys
  holdKeys := h.holdKeys
  holds := by
    intro holdId
    rw [h.holds holdId]
    constructor
    · rintro ⟨r, hr, hid, hres⟩
      exact ⟨r, (hreserved r hres).mpr hr, hid, hres⟩
    · rintro ⟨r, hr, hid, hres⟩
      exact ⟨r, (hreserved r hres).mp hr, hid, hres⟩

theorem Matched.reserve {pairs : List (Uuid × Uuid)} {db : SeatDb} (h : Matched pairs db)
    (hkeys : KeyedBy HoldRow.id db.holds) {hold : HoldRow} {eventId : Uuid} {now : Nat}
    {seats : List SeatRow} {outbox : Outbox} (hmem : hold ∈ db.holds)
    (hactive : hold.status = .held) (hnew : (eventId, "seat-service") ∉ db.consumedEvents) :
    Matched (pairs ++ [(eventId, hold.id)])
      ⟨seats, update (isActiveHold hold.id) (HoldRow.reserve now) db.holds, outbox,
        db.consumedEvents ++ [(eventId, "seat-service")]⟩ := by
  have hfree : hold.id ∉ pairs.map Prod.snd := by
    intro hin
    obtain ⟨r, hr, hid, hres⟩ := (h.holds hold.id).mp hin
    rw [hkeys.eq_of_mem hr hmem hid, hactive] at hres
    simp at hres
  have hunseen : eventId ∉ pairs.map Prod.fst := by
    rw [h.events]
    intro hin
    obtain ⟨row, hrow, rfl⟩ := List.mem_map.mp hin
    obtain ⟨hrow, hgroup⟩ := List.mem_filter.mp hrow
    apply hnew
    rw [← beq_iff_eq.mp hgroup]
    exact hrow
  constructor
  · simp [serviceEvents, List.filter_append, h.events]
  · rw [List.map_append, List.nodup_append]
    refine ⟨h.eventKeys, by simp, ?_⟩
    intro e he e' he' heq
    rw [heq, List.mem_singleton.mp he'] at he
    exact hunseen he
  · rw [List.map_append, List.nodup_append]
    refine ⟨h.holdKeys, by simp, ?_⟩
    intro i hi i' hi' heq
    rw [heq, List.mem_singleton.mp hi'] at hi
    exact hfree hi
  · intro holdId
    rw [List.map_append, List.mem_append, h.holds holdId]
    constructor
    · rintro (⟨r, hr, hid, hres⟩ | hin)
      · refine ⟨r, mem_update.mpr (Or.inr ⟨hr, ?_⟩), hid, hres⟩
        simp [isActiveHold, hres]
      · rw [List.mem_singleton.mp hin]
        refine ⟨hold.reserve now, mem_update.mpr (Or.inl ⟨hold, hmem, ?_, rfl⟩), rfl, rfl⟩
        exact isActiveHold_iff.mpr ⟨rfl, hactive⟩
    · rintro ⟨r, hr, hid, hres⟩
      rcases mem_update.mp hr with ⟨r₀, -, hsel, rfl⟩ | ⟨hr, -⟩
      · right
        rw [← hid, HoldRow.reserve_id, (isActiveHold_iff.mp hsel).1]
        exact List.mem_cons_self
      · exact Or.inl ⟨r, hr, hid, hres⟩

theorem ReservedBy.effect {as : List SeatAction} {env : SeatEnv} {db db' : SeatDb} {a : SeatAction}
    (h : ReservedBy as db) (hkeys : KeyedBy HoldRow.id db.holds)
    (heffect : SeatEffect env db a db') (ha : a ∈ as) (hgroup : a.byConsumer) :
    ReservedBy as db' := by
  obtain ⟨pairs, hmatched, hcalls⟩ := h
  have hkept : ∀ r : HoldRow, r.status = .reserved → r ∈ db.holds → r ∈ db'.holds := by
    intro r hres hr
    exact heffect.frozen hr (by simp [hres])
  cases heffect with
  | nothing => exact ⟨pairs, hmatched, hcalls⟩
  | held seatId userId traceId d seat outbox row hseat hfree happ hkind =>
    refine ⟨pairs, hmatched.congr rfl ?_, hcalls⟩
    intro r hres
    refine ⟨fun hr => ?_, hkept r hres⟩
    rcases List.mem_append.mp hr with hr | hr
    · rcases mem_lazyCleanup.mp hr with ⟨r₀, -, -, rfl⟩ | ⟨hr, -⟩
      · simp at hres
      · exact hr
    · rw [List.mem_singleton.mp hr] at hres
      cases hres
  | released a now p outbox rows hactive happ hrows =>
    refine ⟨pairs, hmatched.congr rfl ?_, hcalls⟩
    intro r hres
    refine ⟨fun hr => ?_, hkept r hres⟩
    rcases mem_update.mp hr with ⟨r₀, -, -, rfl⟩ | ⟨hr, -⟩
    · simp at hres
    · exact hr
  | reserved eventId group traceId d hold outbox row hmem hactive hnew happ hkind =>
    rw [show group = "seat-service" from hgroup] at hnew ha ⊢
    refine ⟨_, hmatched.reserve hkeys hmem hactive hnew, ?_⟩
    intro pair hpair
    rcases List.mem_append.mp hpair with hpair | hpair
    · exact hcalls pair hpair
    · rw [List.mem_singleton.mp hpair]
      exact ⟨traceId, d, ha⟩

theorem SeatDb.Seeded.reservedBy_exec {db : SeatDb} (h : db.Seeded) (env : SeatEnv)
    {as : List SeatAction} (hgroups : ∀ a ∈ as, a.byConsumer) :
    ReservedBy as (exec (seatStep env) db as) := by
  have hinv : (exec (seatStep env) db as).WellFormed ∧
      ReservedBy as (exec (seatStep env) db as) := by
    apply exec_invariant (fun db : SeatDb => db.WellFormed ∧ ReservedBy as db) _ _
      (along_mem db (List.Subset.refl as))
    · rintro db a ⟨hwf, hres⟩ ha
      exact ⟨hwf.step env a,
        hres.effect hwf.holdKeys (seatStep_effect hwf.holdKeys env a) ha (hgroups a ha)⟩
    · refine ⟨h.wellFormed, [], ?_, by simp⟩
      constructor <;> simp [serviceEvents, h.holds, h.consumedEvents]
  exact hinv.2

/-- What happens after an event has been handled does not unsettle it. -/
theorem Settled.run {event : Event} {db : SeatDb} (h : Settled event db) (hwf : db.WellFormed)
    (env : SeatEnv) {later : List SeatAction}
    (hfresh : ∀ a ∈ later, ∀ holdId ∈ event.paidHold, ¬ a.drawsHold holdId) :
    Settled event (exec (seatStep env) db later) := by
  have hinv : (exec (seatStep env) db later).WellFormed ∧
      Settled event (exec (seatStep env) db later) := by
    apply exec_invariant (fun db : SeatDb => db.WellFormed ∧ Settled event db) _ ⟨hwf, h⟩
      (along_mem db (List.Subset.refl later))
    rintro db a ⟨hwf, hsettled⟩ ha
    exact ⟨hwf.step env a,
      hsettled.effect (seatStep_effect hwf.holdKeys env a) (hfresh a ha)⟩
  exact hinv.2

theorem wellFormed_onPaymentEvent {db : SeatDb} (h : db.WellFormed) (env : SeatEnv)
    (event : Event) (d : Draw) : (onPaymentEvent event d db).WellFormed := by
  cases event with
  | paymentSucceeded e =>
    exact h.step env (.reserveHold e.holdId e.eventId "seat-service" e.traceId d)
  | paymentFailed e => exact h.step env (.releaseHold e.holdId "payment_failed" e.traceId d)
  | seatHeld e => exact h
  | seatReleased e => exact h
  | seatReserved e => exact h

/-- **The seat consumer is idempotent.**  Once an event has been handled, handling it
    again changes nothing, whatever happened in between, as long as no new hold is
    given the id it names; and the events consumed by the service are one to one
    with the RESERVED holds. -/
theorem payment_event_idempotent {db : SeatDb} (hseed : db.Seeded) (env : SeatEnv)
    (as : List SeatAction) (hgroups : ∀ a ∈ as, a.byConsumer) :
    (∃ pairs, Matched pairs (exec (seatStep env) db as) ∧ ∀ pair ∈ pairs, ∃ traceId d,
      SeatAction.reserveHold pair.2 pair.1 "seat-service" traceId d ∈ as) ∧
    ∀ event d later d',
      (∀ a ∈ later, ∀ holdId ∈ event.paidHold, ¬ a.drawsHold holdId) →
      onPaymentEvent event d' (exec (seatStep env)
        (onPaymentEvent event d (exec (seatStep env) db as)) later) =
      exec (seatStep env) (onPaymentEvent event d (exec (seatStep env) db as)) later := by
  constructor
  · exact hseed.reservedBy_exec env hgroups
  · intro event d later d' hfresh
    have hwf := wellFormed_onPaymentEvent (hseed.wellFormed_exec env as) env event d
    exact ((settled_onPaymentEvent event d _).run hwf env hfresh).eq_self d'

/-- A payment for hold 201, delivered again after the hold was reserved and a second
    user took another seat. -/
theorem paidTwice_idempotent :
    let succeeded : Event := .paymentSucceeded ⟨501, 901, 1, 101, 201, 1900, "USD", "pi_mock_1",
      "00000000-0000-0000-0000-0000000000aa", 2000⟩
    let reserved := onPaymentEvent succeeded ⟨601, 2000, 2000⟩
      (exec (seatStep defaultSeatEnv) seedDb
        [.insertHoldTx "00000000-0000-0000-0000-000000000001" 101
          "00000000-0000-0000-0000-0000000000aa" ⟨201, 301, 1000, 1000, 1000⟩])
    let later := exec (seatStep defaultSeatEnv) reserved
      [.insertHoldTx "00000000-0000-0000-0000-000000000002" 102
        "00000000-0000-0000-0000-0000000000bb" ⟨202, 302, 3000, 3000, 3000⟩]
    later.consumedEvents = [(501, "seat-service")] ∧
      onPaymentEvent succeeded ⟨602, 4000, 4000⟩ later = later :=
  ⟨by decide +kernel, (payment_event_idempotent seedDb_seeded defaultSeatEnv _
    (by simp [SeatAction.byConsumer])).2 _ _ _ _ (by
      intro a ha holdId hid
      rw [List.mem_singleton.mp ha, ← Option.some.inj hid]
      exact show ¬ (202 : Uuid) = 201 by decide)⟩

/-! ### The payment consumer -/

/-- Ending PENDING intents leaves the intents alone iff none is selected. -/
theorem closeIntents_eq_self_iff {p : PaymentIntentRow → Bool} {status : IntentStatus}
    {eventType : String} {event : PaymentIntentRow → Event} {traceId : String} {now : Nat}
    {db : PaymentDb} (hpending : ∀ i, p i = true → i.status = .pending)
    (hstatus : status ≠ .pending) :
    ((closeIntents p status eventType event traceId now db).2.intents = db.intents ∧
      (closeIntents p status eventType event traceId now db).2.outbox = db.outbox) ↔
      ∀ i ∈ db.intents, p i = false := by
  constructor
  · rintro ⟨hsame, -⟩ i hi
    rw [closeIntents_intents, update_eq_self_iff] at hsame
    rw [Bool.eq_false_iff]
    intro hp
    apply hstatus
    rw [← hpending i hp, ← hsame i hi hp, PaymentIntentRow.close_status]
  · intro hnone
    rcases closeIntents_cases p status eventType event traceId now db with
      ⟨-, heq⟩ | ⟨first, rest, hsel, -⟩
    · rw [heq]
      exact ⟨rfl, rfl⟩
    · have hfirst : first ∈ db.intents.filter p := by
        rw [hsel]
        exact List.mem_cons_self
      obtain ⟨hmem, hp⟩ := List.mem_filter.mp hfirst
      rw [hnone first hmem] at hp
      simp at hp

/-- **The payment consumer is idempotent exactly when** no intent on the seat is PENDING
    as the duplicate arrives. -/
theorem seat_released_idempotent_iff (s : PaymentService) (env : PaymentEnv)
    (as : List PaymentAction) (e : SeatReleasedV1) (d : Draw) (later : List PaymentAction)
    (d' : Draw) :
    let handled := onSeatEvent (.seatReleased e) d (exec (paymentStep env) s as)
    let before := exec (paymentStep env) handled later
    let after := onSeatEvent (.seatReleased e) d' before
    (after.db.intents = before.db.intents ∧ after.db.outbox = before.db.outbox) ↔
      ∀ i ∈ before.db.intents, i.seatId = e.seatId → i.status ≠ .pending := by
  intro handled before after
  have hiff := @closeIntents_eq_self_iff (isPendingOnSeat e.seatId) .failed "payment.failed.v1"
    (paymentFailedEvent "seat_released" e.traceId d') e.traceId d'.now before.db
    (fun i hi => (isPendingOnSeat_iff.mp hi).2) (by simp)
  refine hiff.trans ?_
  constructor
  · intro hnone i hi hseat hpending
    have hnot := hnone i hi
    rw [isPendingOnSeat_iff.mpr ⟨hseat, hpending⟩] at hnot
    simp at hnot
  · intro hnone i hi
    rw [Bool.eq_false_iff]
    intro hp
    obtain ⟨hseat, hpending⟩ := isPendingOnSeat_iff.mp hp
    exact hnone i hi hseat hpending

/-- A release of seat A1 that is delivered twice. -/
def releasedA1 : SeatReleasedV1 :=
  ⟨401, 1, "sweeper", "00000000-0000-0000-0000-0000000000aa", 1000⟩

/-- Between the two deliveries user 102 has checked out the seat, and loses the intent. -/
theorem laterCheckout_cancelled :
    seedPrices.Seeded ∧
      let handled := onSeatEvent (.seatReleased releasedA1) ⟨501, 1000, 1000⟩ seedPrices
      let before := exec (paymentStep defaultPaymentEnv) handled
        (checkoutRun 0 ⟨⟨1, 202, secondKey⟩, 102⟩ 902)
      let after := onSeatEvent (.seatReleased releasedA1) ⟨502, 2000, 2000⟩ before
      after.db.intents ≠ before.db.intents ∧ after.db.outbox ≠ before.db.outbox :=
  ⟨seedPrices_seeded, by decide +kernel⟩

end SeatReservation
