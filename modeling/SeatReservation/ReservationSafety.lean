import SeatReservation.SystemInvariants
import SeatReservation.WebhookDurability

/-!
# Payments and reservations

What ties a RESERVED hold to the payment it was reserved by.  A reservation
always has a COMPLETED intent behind it (`reserved_paid`), since COMPLETED is
final and the event that reserves says what the intent says.  The converse fails
by design: the seat service drops the event of a hold that was released in the
meantime, and only the event of a hold that is still there reserves it, for good
(`accepted_payment`).  The event names the hold and the seat its client wrote
into the checkout, which nothing compares; the two belong together when the
client keeps to its own hold (`own_seat_reserved`).
-/

namespace SeatReservation

open Relational TransitionSystem

/-! ### No reservation without payment -/

structure ReservedPaid (s : System) : Prop extends s.Reachable where
  paid : ∀ h ∈ s.seat.holds, h.status = .reserved →
    ∃ i ∈ s.payment.db.intents, i.holdId = h.id ∧ i.status = .completed

/-- Only a delivery of a payment.succeeded message reserves a hold. -/
theorem consumedSuccess_of_reserveHold {fmt : Formats} {s : System} {a : SystemAction}
    {holdId eventId : Uuid} {group traceId : String} {d : Draw}
    (h : seatCall fmt s a = some (.reserveHold holdId eventId group traceId d)) :
    ∃ e, consumedSuccess fmt s a = some e ∧ e.holdId = holdId ∧ e.eventId = eventId := by
  cases seatCall_cases h with
  | succeeded a e d hconsumed => exact ⟨e, consumedSuccess_iff.mpr hconsumed, rfl, rfl⟩

/-- The intent of a payment.succeeded event in the queue is COMPLETED. -/
theorem System.Reachable.consumedSuccess {s : System} (h : s.Reachable) {fmt : Formats}
    {a : SystemAction} {e : PaymentSucceededV1}
    (hconsumed : SeatReservation.consumedSuccess fmt s a = some e) :
    ∃ i ∈ s.payment.db.intents, (Event.paymentSucceeded e).closes i := by
  obtain ⟨m, hm, hpayload⟩ := consumedPayment_mem (consumedSuccess_iff.mp hconsumed)
  obtain ⟨-, -, -, i, hi, hcloses⟩ := h.seatQueue hm
  rw [hpayload] at hcloses
  exact ⟨i, hi, hcloses⟩

theorem ReservedPaid.step {s : System} (h : ReservedPaid s) (env : SystemEnv) (a : SystemAction) :
    ReservedPaid (systemStep env s a) := by
  have hreach := h.toReachable
  have hold_paid : ∀ {id : Uuid},
      (∃ i ∈ s.payment.db.intents, i.holdId = id ∧ i.status = .completed) →
        ∃ i ∈ (systemStep env s a).payment.db.intents, i.holdId = id ∧ i.status = .completed := by
    rintro id ⟨i, hi, hid, hcompleted⟩
    exact ⟨i, intent_frozen env a hi (by simp [hcompleted]), hid, hcompleted⟩
  refine ⟨hreach.step env a, ?_⟩
  intro r hr hreserved
  apply hold_paid
  rcases hreach.wellFormed.seatEffect env a with ⟨c, hcall, heffect⟩ | ⟨hsame, -⟩
  · rcases heffect.reserved_cases hr hreserved with hr | ⟨eventId, group, traceId, d, rfl⟩
    · exact h.paid r hr hreserved
    · obtain ⟨e, hconsumed, hid, -⟩ := consumedSuccess_of_reserveHold hcall
      obtain ⟨i, hi, hcompleted, -, -, -, hhold, -⟩ := hreach.consumedSuccess hconsumed
      exact ⟨i, hi, hhold.symm.trans hid, hcompleted⟩
  · rw [hsame] at hr
    exact h.paid r hr hreserved

/-- **Every RESERVED hold is the hold of a COMPLETED intent**, in every state of
    every run. -/
theorem reserved_paid {s : System} (hseed : s.Seeded) (env : SystemEnv)
    (as : List SystemAction) :
    ∀ h ∈ (exec (systemStep env) s as).seat.holds, h.status = .reserved →
      ∃ i ∈ (exec (systemStep env) s as).payment.db.intents,
        i.holdId = h.id ∧ i.status = .completed := by
  have hinv : ReservedPaid (exec (systemStep env) s as) := by
    apply exec_invariant' ReservedPaid
    · intro t a h
      exact h.step env a
    · refine ⟨hseed.reachable, ?_⟩
      intro r hr
      simp [hseed.seat.holds] at hr
  exact hinv.paid

/-- The actions of a run of the payment service on its own. -/
def localRun (as : List PaymentAction) : List SystemAction :=
  as.filterMap fun a => if h : a.isLocal = true then some (.payment a h) else none

/-- A row of the payment service's outbox on its way to the queue. -/
def publishPayment (now : Nat) : List SystemAction :=
  [.paymentWorker (.claim now []), .paymentWorker (.publish 0 true true),
   .paymentWorker (.settle 0 now)]

/-- User 101 takes hold 201 on a seat, until 121000. -/
def holdSeat (seatId : String) : SystemAction :=
  .hold seatId 101 none 801 ⟨201, 301, 1000, 1000, 1000⟩

def seatA1 : String := "00000000-0000-0000-0000-000000000001"
def seatA3 : String := "00000000-0000-0000-0000-000000000003"

/-- Hold 201 is checked out for seat A1, and the payment succeeds and is published. -/
def paidFor (holdAction : SystemAction) : List SystemAction :=
  [holdAction] ++
    localRun (checkoutRun 0 ⟨⟨1, 201, firstKey⟩, 101⟩ 901 ++ succeededRun "evt_1" firstKey 501) ++
      publishPayment 4000

def deliverPayment : SystemAction := .deliverToSeat 0 true ⟨601, 5000, 5000⟩

/-- The hold of a paid seat is reserved, and its intent is COMPLETED. -/
theorem paidFor_reserved_paid :
    ∃ i ∈ (exec (systemStep defaultSystemEnv) seedSystem
      (paidFor (holdSeat seatA1) ++ [deliverPayment])).payment.db.intents,
        i.holdId = 201 ∧ i.status = .completed :=
  reserved_paid seedSystem_seeded defaultSystemEnv _
    ⟨201, 1, 101, .reserved, 121000, none, some 5000⟩ (by decide +kernel) rfl

/-! ### What becomes of an accepted payment -/

def IsReserved (holdId : Uuid) (db : SeatDb) : Prop :=
  ∃ h ∈ db.holds, h.id = holdId ∧ h.status = .reserved

/-- The hold exists and has not been released. -/
def IsLive (holdId : Uuid) (db : SeatDb) : Prop :=
  ∃ h ∈ db.holds, h.id = holdId ∧ h.status ≠ .released

/-- No other payment event was given the id of this one. -/
def HasOwnId (e : PaymentSucceededV1) (db : PaymentDb) : Prop :=
  ∀ r ∈ db.outbox.history, r.payload.eventId = e.eventId → r.payload = .paymentSucceeded e

/-- Every consumed event was a payment.succeeded event, whose hold is RESERVED. -/
def ConsumedReserved (s : System) : Prop :=
  ∀ c ∈ s.seat.consumedEvents, ∃ r ∈ s.payment.db.outbox.history, ∃ e,
    r.payload = .paymentSucceeded e ∧ e.eventId = c.1 ∧ IsReserved e.holdId s.seat

theorem IsReserved.step {s : System} {holdId : Uuid} (h : IsReserved holdId s.seat)
    (hwf : s.WellFormed) (env : SystemEnv) (a : SystemAction) :
    IsReserved holdId (systemStep env s a).seat := by
  obtain ⟨r, hr, hid, hreserved⟩ := h
  exact ⟨r, hwf.hold_frozen env a hr (by simp [hreserved]), hid, hreserved⟩

theorem IsReserved.exec {s : System} {holdId : Uuid} (h : IsReserved holdId s.seat)
    (hwf : s.WellFormed) (env : SystemEnv) (as : List SystemAction) :
    IsReserved holdId (exec (systemStep env) s as).seat := by
  obtain ⟨r, hr, hid, hreserved⟩ := h
  exact ⟨r, hwf.hold_frozen_exec env as hr (by simp [hreserved]), hid, hreserved⟩

theorem ConsumedReserved.step {s : System} (h : ConsumedReserved s) (hreach : s.Reachable)
    (env : SystemEnv) (a : SystemAction) : ConsumedReserved (systemStep env s a) := by
  have hwf := hreach.wellFormed
  have hbefore : ∀ c ∈ s.seat.consumedEvents, ∃ r ∈ (systemStep env s a).payment.db.outbox.history,
      ∃ e, r.payload = .paymentSucceeded e ∧ e.eventId = c.1 ∧
        IsReserved e.holdId (systemStep env s a).seat := by
    intro c hc
    obtain ⟨r, hr, e, hpayload, heventId, hreserved⟩ := h c hc
    exact ⟨r, paymentHistory_subset env s a hr, e, hpayload, heventId,
      hreserved.step hwf env a⟩
  intro c hc
  rcases hwf.seatEffect env a with ⟨b, hcall, heffect⟩ | ⟨-, hsame, -⟩
  · rcases heffect.consumed_cases hc with hc | ⟨traceId, d, r, hr, hreserved, rfl⟩
    · exact hbefore c hc
    · obtain ⟨e, hconsumed, hid, heventId⟩ := consumedSuccess_of_reserveHold hcall
      obtain ⟨m, hm, hpayload⟩ := consumedPayment_mem (consumedSuccess_iff.mp hconsumed)
      obtain ⟨row, hrow, hletter, -⟩ := hreach.seatQueue hm
      refine ⟨row, paymentHistory_subset env s a hrow, e, ?_, heventId, r, hr, hid.symm, hreserved⟩
      rw [OutboxRow.payload_of_letter hletter, hpayload]
  · rw [hsame] at hc
    exact hbefore c hc

theorem System.Seeded.consumedReserved_exec {s : System} (h : s.Seeded) (env : SystemEnv)
    (as : List SystemAction) : ConsumedReserved (exec (systemStep env) s as) := by
  have hinv : (exec (systemStep env) s as).Reachable ∧
      ConsumedReserved (exec (systemStep env) s as) := by
    apply exec_invariant' (fun t : System => t.Reachable ∧ ConsumedReserved t)
    · rintro t a ⟨hreach, hconsumed⟩
      exact ⟨hreach.step env a, hconsumed.step hreach env a⟩
    · refine ⟨h.reachable, ?_⟩
      intro c hc
      simp [h.seat.consumedEvents] at hc
  exact hinv.2

/-- The event of a hold that is still there reserves it. -/
theorem consumedSuccess_reserves {env : SystemEnv} {s : System} {a : SystemAction}
    {e : PaymentSucceededV1} (hwf : s.WellFormed) (hconsumedReserved : ConsumedReserved s)
    (hconsumed : consumedSuccess env.formats s a = some e) (hown : HasOwnId e s.payment.db)
    (hlive : IsLive e.holdId s.seat) : IsReserved e.holdId (systemStep env s a).seat := by
  obtain ⟨d, hstep⟩ := consumedPayment_step (consumedSuccess_iff.mp hconsumed)
  obtain ⟨r, hr, hid, hstatus⟩ := hlive
  cases hcase : r.status with
  | released => exact absurd hcase hstatus
  | reserved => exact IsReserved.step ⟨r, hr, hid, hcase⟩ hwf env a
  | held =>
    by_cases hnew : (e.eventId, "seat-service") ∈ s.seat.consumedEvents
    · -- The id is consumed already, so this event has been handled before.
      obtain ⟨row, hrow, e', hpayload, heventId, hreserved⟩ := hconsumedReserved _ hnew
      have hsame : row.payload = .paymentSucceeded e := by
        apply hown row hrow
        rw [hpayload]
        exact heventId
      rw [hpayload] at hsame
      cases hsame
      exact hreserved.step hwf env a
    · refine ⟨r.reserve d.now, ?_, hid, rfl⟩
      rw [hstep env rfl]
      exact reserveHold_reserves hr hid hcase hnew

/-- The event of a hold that is gone does nothing. -/
theorem consumedSuccess_noop {env : SystemEnv} {s : System} {a : SystemAction}
    {e : PaymentSucceededV1} (hconsumed : consumedSuccess env.formats s a = some e)
    (hgone : ¬ IsLive e.holdId s.seat) : (systemStep env s a).seat = s.seat := by
  obtain ⟨d, hstep⟩ := consumedPayment_step (consumedSuccess_iff.mp hconsumed)
  rw [hstep env rfl]
  apply reserveHold_eq_self
  intro r hr hid hheld
  exact hgone ⟨r, hr, hid, by simp [hheld]⟩

/-- **An accepted payment reserves its hold, in every later state, when the hold has
    not been released; otherwise the event is dropped.**  The intent is COMPLETED
    either way. -/
theorem accepted_payment {s : System} (hseed : s.Seeded) (env : SystemEnv)
    (as : List SystemAction) (a : SystemAction) (e : PaymentSucceededV1)
    (hconsumed : consumedSuccess env.formats (exec (systemStep env) s as) a = some e) :
    let before := exec (systemStep env) s as
    (IsLive e.holdId before.seat → HasOwnId e before.payment.db →
      ∀ bs, IsReserved e.holdId (exec (systemStep env) s (as ++ a :: bs)).seat) ∧
    (¬ IsLive e.holdId before.seat → (systemStep env before a).seat = before.seat) ∧
    ∀ bs, ∃ i ∈ (exec (systemStep env) s (as ++ a :: bs)).payment.db.intents,
      i.id = e.paymentIntentId ∧ i.holdId = e.holdId ∧ i.status = .completed := by
  have hreach := hseed.reachable_exec env as
  have hconsumedReserved := hseed.consumedReserved_exec env as
  refine ⟨?_, ?_, ?_⟩
  · intro hlive hown bs
    rw [exec_append, exec_cons]
    have hreserved := consumedSuccess_reserves hreach.wellFormed hconsumedReserved hconsumed hown
      hlive
    exact hreserved.exec (hreach.wellFormed.step env a) env bs
  · exact consumedSuccess_noop hconsumed
  · intro bs
    obtain ⟨i, hi, hcompleted, hid, -, -, hhold, -⟩ := hreach.consumedSuccess hconsumed
    rw [exec_append]
    exact ⟨i, intent_frozen_exec env (a :: bs) hi (by simp [hcompleted]), hid.symm, hhold.symm,
      hcompleted⟩

/-- The event of the payment in `paidFor`. -/
def paidEvent : PaymentSucceededV1 :=
  ⟨501, 901, 1, 101, 201, 1900, "USD", pspIntentIdOf firstKey.text, Uuid.toString 801, 3000⟩

/-- The sweeper releases hold 201 after it has expired. -/
def sweepHold : SystemAction := .sweep ⟨[201], by decide⟩ 602 200000 fun _ => (701, 200000)

/-- The hold expires and is swept while its payment is in the queue: the event is
    acked, the intent stays COMPLETED and the hold RELEASED. -/
theorem sweptHold_dropped :
    seedSystem.Seeded ∧
      let before := exec (systemStep defaultSystemEnv) seedSystem
        (paidFor (holdSeat seatA1) ++ [sweepHold])
      let after := systemStep defaultSystemEnv before deliverPayment
      consumedSuccess defaultSystemEnv.formats before deliverPayment = some paidEvent ∧
        after.seatQueue = [] ∧ after.deadLetters = [] ∧
        (∀ h ∈ after.seat.holds, h.id = paidEvent.holdId → h.status = .released) ∧
        ∃ i ∈ after.payment.db.intents, i.holdId = paidEvent.holdId ∧ i.status = .completed :=
  ⟨seedSystem_seeded, by decide +kernel⟩

/-- Delivered before the sweep, the same payment reserves the hold for good. -/
theorem paidFor_accepted :
    IsReserved 201 (exec (systemStep defaultSystemEnv) seedSystem
      (paidFor (holdSeat seatA1) ++ deliverPayment :: [sweepHold])).seat :=
  (accepted_payment seedSystem_seeded defaultSystemEnv (paidFor (holdSeat seatA1)) deliverPayment
    paidEvent (by decide +kernel)).1 (by unfold IsLive; decide +kernel)
    (by unfold HasOwnId; decide +kernel) [sweepHold]

/-! ### Event ids -/

/-- The id an action draws for a payment event has not been drawn for one before. -/
def DrawsFresh (fmt : Formats) (s : System) (a : SystemAction) : Prop :=
  ∀ c, paymentCall fmt s a = some c → ∀ d, c.eventDraw = some d →
    ∀ r ∈ s.payment.db.outbox.history, r.payload.eventId ≠ d.eventId

/-- No two payment events have the same id. -/
def DistinctIds (db : PaymentDb) : Prop :=
  ∀ r ∈ db.outbox.history, ∀ r' ∈ db.outbox.history,
    r.payload.eventId = r'.payload.eventId → r.payload = r'.payload

theorem DistinctIds.step {env : SystemEnv} {s : System} {a : SystemAction}
    (h : DistinctIds s.payment.db) (hfresh : DrawsFresh env.formats s a) :
    DistinctIds (systemStep env s a).payment.db := by
  rcases systemStep_paymentEffect env s a with ⟨c, hcall, heffect⟩ | ⟨-, -, hsame⟩
  · obtain ⟨new, happ, hnew⟩ := heffect.appended_eventId
    rcases hnew with rfl | ⟨row, d, rfl, hdraw, heventId⟩
    · unfold DistinctIds
      rw [happ.2, List.append_nil]
      exact h
    · have hfree := hfresh c hcall d hdraw
      unfold DistinctIds
      rw [happ.2]
      intro r hr r' hr' hids
      rcases List.mem_append.mp hr with hold | hlast
      · rcases List.mem_append.mp hr' with hold' | hlast'
        · exact h r hold r' hold' hids
        · rw [List.mem_singleton.mp hlast', heventId] at hids
          exact absurd hids (hfree r hold)
      · rcases List.mem_append.mp hr' with hold' | hlast'
        · rw [List.mem_singleton.mp hlast, heventId] at hids
          exact absurd hids.symm (hfree r' hold')
        · rw [List.mem_singleton.mp hlast, List.mem_singleton.mp hlast']
  · unfold DistinctIds
    rw [hsame]
    exact h

/-- **When no payment event draws an id twice, each event the seat service consumes
    has an id of its own.** -/
theorem consumed_hasOwnId {s : System} (hseed : s.Seeded) (env : SystemEnv)
    (as : List SystemAction) (hfresh : Along (systemStep env) (DrawsFresh env.formats) s as)
    {a : SystemAction} {e : PaymentSucceededV1}
    (hconsumed : consumedSuccess env.formats (exec (systemStep env) s as) a = some e) :
    HasOwnId e (exec (systemStep env) s as).payment.db := by
  have hdistinct : DistinctIds (exec (systemStep env) s as).payment.db := by
    apply exec_invariant (fun t : System => DistinctIds t.payment.db) _ _ hfresh
    · intro t a h hfresh
      exact h.step hfresh
    · intro r hr
      simp [hseed.payment.outbox, Outbox.empty] at hr
  obtain ⟨m, hm, hpayload⟩ := consumedPayment_mem (consumedSuccess_iff.mp hconsumed)
  obtain ⟨row, hrow, hletter, -⟩ := (hseed.reachable_exec env as).seatQueue hm
  have hkind : row.payload = .paymentSucceeded e :=
    (OutboxRow.payload_of_letter hletter).trans hpayload
  intro r hr hids
  rw [← hkind]
  apply hdistinct r hr row hrow
  rw [hids, hkind]
  rfl

/-! ### The seat of a payment and the seat of its hold -/

/-- The row a checkout inserts with its next statement. -/
def insertedIntent (s : PaymentService) : PaymentAction → Option PaymentIntentRow
  | .checkoutStep i d =>
      match s.checkouts[i]? with
      | some ⟨request, .pspCalled price pspIntentId clientSecret⟩ =>
          let row := newIntent request price pspIntentId clientSecret d.intentId
          if intentViolation s.db.intents row = none then some row else none
      | _ => none
  | _ => none

/-- The checkout whose intent is inserted keeps to a hold of its own seat and user,
    and a new hold has no id that an intent of another seat or user names. -/
def PaysOwnHold (s : System) : SystemAction → Prop
  | .payment a _ => ∀ i ∈ insertedIntent s.payment a, ∀ h ∈ s.seat.holds, h.id = i.holdId →
      h.seatId = i.seatId ∧ h.userId = i.userId
  | .hold seatId userId _ _ d => ∀ i ∈ s.payment.db.intents, d.holdId = i.holdId →
      Uuid.ofText seatId = some i.seatId ∧ userId = i.userId
  | _ => True

/-- The event that reserves a hold names the seat and the user of the hold, and the
    amount is the price of the seat. -/
def ReservesOwnSeat (env : SystemEnv) (s : System) (a : SystemAction) : Prop :=
  ∀ e ∈ consumedSuccess env.formats s a, ∀ h ∈ s.seat.holds, h.status = .held →
    (∃ h' ∈ (systemStep env s a).seat.holds, h'.id = h.id ∧ h'.status = .reserved) →
      h.seatId = e.seatId ∧ h.userId = e.userId ∧
        (getSeatPrice h.seatId s.payment.db).map (·.priceCents) = some e.amountCents

structure OwnHolds (s : System) : Prop extends s.Reachable where
  own : ∀ i ∈ s.payment.db.intents, ∀ h ∈ s.seat.holds, h.id = i.holdId →
    h.seatId = i.seatId ∧ h.userId = i.userId
  priced : s.payment.Priced

/-- An intent after an action is one from before, closed or not, or the one inserted. -/
theorem PaymentEffect.intent_cases {s : PaymentService} {a : PaymentAction} {db : PaymentDb}
    (heffect : PaymentEffect s a db) {i' : PaymentIntentRow} (hi' : i' ∈ db.intents) :
    (∃ i ∈ s.db.intents, i.holdId = i'.holdId ∧ i.seatId = i'.seatId ∧ i.userId = i'.userId) ∨
      insertedIntent s a = some i' := by
  have hclosed : ∀ {p : PaymentIntentRow → Bool} {status : IntentStatus} {now : Nat},
      i' ∈ update p (PaymentIntentRow.close status now) s.db.intents →
        ∃ i ∈ s.db.intents, i.holdId = i'.holdId ∧ i.seatId = i'.seatId ∧
          i.userId = i'.userId := by
    intro p status now hi'
    rcases mem_update.mp hi' with ⟨i, hi, -, rfl⟩ | ⟨hi, -⟩
    · exact ⟨i, hi, rfl, rfl, rfl⟩
    · exact ⟨i', hi, rfl, rfl, rfl⟩
  cases heffect with
  | nothing => exact Or.inl ⟨i', hi', rfl, rfl, rfl⟩
  | created j d c price pspIntentId clientSecret hget hstage hfree =>
    rcases List.mem_append.mp hi' with hi' | hi'
    · exact Or.inl ⟨i', hi', rfl, rfl, rfl⟩
    · obtain ⟨request, stage⟩ := c
      cases hstage
      right
      rw [List.mem_singleton.mp hi']
      simp only [insertedIntent, hget, hfree, if_true]
  | settled =>
    rw [closeIntents_intents] at hi'
    exact Or.inl (hclosed hi')
  | cancelled =>
    rw [markFailedBySeatId, closeIntents_intents] at hi'
    exact Or.inl (hclosed hi')
  | received => exact Or.inl ⟨i', hi', rfl, rfl, rfl⟩
  | processed => exact Or.inl ⟨i', hi', rfl, rfl, rfl⟩

theorem OwnHolds.own_step {env : SystemEnv} {s : System} {a : SystemAction} (h : OwnHolds s)
    (hok : PaysOwnHold s a) :
    ∀ i ∈ (systemStep env s a).payment.db.intents, ∀ r ∈ (systemStep env s a).seat.holds,
      r.id = i.holdId → r.seatId = i.seatId ∧ r.userId = i.userId := by
  intro i hi r hr hid
  rcases h.wellFormed.seatEffect env a with ⟨c, hcall, heffect⟩ | ⟨hsame, -⟩
  · -- A transaction of the seat service leaves the intents as they are.
    have hi' : i ∈ s.payment.db.intents := by
      rcases systemStep_paymentEffect env s a with ⟨c', hcall', -⟩ | ⟨hsame, -⟩
      · rw [paymentCall_eq_none hcall] at hcall'
        cases hcall'
      · rwa [hsame] at hi
    rcases heffect.hold_cases hr with ⟨r₀, hr₀, hid₀, hseat, huser⟩ |
      ⟨seatId, traceId, d, rfl, hnew, hseat⟩
    · rw [← hseat, ← huser]
      exact h.own i hi' r₀ hr₀ (hid₀.trans hid)
    · cases seatCall_cases hcall with
      | hold seatId userId header traceDraw d =>
        obtain ⟨hseat', huser⟩ := hok i hi' (hnew.symm.trans hid)
        exact ⟨Option.some.inj (hseat.symm.trans hseat'), huser⟩
  · rw [hsame] at hr
    rcases systemStep_paymentEffect env s a with ⟨c, hcall, heffect⟩ | ⟨hsame, -⟩
    · rcases heffect.intent_cases hi with ⟨i₀, hi₀, hhold, hseat, huser⟩ | hinserted
      · rw [← hseat, ← huser]
        exact h.own i₀ hi₀ r hr (hid.trans hhold.symm)
      · cases paymentCall_cases hcall with
        | own c hlocal => exact hok i hinserted r hr hid
        | released a m d hprocessed => cases hinserted
    · rw [hsame] at hi
      exact h.own i hi r hr hid

theorem OwnHolds.step {env : SystemEnv} {s : System} {a : SystemAction} (h : OwnHolds s)
    (hok : PaysOwnHold s a) : OwnHolds (systemStep env s a) :=
  ⟨h.toReachable.step env a, h.own_step hok, h.priced.systemStep env a⟩

theorem OwnHolds.reservesOwnSeat {env : SystemEnv} {s : System} {a : SystemAction}
    (h : OwnHolds s) : ReservesOwnSeat env s a := by
  rintro e hconsumed r hr hheld ⟨r', hr', hid, hreserved⟩
  have hnot : r' ∉ s.seat.holds := by
    intro hin
    rw [h.wellFormed.seat.holdKeys.eq_of_mem hin hr hid, hheld] at hreserved
    cases hreserved
  -- The hold has changed, so the step is the delivery of an event that names it.
  have hnames : e.holdId = r.id := by
    rcases h.wellFormed.seatEffect env a with ⟨c, hcall, heffect⟩ | ⟨hsame, -⟩
    · rcases heffect.reserved_cases hr' hreserved with hin | ⟨eventId, group, traceId, d, rfl⟩
      · exact absurd hin hnot
      · obtain ⟨e', hconsumed', hid', -⟩ := consumedSuccess_of_reserveHold hcall
        rw [Option.mem_def] at hconsumed
        rw [hconsumed] at hconsumed'
        rw [Option.some.inj hconsumed', hid', hid]
    · rw [hsame] at hr'
      exact absurd hr' hnot
  obtain ⟨i, hi, -, -, hseat, huser, hhold, hamount⟩ := h.toReachable.consumedSuccess hconsumed
  obtain ⟨hseat', huser'⟩ := h.own i hi r hr (hnames.symm.trans hhold)
  obtain ⟨price, hprice, hcents, -⟩ := h.priced.intents i hi
  refine ⟨hseat'.trans hseat.symm, huser'.trans huser.symm, ?_⟩
  rw [hseat', hprice, hamount, hcents]
  rfl

/-- **If every checkout keeps to a hold of its own seat and user, each payment
    reserves the seat it was made for, for its user and at the seat's price.** -/
theorem own_seat_reserved {s : System} (hseed : s.Seeded) (env : SystemEnv)
    (as : List SystemAction) (hok : Along (systemStep env) PaysOwnHold s as) :
    Along (systemStep env) (ReservesOwnSeat env) s as := by
  apply along_of_invariant OwnHolds _ _ _ hok
  · intro t a h hok
    exact h.step hok
  · intro t a h hok
    exact h.reservesOwnSeat
  · refine ⟨hseed.reachable, ?_, hseed.payment.priced⟩
    intro i hi
    simp [hseed.payment.intents] at hi

instance (s : System) (a : SystemAction) : Decidable (PaysOwnHold s a) :=
  match a with
  | .payment a _ => inferInstanceAs (Decidable (∀ i ∈ insertedIntent s.payment a,
      ∀ h ∈ s.seat.holds, h.id = i.holdId → h.seatId = i.seatId ∧ h.userId = i.userId))
  | .hold seatId userId _ _ d => inferInstanceAs (Decidable (∀ i ∈ s.payment.db.intents,
      d.holdId = i.holdId → Uuid.ofText seatId = some i.seatId ∧ userId = i.userId))
  | .release .. | .releaseHold .. | .releaseLost .. | .sweep .. | .seatWorker .. |
    .paymentWorker .. | .deliverToSeat .. | .deliverToPayment .. => inferInstanceAs (Decidable True)

instance (env : SystemEnv) (s : System) (a : SystemAction) :
    Decidable (ReservesOwnSeat env s a) := by
  unfold ReservesOwnSeat
  infer_instance

/-- Seat A3 is held, and its hold is paid for at the price of seat A1. -/
theorem cheapSeat_reserves :
    seedSystem.Seeded ∧ ¬ Along (systemStep defaultSystemEnv) (ReservesOwnSeat defaultSystemEnv)
      seedSystem (paidFor (holdSeat seatA3) ++ [deliverPayment]) :=
  ⟨seedSystem_seeded, by decide +kernel⟩

/-- The payment for the hold of seat A1 reserves seat A1. -/
theorem ownSeat_reserves :
    Along (systemStep defaultSystemEnv) (ReservesOwnSeat defaultSystemEnv) seedSystem
      (paidFor (holdSeat seatA1) ++ [deliverPayment]) :=
  own_seat_reserved seedSystem_seeded defaultSystemEnv _ (by decide +kernel)

end SeatReservation
