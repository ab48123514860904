import SeatReservation.ReservationSafety

/-!
# Compensation for a released hold

A seat.released event carries the seat and not the hold, and the payment service
cancels every PENDING intent on the seat.  When the event is late the seat may
have a new hold and a new intent, which is then cancelled instead; the
payment.failed event that follows releases a hold that had nothing to do with
it.  Exactly when no such intent is there (`compensation_iff`) the event touches
the released hold only, and then what it sends back releases nothing: the one
hold it names is released already.
-/

namespace SeatReservation

open Relational TransitionSystem

/-! ### The cancellation of intents -/

/-- Every PENDING intent on the seat of the event is one of the released hold. -/
def CancelsOwnIntents (fmt : Formats) (s : System) (a : SystemAction) : Prop :=
  ∀ m ∈ processedRelease fmt s a, ∀ i ∈ s.payment.db.intents,
    isPendingOnSeat m.2.seatId i = true → i.holdId = m.1

/-- The payment.failed event of a cancellation the seat service consumes. -/
def consumedCancellation (fmt : Formats) (s : System) (a : SystemAction) : Option PaymentFailedV1 :=
  match consumedPayment fmt s a with
  | some (.paymentFailed e) => if e.reason = "seat_released" then some e else none
  | _ => none

/-- Processing the release of a hold changes the intents of that hold only, and what
    comes back to the seat service releases no hold. -/
structure CompensatesOnly (env : SystemEnv) (s : System) (a : SystemAction) : Prop where
  intents : ∀ m ∈ processedRelease env.formats s a, ∀ i ∈ s.payment.db.intents,
    i.holdId ≠ m.1 → i ∈ (systemStep env s a).payment.db.intents
  holds : (consumedCancellation env.formats s a).isSome = true →
    ∀ h ∈ s.seat.holds, h ∈ (systemStep env s a).seat.holds

theorem processedRelease_step {env : SystemEnv} {s : System} {a : SystemAction}
    {m : Uuid × SeatReleasedV1} (h : processedRelease env.formats s a = some m) :
    ∃ now, (systemStep env s a).payment.db.intents =
      update (isPendingOnSeat m.2.seatId) (PaymentIntentRow.close .failed now)
        s.payment.db.intents := by
  cases a with
  | deliverToPayment i acked d =>
    simp only [processedRelease] at h
    simp only [systemStep, deliverToPayment]
    cases hget : s.paymentQueue[i]? with
    | none =>
      rw [hget] at h
      cases h
    | some row =>
      simp only [hget] at h ⊢
      split at h
      · rename_i hparses
        split at h
        · rename_i e hpayload
          cases h
          refine ⟨d.now, ?_⟩
          rw [hpayload] at hparses
          simp only [hpayload, hparses, if_true]
          exact closeIntents_intents ..
        · cases h
      · cases h
  | _ => cases h

/-! ### What the cancellation sends back -/

/-- A payment.failed row of a cancellation names the hold of an intent it ended. -/
theorem PaymentEffect.cancellation_cases {s : PaymentService} {a : PaymentAction} {db : PaymentDb}
    (heffect : PaymentEffect s a db) {r : OutboxRow} (hr : r ∈ db.outbox.history)
    {e : PaymentFailedV1} (hpayload : r.payload = .paymentFailed e)
    (hreason : e.reason = "seat_released") :
    r ∈ s.db.outbox.history ∨ ∃ seatId traceId d, a = .seatReleased seatId traceId d ∧
      ∃ i ∈ s.db.intents, isPendingOnSeat seatId i = true ∧ i.holdId = e.holdId := by
  cases heffect with
  | nothing => exact Or.inl hr
  | created => exact Or.inl hr
  | settled a status eventType event pspIntentId traceId d hdraw hkind =>
    rcases closeIntents_cases (isPendingPsp pspIntentId) status eventType event traceId d.now s.db
      with ⟨-, heq⟩ | ⟨first, rest, -, heq⟩
    · rw [heq] at hr
      exact Or.inl hr
    · rw [heq] at hr
      rcases List.mem_append.mp hr with hr | hr
      · exact Or.inl hr
      · rw [List.mem_singleton.mp hr] at hpayload
        rcases hkind with ⟨-, -, rfl⟩ | ⟨-, -, rfl⟩
        · cases hpayload
        · cases hpayload
          simp at hreason
  | cancelled seatId traceId d =>
    unfold markFailedBySeatId at hr
    rcases closeIntents_cases (isPendingOnSeat seatId) .failed "payment.failed.v1"
        (paymentFailedEvent "seat_released" traceId d) traceId d.now s.db with
      ⟨-, heq⟩ | ⟨first, rest, hsel, heq⟩
    · rw [heq] at hr
      exact Or.inl hr
    · rw [heq] at hr
      rcases List.mem_append.mp hr with hr | hr
      · exact Or.inl hr
      · rw [List.mem_singleton.mp hr] at hpayload
        cases hpayload
        have hmem : first ∈ s.db.intents.filter (isPendingOnSeat seatId) := by
          rw [hsel]
          exact List.mem_cons_self
        obtain ⟨hfirst, hpending⟩ := List.mem_filter.mp hmem
        exact Or.inr ⟨seatId, traceId, d, rfl, first, hfirst, hpending, rfl⟩
  | received => exact Or.inl hr
  | processed => exact Or.inl hr

def IsReleased (holdId : Uuid) (db : SeatDb) : Prop :=
  ∃ h ∈ db.holds, h.id = holdId ∧ h.status = .released

/-- The holds that seat.released events announce and that cancellations name are
    RELEASED. -/
structure Compensating (s : System) : Prop extends s.Reachable where
  announced : ∀ r ∈ s.seat.outbox.history, r.eventType = "seat.released.v1" →
    IsReleased r.aggregateId s.seat
  cancelled : ∀ r ∈ s.payment.db.outbox.history, ∀ e, r.payload = .paymentFailed e →
    e.reason = "seat_released" → IsReleased e.holdId s.seat

theorem IsReleased.step {s : System} {holdId : Uuid} (h : IsReleased holdId s.seat)
    (hwf : s.WellFormed) (env : SystemEnv) (a : SystemAction) :
    IsReleased holdId (systemStep env s a).seat := by
  obtain ⟨r, hr, hid, hreleased⟩ := h
  exact ⟨r, hwf.hold_frozen env a hr (by simp [hreleased]), hid, hreleased⟩

/-- The hold a seat.released message announces is RELEASED. -/
theorem Compensating.processedRelease {s : System} (h : Compensating s) {fmt : Formats}
    {a : SystemAction} {m : Uuid × SeatReleasedV1}
    (hprocessed : SeatReservation.processedRelease fmt s a = some m) :
    IsReleased m.1 s.seat := by
  obtain ⟨row, hrow, haggregate, -⟩ := processedRelease_mem hprocessed
  obtain ⟨r, hr, hletter, -⟩ := h.toReachable.paymentQueue hrow
  have htype : r.eventType = "seat.released.v1" :=
    (OutboxRow.eventType_of_letter hletter).trans (h.carried.released row hrow)
  have hsame : r.aggregateId = row.aggregateId := congrArg (·.1) hletter
  rw [← haggregate, ← hsame]
  exact h.announced r hr htype

theorem Compensating.step {env : SystemEnv} {s : System} {a : SystemAction} (h : Compensating s)
    (hok : CancelsOwnIntents env.formats s a) : Compensating (systemStep env s a) := by
  have hwf := h.wellFormed
  refine ⟨h.toReachable.step env a, ?_, ?_⟩
  · intro r hr htype
    rcases hwf.seatEffect env a with ⟨c, -, heffect⟩ | ⟨-, -, hsame⟩
    · rcases heffect.released_cases hr htype with hr | hreleased
      · exact (h.announced r hr htype).step hwf env a
      · exact hreleased
    · rw [hsame] at hr
      exact (h.announced r hr htype).step hwf env a
  · intro r hr e hpayload hreason
    rcases systemStep_paymentEffect env s a with ⟨c, hcall, heffect⟩ | ⟨-, -, hsame⟩
    · rcases heffect.cancellation_cases hr hpayload hreason with
        hr | ⟨seatId, traceId, d, rfl, i, hi, hpending, hhold⟩
      · exact (h.cancelled r hr e hpayload hreason).step hwf env a
      · cases paymentCall_cases hcall with
        | own c hlocal => cases hlocal
        | released a m d hm =>
          rw [← hhold, hok m hm i hi hpending]
          exact (h.processedRelease hm).step hwf env a
    · rw [hsame] at hr
      exact (h.cancelled r hr e hpayload hreason).step hwf env a

theorem consumedCancellation_iff {fmt : Formats} {s : System} {a : SystemAction}
    {e : PaymentFailedV1} :
    consumedCancellation fmt s a = some e ↔
      consumedPayment fmt s a = some (.paymentFailed e) ∧ e.reason = "seat_released" := by
  unfold consumedCancellation
  split
  · rename_i e' heq
    rw [heq]
    constructor
    · intro h
      split at h
      · rename_i hreason
        cases h
        exact ⟨rfl, hreason⟩
      · cases h
    · rintro ⟨hsame, hreason⟩
      cases hsame
      rw [if_pos hreason]
  · rename_i hnot
    constructor
    · intro h
      cases h
    · rintro ⟨heq, -⟩
      exact absurd heq (hnot e)

theorem Compensating.compensatesOnly {env : SystemEnv} {s : System} {a : SystemAction}
    (h : Compensating s) (hok : CancelsOwnIntents env.formats s a) : CompensatesOnly env s a := by
  constructor
  · intro m hm i hi hother
    obtain ⟨now, hstep⟩ := processedRelease_step hm
    rw [hstep]
    refine mem_update.mpr (Or.inr ⟨hi, ?_⟩)
    rw [Bool.eq_false_iff]
    intro hpending
    exact hother (hok m hm i hi hpending)
  · intro hsome r hr
    obtain ⟨e, hcancel⟩ := Option.isSome_iff_exists.mp hsome
    obtain ⟨hconsumed, hreason⟩ := consumedCancellation_iff.mp hcancel
    obtain ⟨m, hm, hpayload⟩ := consumedPayment_mem hconsumed
    obtain ⟨row, hrow, hletter, -⟩ := h.toReachable.seatQueue hm
    -- The hold that the event names is RELEASED, so there is nothing to release.
    obtain ⟨r₀, hr₀, hid₀, hreleased⟩ := h.cancelled row hrow e
      ((OutboxRow.payload_of_letter hletter).trans hpayload) hreason
    obtain ⟨d, hstep⟩ := consumedPayment_step hconsumed
    rw [hstep env rfl]
    have hsame : onPaymentEvent (.paymentFailed e) d s.seat = s.seat := by
      apply releaseHold_eq_self
      intro r' hr' hid'
      rw [h.wellFormed.seat.holdKeys.eq_of_mem hr' hr₀ (hid'.trans hid₀.symm), hreleased]
      simp
    rw [hsame]
    exact hr

theorem cancelsOwnIntents_of_compensatesOnly {env : SystemEnv} {s : System} {a : SystemAction}
    (h : CompensatesOnly env s a) : CancelsOwnIntents env.formats s a := by
  intro m hm i hi hpending
  by_contra hother
  have hkept := h.intents m hm i hi hother
  obtain ⟨now, hstep⟩ := processedRelease_step hm
  rw [hstep] at hkept
  rcases mem_update.mp hkept with ⟨i₀, -, -, rfl⟩ | ⟨-, hskipped⟩
  · have hfailed := (isPendingOnSeat_iff.mp hpending).2
    cases hfailed
  · rw [hpending] at hskipped
    cases hskipped

/-- **Compensation touches the released hold only iff no seat.released event finds a
    PENDING intent of another hold on its seat.** -/
theorem compensation_iff {s : System} (hseed : s.Seeded) (env : SystemEnv)
    (as : List SystemAction) :
    Along (systemStep env) (CompensatesOnly env) s as ↔
      Along (systemStep env) (CancelsOwnIntents env.formats) s as := by
  apply along_iff_along Compensating
  · intro t a h hok
    exact h.step hok
  · intro t a h
    constructor
    · exact cancelsOwnIntents_of_compensatesOnly
    · exact h.compensatesOnly
  · refine ⟨hseed.reachable, ?_, ?_⟩
    · intro r hr
      simp [hseed.seat.outbox, Outbox.empty] at hr
    · intro r hr
      simp [hseed.payment.outbox, Outbox.empty] at hr

instance (fmt : Formats) (s : System) (a : SystemAction) :
    Decidable (CancelsOwnIntents fmt s a) := by
  unfold CancelsOwnIntents
  infer_instance

instance (env : SystemEnv) (s : System) (a : SystemAction) :
    Decidable (CompensatesOnly env s a) :=
  decidable_of_iff
    ((∀ m ∈ processedRelease env.formats s a, ∀ i ∈ s.payment.db.intents,
        i.holdId ≠ m.1 → i ∈ (systemStep env s a).payment.db.intents) ∧
      ((consumedCancellation env.formats s a).isSome = true →
        ∀ h ∈ s.seat.holds, h ∈ (systemStep env s a).seat.holds))
    ⟨fun h => ⟨h.1, h.2⟩, fun h => ⟨h.intents, h.holds⟩⟩

/-- User 101 cancels hold 201 on seat A1, and the events of the hold are published. -/
def cancelHold : List SystemAction :=
  [.release seatA1 101 none 802, .releaseHold 0 ⟨302, 3500, 3500⟩,
   .seatWorker (.claim 3600 []), .seatWorker (.publish 0 true true),
   .seatWorker (.publish 1 true true)]

def deliverRelease : SystemAction := .deliverToPayment 0 true ⟨502, 4000, 4000⟩

/-- While the release of hold 201 is in the queue, user 102 takes seat A1 and
    checks it out. -/
def nextHolder : List SystemAction :=
  [.hold seatA1 102 none 803 ⟨202, 303, 3700, 3700, 3700⟩] ++
    localRun (checkoutRun 0 ⟨⟨1, 202, secondKey⟩, 102⟩ 902)

/-- The release fails the intent of the next holder, and the event of that failure
    releases the next holder's hold, which had two minutes left. -/
def lateRelease : List SystemAction :=
  [holdSeat seatA1] ++ cancelHold ++ nextHolder ++ [deliverRelease] ++ publishPayment 4100 ++
    [.deliverToSeat 0 true ⟨602, 4200, 4200⟩]

theorem lateRelease_releases_next :
    seedSystem.Seeded ∧
      ¬ Along (systemStep defaultSystemEnv) (CompensatesOnly defaultSystemEnv) seedSystem
        lateRelease ∧
      let s := exec (systemStep defaultSystemEnv) seedSystem lateRelease
      (∃ i ∈ s.payment.db.intents, i.holdId = 202 ∧ i.status = .failed) ∧
      ∃ h ∈ s.seat.holds, h.id = 202 ∧ h.status = .released ∧ h.releasedAt = some 4200 ∧
        h.heldUntil = 123700 :=
  ⟨seedSystem_seeded, by decide +kernel⟩

/-- The release of a hold that is checked out fails its own intent and no more. -/
theorem ownRelease_compensates :
    Along (systemStep defaultSystemEnv) (CompensatesOnly defaultSystemEnv) seedSystem
      ([holdSeat seatA1] ++ localRun (checkoutRun 0 ⟨⟨1, 201, firstKey⟩, 101⟩ 901) ++
        cancelHold ++ [deliverRelease] ++ publishPayment 4100 ++
          [.deliverToSeat 0 true ⟨602, 4200, 4200⟩]) :=
  (compensation_iff seedSystem_seeded defaultSystemEnv _).mpr (by decide +kernel)

end SeatReservation
