import SeatReservation.PaymentInvariants
import Mathlib.Data.List.Dedup

/-!
# Ending payment intents

Three functions end PENDING intents and each appends the event of the first row
it updated.  For the two that select by PSP id this is every row, since PSP ids
are distinct; the one that selects by seat updates as many rows as the seat has
(`announces_closed_iff`).  And since nothing but the key of a checkout request
is unique, a hold can be charged once for each key it was checked out with, but
not more often (`completed_le_keys`).
-/

namespace SeatReservation

open Relational TransitionSystem

/-! ### One event for each intent that ends -/

/-- The outbox row is the terminal event of the intent. -/
def OutboxRow.announcesClose (row : OutboxRow) (i : PaymentIntentRow) : Bool :=
  row.aggregateId == i.id &&
    match i.status, row.payload with
    | .completed, .paymentSucceeded e =>
        row.eventType == "payment.succeeded.v1" && e.paymentIntentId == i.id &&
          e.holdId == i.holdId && e.seatId == i.seatId && e.userId == i.userId
    | .failed, .paymentFailed e =>
        row.eventType == "payment.failed.v1" && e.paymentIntentId == i.id &&
          e.holdId == i.holdId && e.seatId == i.seatId && e.userId == i.userId
    | _, _ => false

/-- Every intent that leaves PENDING is announced by exactly one row the step appends. -/
def AnnouncesClosed (db db' : PaymentDb) : Prop :=
  ∀ i ∈ db.intents, i.status = .pending →
    ∀ i' ∈ db'.intents, i'.id = i.id → i'.status ≠ .pending →
      (appendedRows db.outbox db'.outbox).countP (·.announcesClose i') = 1

/-- A seat.released delivery for a seat with several PENDING intents. -/
def cancelsSeveral (s : PaymentService) : PaymentAction → Prop
  | .seatReleased seatId _ _ =>
      ∃ i ∈ s.db.intents, ∃ j ∈ s.db.intents, i.id ≠ j.id ∧
        isPendingOnSeat seatId i = true ∧ isPendingOnSeat seatId j = true
  | _ => False

/-- An intent that is not touched has not left PENDING. -/
theorem still_pending {intents : List PaymentIntentRow}
    (hkeys : KeyedBy PaymentIntentRow.id intents) {i i' : PaymentIntentRow} (hi : i ∈ intents)
    (hpending : i.status = .pending) (hi' : i' ∈ intents) (hid : i'.id = i.id) :
    i'.status = .pending := by
  rw [hkeys.eq_of_mem hi' hi hid]
  exact hpending

/-- Ending intents announces all of them when at most one row is selected. -/
theorem closeIntents_announces {db : PaymentDb} (hkeys : KeyedBy PaymentIntentRow.id db.intents)
    {p : PaymentIntentRow → Bool} {status : IntentStatus} {eventType : String}
    {event : PaymentIntentRow → Event} {traceId : String} {now : Nat}
    (hone : ∀ i ∈ db.intents, ∀ j ∈ db.intents, p i = true → p j = true → i = j)
    (hevent : ∀ i : PaymentIntentRow, (db.outbox.newRow i.id eventType (event (i.close status now))
      [("traceId", traceId), ("userId", i.userId.toString)] now).announcesClose
        (i.close status now) = true) :
    AnnouncesClosed db (closeIntents p status eventType event traceId now db).2 := by
  intro i hi hpending i' hi' hid hclosed
  rw [closeIntents_intents] at hi'
  rcases mem_update.mp hi' with ⟨i₀, hi₀, hp, rfl⟩ | ⟨hi', -⟩
  · rcases closeIntents_cases p status eventType event traceId now db with
      ⟨hnone, -⟩ | ⟨first, rest, hsel, heq⟩
    · rw [hnone i₀ hi₀] at hp
      cases hp
    · have hfirst : first ∈ db.intents ∧ p first = true := by
        have hmem : first ∈ db.intents.filter p := by rw [hsel]; exact List.mem_cons_self
        exact List.mem_filter.mp hmem
      have hsame : i₀ = first := hone i₀ hi₀ first hfirst.1 hp hfirst.2
      rw [heq, hsame]
      rw [(Outbox.Appends.insert ..).appendedRows_eq]
      simp [hevent first]
  · exact absurd (still_pending hkeys hi hpending hi' hid) hclosed

theorem announces_of_not_cancelsSeveral {env : PaymentEnv} {s : PaymentService} {a : PaymentAction}
    (h : s.WellFormed) (hsafe : ¬ cancelsSeveral s a) :
    AnnouncesClosed s.db (paymentStep env s a).db := by
  have heffect := paymentStep_effect env s a
  generalize (paymentStep env s a).db = db at heffect ⊢
  cases heffect with
  | nothing =>
    intro i hi hpending i' hi' hid hclosed
    exact absurd (still_pending h.intentKeys hi hpending hi' hid) hclosed
  | created j d c price pspIntentId clientSecret hget hstage hfree =>
    intro i hi hpending i' hi' hid hclosed
    rcases List.mem_append.mp hi' with hi' | hi'
    · exact absurd (still_pending h.intentKeys hi hpending hi' hid) hclosed
    · rw [List.mem_singleton.mp hi'] at hclosed
      exact absurd rfl hclosed
  | settled a status eventType event pspIntentId traceId d hdraw hkind =>
    apply closeIntents_announces h.intentKeys
    · intro i hi j hj hpi hpj
      exact h.eq_of_pspIntentId hi hj
        ((isPendingPsp_iff.mp hpi).1.trans (isPendingPsp_iff.mp hpj).1.symm)
    · intro i
      rcases hkind with ⟨rfl, rfl, rfl⟩ | ⟨rfl, rfl, rfl⟩
      · simp [OutboxRow.announcesClose, paymentSucceededEvent]
      · simp [OutboxRow.announcesClose, paymentFailedEvent]
  | cancelled seatId traceId d =>
    apply closeIntents_announces h.intentKeys
    · intro i hi j hj hpi hpj
      by_contra hne
      refine hsafe ⟨i, hi, j, hj, ?_, hpi, hpj⟩
      intro hid
      exact hne (h.intentKeys.eq_of_mem hi hj hid)
    · intro i
      simp [OutboxRow.announcesClose, paymentFailedEvent]
  | received event header traceDraw now hnew =>
    intro i hi hpending i' hi' hid hclosed
    exact absurd (still_pending h.intentKeys hi hpending hi' hid) hclosed
  | processed a stripeEventId now =>
    intro i hi hpending i' hi' hid hclosed
    exact absurd (still_pending h.intentKeys hi hpending hi' hid) hclosed

/-- Only the first intent of a seat is announced, so a second one is not. -/
theorem not_cancelsSeveral_of_announces {env : PaymentEnv} {s : PaymentService} {a : PaymentAction}
    (hann : AnnouncesClosed s.db (paymentStep env s a).db) : ¬ cancelsSeveral s a := by
  cases a with
  | seatReleased seatId traceId d =>
    rintro ⟨i, hi, j, hj, hne, hpi, hpj⟩
    have hstep : (paymentStep env s (.seatReleased seatId traceId d)).db =
        (closeIntents (isPendingOnSeat seatId) .failed "payment.failed.v1"
          (paymentFailedEvent "seat_released" traceId d) traceId d.now s.db).2 := rfl
    rw [hstep] at hann
    rcases closeIntents_cases (isPendingOnSeat seatId) .failed "payment.failed.v1"
        (paymentFailedEvent "seat_released" traceId d) traceId d.now s.db with
      ⟨hnone, -⟩ | ⟨first, rest, hsel, heq⟩
    · rw [hnone i hi] at hpi
      cases hpi
    · have hothers : ∀ k ∈ s.db.intents, isPendingOnSeat seatId k = true → k.id = first.id := by
        intro k hk hpk
        have hclosed : k.close .failed d.now ∈
            update (isPendingOnSeat seatId) (PaymentIntentRow.close .failed d.now) s.db.intents :=
          mem_update_of_mem hk hpk
        have hone := hann k hk (isPendingOnSeat_iff.mp hpk).2 (k.close .failed d.now)
          (by rw [closeIntents_intents]; exact hclosed) rfl (by simp)
        rw [heq] at hone
        rw [(Outbox.Appends.insert ..).appendedRows_eq] at hone
        by_contra hid
        have hnot : first.id ≠ k.id := fun heq => hid heq.symm
        simp [OutboxRow.announcesClose, hnot] at hone
      exact hne ((hothers i hi hpi).trans (hothers j hj hpj).symm)
  | checkout request => exact id
  | checkoutStep i d => exact id
  | checkoutLost i => exact id
  | webhook event header traceDraw now => exact id
  | processEvent i d => exact id
  | processEventLost i => exact id
  | reprocessTick => exact id
  | reprocess i traceDraw d => exact id
  | reprocessSkip i => exact id
  | reprocessLost i => exact id

/-- **A transaction announces each intent it ends iff it is not the cancellation of
    several PENDING intents on one seat.** -/
theorem announces_closed_iff {s : PaymentService} (hseed : s.Seeded) (env : PaymentEnv)
    (as : List PaymentAction) (a : PaymentAction) :
    AnnouncesClosed (exec (paymentStep env) s as).db (exec (paymentStep env) s (as ++ [a])).db ↔
      ¬ cancelsSeveral (exec (paymentStep env) s as) a := by
  rw [exec_append, exec_cons, exec_nil]
  constructor
  · exact not_cancelsSeveral_of_announces
  · exact announces_of_not_cancelsSeveral (hseed.wellFormed_exec env as)

/-- A checkout request from its arrival to its answer, as the `i`-th in progress. -/
def checkoutRun (i : Nat) (request : CheckoutRequest) (intentId : Uuid) : List PaymentAction :=
  .checkout request :: List.replicate 4 (.checkoutStep i ⟨intentId, "", true⟩)

def firstKey : UuidText := ⟨"00000000-0000-0000-0000-0000000000a1", 0xa1, by decide⟩
def secondKey : UuidText := ⟨"00000000-0000-0000-0000-0000000000a2", 0xa2, by decide⟩

/-- Two users, each with a hold of their own, check out seat A1. -/
def twoIntents : List PaymentAction :=
  checkoutRun 0 ⟨⟨1, 201, firstKey⟩, 101⟩ 901 ++ checkoutRun 1 ⟨⟨1, 202, secondKey⟩, 102⟩ 902

def seatReleasedA1 : PaymentAction :=
  .seatReleased 1 "00000000-0000-0000-0000-0000000000aa" ⟨701, 5000, 5000⟩

/-- Both intents become FAILED and only the first one is announced. -/
theorem twoIntents_unannounced :
    seedPrices.Seeded ∧
      ¬ AnnouncesClosed (exec (paymentStep defaultPaymentEnv) seedPrices twoIntents).db
        (exec (paymentStep defaultPaymentEnv) seedPrices (twoIntents ++ [seatReleasedA1])).db :=
  ⟨seedPrices_seeded, by unfold AnnouncesClosed; decide +kernel⟩

/-- With one intent on the seat the same delivery announces it. -/
theorem oneIntent_announced :
    AnnouncesClosed (exec (paymentStep defaultPaymentEnv) seedPrices (twoIntents.take 5)).db
      (exec (paymentStep defaultPaymentEnv) seedPrices
        (twoIntents.take 5 ++ [seatReleasedA1])).db :=
  (announces_closed_iff seedPrices_seeded defaultPaymentEnv (twoIntents.take 5) seatReleasedA1).mpr
    (by unfold cancelsSeveral seatReleasedA1; decide +kernel)

/-! ### How often a hold is charged -/

/-- The checkout requests of a run. -/
def requestsOf (as : List PaymentAction) : List CheckoutRequest :=
  as.filterMap fun
    | .checkout request => some request
    | _ => none

/-- The idempotency keys with which a hold is checked out in a run. -/
def keysFor (holdId : Uuid) (as : List PaymentAction) : List Uuid :=
  ((requestsOf as).filter fun r => r.dto.holdId == holdId).map (·.dto.idempotencyKey.uuid)

theorem mem_requestsOf {as : List PaymentAction} {r : CheckoutRequest} :
    r ∈ requestsOf as ↔ .checkout r ∈ as := by
  unfold requestsOf
  rw [List.mem_filterMap]
  constructor
  · rintro ⟨a, ha, heq⟩
    cases a <;> cases heq
    exact ha
  · intro h
    exact ⟨.checkout r, h, rfl⟩

/-- Everything the service works on comes from one of the requests `rs`. -/
structure RequestedBy (rs : List CheckoutRequest) (s : PaymentService) : Prop where
  checkouts : ∀ c ∈ s.checkouts, c.request ∈ rs
  intents : ∀ i ∈ s.db.intents, ∃ r ∈ rs, r.dto.holdId = i.holdId ∧
    r.dto.idempotencyKey.uuid = i.idempotencyKey

theorem RequestedBy.step {rs : List CheckoutRequest} {env : PaymentEnv} {s : PaymentService}
    {a : PaymentAction} (h : RequestedBy rs s) (ha : ∀ r, a = .checkout r → r ∈ rs) :
    RequestedBy rs (paymentStep env s a) := by
  refine ⟨?_, ?_⟩
  · intro c hc
    rcases mem_checkouts_step hc with hc | ⟨request, heq, rfl⟩ | ⟨d, c₀, hc₀, rfl, -⟩
    · exact h.checkouts c hc
    · exact ha request heq
    · rw [checkoutStep_request]
      exact h.checkouts c₀ hc₀
  · apply (paymentStep_effect env s a).intentChange.forall_intents _ _ h.intents
    · intro i status now hi
      exact hi
    · intro c hc price pspIntentId clientSecret intentId hstage
      exact ⟨c.request, h.checkouts c hc, rfl, rfl⟩

theorem PaymentService.Seeded.requestedBy {s : PaymentService} (h : s.Seeded)
    (rs : List CheckoutRequest) : RequestedBy rs s where
  checkouts := by intro c hc; simp [h.checkouts] at hc
  intents := by intro i hi; simp [h.intents] at hi

theorem requestedBy_exec {s : PaymentService} (hseed : s.Seeded) (env : PaymentEnv)
    (as : List PaymentAction) : RequestedBy (requestsOf as) (exec (paymentStep env) s as) := by
  apply exec_invariant (RequestedBy (requestsOf as)) _ (hseed.requestedBy _)
    (along_mem s (List.Subset.refl as))
  intro s a h ha
  apply h.step
  rintro r rfl
  exact mem_requestsOf.mpr ha

/-- **The COMPLETED intents of a hold are no more than the distinct idempotency keys
    with which the hold was checked out.** -/
theorem completed_le_keys {s : PaymentService} (hseed : s.Seeded) (env : PaymentEnv)
    (as : List PaymentAction) (holdId : Uuid) :
    ((exec (paymentStep env) s as).db.intents.filter fun i =>
      i.holdId == holdId && i.status == .completed).length ≤ (keysFor holdId as).dedup.length := by
  have hwf := hseed.wellFormed_exec env as
  have hreq := requestedBy_exec hseed env as
  generalize (exec (paymentStep env) s as) = t at hwf hreq ⊢
  have hnodup : ((t.db.intents.filter fun i =>
      i.holdId == holdId && i.status == .completed).map (·.idempotencyKey)).Nodup :=
    hwf.idempotencyKeys.sublist List.filter_sublist
  have hsub : ((t.db.intents.filter fun i =>
      i.holdId == holdId && i.status == .completed).map (·.idempotencyKey)) ⊆
        (keysFor holdId as).dedup := by
    intro key hkey
    obtain ⟨i, hi, rfl⟩ := List.mem_map.mp hkey
    obtain ⟨hmem, hsel⟩ := List.mem_filter.mp hi
    simp only [Bool.and_eq_true, beq_iff_eq] at hsel
    obtain ⟨r, hr, hhold, hkey⟩ := hreq.intents i hmem
    refine List.mem_dedup.mpr (List.mem_map.mpr ⟨r, List.mem_filter.mpr ⟨hr, ?_⟩, hkey⟩)
    simp [hhold, hsel.1]
  have hle := (List.subperm_of_subset hnodup hsub).length_le
  rwa [List.length_map] at hle

/-- A success webhook and its processing, as the only task. -/
def succeededRun (id : String) (key : UuidText) (eventId : Uuid) : List PaymentAction :=
  [.webhook ⟨id, "payment_intent.succeeded", 1, .text (pspIntentIdOf key.text)⟩ none 801 2000,
   .processEvent 0 ⟨eventId, 3000, 3000⟩, .processEvent 0 ⟨0, 3000, 3000⟩]

/-- One hold is checked out with two keys and both payments succeed. -/
def twoCharges : List PaymentAction :=
  checkoutRun 0 ⟨⟨1, 201, firstKey⟩, 101⟩ 901 ++ checkoutRun 1 ⟨⟨1, 201, secondKey⟩, 101⟩ 902 ++
    succeededRun "evt_1" firstKey 501 ++ succeededRun "evt_2" secondKey 502

/-- The hold is charged twice. -/
theorem twoCharges_completed :
    seedPrices.Seeded ∧
      ((exec (paymentStep defaultPaymentEnv) seedPrices twoCharges).db.intents.filter
        fun i => i.holdId == 201 && i.status == .completed).length = 2 :=
  ⟨seedPrices_seeded, by decide +kernel⟩

/-- Repeating the request with the same key leaves it charged once at most. -/
theorem sameKey_charged_once :
    ((exec (paymentStep defaultPaymentEnv) seedPrices
      (checkoutRun 0 ⟨⟨1, 201, firstKey⟩, 101⟩ 901 ++ checkoutRun 1 ⟨⟨1, 201, firstKey⟩, 101⟩ 902 ++
        succeededRun "evt_1" firstKey 501 ++ succeededRun "evt_2" firstKey 502)).db.intents.filter
      fun i => i.holdId == 201 && i.status == .completed).length ≤ 1 :=
  (completed_le_keys seedPrices_seeded defaultPaymentEnv _ 201).trans (by decide +kernel)

end SeatReservation
