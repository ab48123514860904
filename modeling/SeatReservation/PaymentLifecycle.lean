import SeatReservation.PaymentSafety

/-!
# The life of a payment intent

An intent is PENDING until a webhook or a seat.released event ends it, and stays
COMPLETED or FAILED for good.  Three processors race to end it: the callback of
the webhook, any number of reprocessors, and the seat consumer.  Whoever comes
first finds it PENDING and the others find nothing, so the history of the outbox
holds at most one terminal event for it, of the kind its status says.
-/

namespace SeatReservation

open Relational TransitionSystem

structure PaymentIntentRow.Lifecycle (i : PaymentIntentRow) (history : List OutboxRow) : Prop where
  succeeded : eventCount history i.id "payment.succeeded.v1" ≤
    if i.status = .completed then 1 else 0
  failed : eventCount history i.id "payment.failed.v1" ≤ if i.status = .failed then 1 else 0

/-- Every intent is where its life should be, and no event is about anything else. -/
structure PaymentLifecycle (db : PaymentDb) : Prop where
  intents : ∀ i ∈ db.intents, i.Lifecycle db.outbox.history
  events : ∀ r ∈ db.outbox.history, ∃ i ∈ db.intents, i.id = r.aggregateId

theorem PaymentIntentRow.Lifecycle.terminal_le_one {i : PaymentIntentRow}
    {history : List OutboxRow} (h : i.Lifecycle history) :
    eventCount history i.id "payment.succeeded.v1" +
      eventCount history i.id "payment.failed.v1" ≤ 1 := by
  have hsucceeded := h.succeeded
  have hfailed := h.failed
  cases hstatus : i.status with
  | pending => simp_all
  | completed => simp_all
  | failed => simp_all

/-! ### One action -/

/-- An event about another intent does not concern this one. -/
theorem PaymentIntentRow.Lifecycle.append {i : PaymentIntentRow} {history : List OutboxRow}
    (h : i.Lifecycle history) {row : OutboxRow} (hne : row.aggregateId ≠ i.id) :
    i.Lifecycle (history ++ [row]) := by
  have hzero : ∀ eventType, eventCount [row] i.id eventType = 0 := by
    intro eventType
    rw [eventCount_singleton, if_neg]
    rintro ⟨hid, -⟩
    exact hne hid
  constructor
  · rw [eventCount_append, hzero]
    exact h.succeeded
  · rw [eventCount_append, hzero]
    exact h.failed

/-- A PENDING intent has no terminal event. -/
theorem PaymentIntentRow.Lifecycle.open_counts {i : PaymentIntentRow} {history : List OutboxRow}
    (h : i.Lifecycle history) (hpending : i.status = .pending) :
    eventCount history i.id "payment.succeeded.v1" = 0 ∧
      eventCount history i.id "payment.failed.v1" = 0 := by
  have hsucceeded := h.succeeded
  have hfailed := h.failed
  rw [hpending] at hsucceeded hfailed
  simp only [reduceCtorEq, if_false] at hsucceeded hfailed
  exact ⟨Nat.le_zero.mp hsucceeded, Nat.le_zero.mp hfailed⟩

/-- The status an event type announces. -/
def Announced (status : IntentStatus) (eventType : String) : Prop :=
  (status = .completed ∧ eventType = "payment.succeeded.v1") ∨
    (status = .failed ∧ eventType = "payment.failed.v1")

/-- Ending a PENDING intent, with at most its own event. -/
theorem PaymentIntentRow.Lifecycle.close {i : PaymentIntentRow} {history : List OutboxRow}
    (h : i.Lifecycle history) (hpending : i.status = .pending) {status : IntentStatus} (now : Nat)
    {row : OutboxRow} (hkind : Announced status row.eventType) :
    (i.close status now).Lifecycle (history ++ [row]) := by
  obtain ⟨hsucceeded, hfailed⟩ := h.open_counts hpending
  constructor
  · rw [PaymentIntentRow.close_id, eventCount_append, hsucceeded, eventCount_singleton]
    rcases hkind with ⟨rfl, htype⟩ | ⟨rfl, htype⟩
    · simp only [Nat.zero_add, PaymentIntentRow.close_status, if_true]
      split
      · exact Nat.le_refl 1
      · exact Nat.zero_le 1
    · simp [htype]
  · rw [PaymentIntentRow.close_id, eventCount_append, hfailed, eventCount_singleton]
    rcases hkind with ⟨rfl, htype⟩ | ⟨rfl, htype⟩
    · simp [htype]
    · simp only [Nat.zero_add, PaymentIntentRow.close_status, if_true]
      split
      · exact Nat.le_refl 1
      · exact Nat.zero_le 1

/-- The rows a statement selects end, and its one event is about the first of them. -/
theorem PaymentLifecycle.closeIntents {db : PaymentDb} (h : PaymentLifecycle db)
    (hkeys : KeyedBy PaymentIntentRow.id db.intents) {p : PaymentIntentRow → Bool}
    {status : IntentStatus} {eventType : String} (event : PaymentIntentRow → Event)
    (traceId : String) (now : Nat) (hpending : ∀ i, p i = true → i.status = .pending)
    (hkind : Announced status eventType) :
    PaymentLifecycle (closeIntents p status eventType event traceId now db).2 := by
  rcases closeIntents_cases p status eventType event traceId now db with
    ⟨-, heq⟩ | ⟨first, rest, hsel, heq⟩
  · rw [heq]
    exact h
  · rw [heq]
    have hfirst : first ∈ db.intents ∧ p first = true := by
      apply List.mem_filter.mp
      rw [hsel]
      exact List.mem_cons_self
    constructor
    · intro i hi
      rcases mem_update.mp hi with ⟨i₀, hi₀, hp, rfl⟩ | ⟨hi, hnot⟩
      · exact (h.intents i₀ hi₀).close (hpending i₀ hp) now hkind
      · apply (h.intents i hi).append
        intro hid
        rw [← hkeys.eq_of_mem hfirst.1 hi hid, hfirst.2] at hnot
        cases hnot
    · intro r hr
      have hintent : ∃ i ∈ db.intents, i.id = r.aggregateId := by
        rcases List.mem_append.mp hr with hr | hr
        · exact h.events r hr
        · rw [List.mem_singleton.mp hr]
          exact ⟨first, hfirst.1, rfl⟩
      obtain ⟨i, hi, hid⟩ := hintent
      by_cases hp : p i = true
      · exact ⟨i.close status now, mem_update_of_mem hi hp, hid⟩
      · exact ⟨i, mem_update.mpr (Or.inr ⟨hi, by simpa using hp⟩), hid⟩

theorem PaymentLifecycle.effect {s : PaymentService} {a : PaymentAction} {db : PaymentDb}
    (h : PaymentLifecycle s.db) (hkeys : KeyedBy PaymentIntentRow.id s.db.intents)
    (heffect : PaymentEffect s a db) : PaymentLifecycle db := by
  cases heffect with
  | nothing => exact h
  | created i d c price pspIntentId clientSecret hget hstage hfree =>
    have hnew := (intentViolation_eq_none_iff.mp hfree).1
    constructor
    · intro j hj
      rcases List.mem_append.mp hj with hj | hj
      · exact h.intents j hj
      · have hfresh : ∀ r ∈ s.db.outbox.history, r.aggregateId ≠ j.id := by
          rw [List.mem_singleton.mp hj]
          intro r hr heq
          obtain ⟨k, hk, hid⟩ := h.events r hr
          exact hnew k hk (hid.trans heq)
        constructor
        · rw [eventCount_eq_zero _ hfresh]
          exact Nat.zero_le _
        · rw [eventCount_eq_zero _ hfresh]
          exact Nat.zero_le _
    · intro r hr
      obtain ⟨j, hj, hid⟩ := h.events r hr
      exact ⟨j, List.mem_append_left _ hj, hid⟩
  | settled a status eventType event pspIntentId traceId d hdraw hkind =>
    apply h.closeIntents hkeys
    · intro i hi
      exact (isPendingPsp_iff.mp hi).2
    · rcases hkind with ⟨hstatus, htype, -⟩ | ⟨hstatus, htype, -⟩
      · exact Or.inl ⟨hstatus, htype⟩
      · exact Or.inr ⟨hstatus, htype⟩
  | cancelled seatId traceId d =>
    apply h.closeIntents hkeys
    · intro i hi
      exact (isPendingOnSeat_iff.mp hi).2
    · exact Or.inr ⟨rfl, rfl⟩
  | received => exact ⟨h.intents, h.events⟩
  | processed => exact ⟨h.intents, h.events⟩

/-! ### Every run -/

theorem PaymentService.Seeded.lifecycle_exec {s : PaymentService} (h : s.Seeded)
    (env : PaymentEnv) (as : List PaymentAction) :
    PaymentLifecycle (exec (paymentStep env) s as).db := by
  have hinv : (exec (paymentStep env) s as).WellFormed ∧
      PaymentLifecycle (exec (paymentStep env) s as).db := by
    apply exec_invariant' fun s : PaymentService => s.WellFormed ∧ PaymentLifecycle s.db
    · rintro s a ⟨hwf, hlife⟩
      exact ⟨hwf.step env a, hlife.effect hwf.intentKeys (paymentStep_effect env s a)⟩
    · refine ⟨h.wellFormed, ?_, ?_⟩
      · intro i hi
        simp [h.intents] at hi
      · intro r hr
        simp [h.outbox, Outbox.empty] at hr
  exact hinv.2

/-- An intent that is not PENDING is the same in every later state. -/
theorem closed_intent_exec (env : PaymentEnv) {s : PaymentService} {i : PaymentIntentRow}
    (hi : i ∈ s.db.intents) (hstatus : i.status ≠ .pending) (as : List PaymentAction) :
    i ∈ (exec (paymentStep env) s as).db.intents := by
  apply exec_invariant' fun s : PaymentService => i ∈ s.db.intents
  · intro s a hin
    exact (paymentStep_effect env s a).intentChange.frozen hin hstatus
  · exact hi

theorem PaymentService.WellFormed.pspIntentKeys {s : PaymentService} (h : s.WellFormed) :
    KeyedBy PaymentIntentRow.pspIntentId s.db.intents :=
  h.intentKeys.of_map.map_on fun _ hi _ hj heq => h.eq_of_pspIntentId hi hj heq

/-- A webhook moves at most one intent. -/
theorem PaymentService.WellFormed.pendingPsp_le_one {s : PaymentService} (h : s.WellFormed)
    (pspIntentId : String) : (s.db.intents.filter (isPendingPsp pspIntentId)).length ≤ 1 := by
  have hunique : UniqueOn (fun i => i.status == .pending) PaymentIntentRow.pspIntentId
      s.db.intents := fun i hi j hj _ _ heq => h.eq_of_pspIntentId hi hj heq
  rcases hunique.filter_cases h.intentKeys.of_map pspIntentId with hnone | ⟨i, -, -, -, hone⟩
  · exact (congrArg List.length hnone).le.trans (Nat.zero_le 1)
  · exact (congrArg List.length hone).le

/-- **The life of a payment intent.**  In every reachable state each intent has at most
    one terminal event, of the kind of its status; PSP ids are pairwise distinct, so a
    webhook moves one row at most; and once COMPLETED or FAILED a row never changes. -/
theorem payment_lifecycle {s : PaymentService} (hseed : s.Seeded) (env : PaymentEnv)
    (as : List PaymentAction) :
    (∀ i ∈ (exec (paymentStep env) s as).db.intents,
      i.Lifecycle (exec (paymentStep env) s as).db.outbox.history ∧
        eventCount (exec (paymentStep env) s as).db.outbox.history i.id "payment.succeeded.v1" +
          eventCount (exec (paymentStep env) s as).db.outbox.history i.id "payment.failed.v1" ≤
            1) ∧
      KeyedBy PaymentIntentRow.pspIntentId (exec (paymentStep env) s as).db.intents ∧
      (∀ pspIntentId, ((exec (paymentStep env) s as).db.intents.filter
        (isPendingPsp pspIntentId)).length ≤ 1) ∧
      ∀ i ∈ (exec (paymentStep env) s as).db.intents, i.status ≠ .pending →
        ∀ bs, i ∈ (exec (paymentStep env) s (as ++ bs)).db.intents := by
  have hwf := hseed.wellFormed_exec env as
  have hlife := hseed.lifecycle_exec env as
  refine ⟨?_, hwf.pspIntentKeys, hwf.pendingPsp_le_one, ?_⟩
  · intro i hi
    exact ⟨hlife.intents i hi, (hlife.intents i hi).terminal_le_one⟩
  · intro i hi hstatus bs
    rw [exec_append]
    exact closed_intent_exec env hi hstatus bs

/-- An intent whose success is delivered under two event ids, and whose seat is released
    afterwards. -/
def settledTwice : List PaymentAction :=
  checkoutRun 0 ⟨⟨1, 201, firstKey⟩, 101⟩ 901 ++ succeededRun "evt_1" firstKey 501 ++
    succeededRun "evt_2" firstKey 502 ++ [seatReleasedA1]

theorem settledTwice_lifecycle :
    let s := exec (paymentStep defaultPaymentEnv) seedPrices settledTwice
    s.db.intents.map (·.status) = [.completed] ∧
      (∀ i ∈ s.db.intents, eventCount s.db.outbox.history i.id "payment.succeeded.v1" +
        eventCount s.db.outbox.history i.id "payment.failed.v1" ≤ 1) ∧
      ∀ i ∈ s.db.intents, i.status ≠ .pending → ∀ bs,
        i ∈ (exec (paymentStep defaultPaymentEnv) seedPrices (settledTwice ++ bs)).db.intents :=
  ⟨by decide +kernel,
    fun i hi => ((payment_lifecycle seedPrices_seeded defaultPaymentEnv settledTwice).1 i hi).2,
    (payment_lifecycle seedPrices_seeded defaultPaymentEnv settledTwice).2.2.2⟩

end SeatReservation
