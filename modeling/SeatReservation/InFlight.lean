import SeatReservation.Handover
import SeatReservation.Redelivery
import SeatReservation.ReservationSafety

/-!
# In flight or done

The two databases agree in the end: the verdict on a payment ends the hold it is
about, and the release of a hold ends the payments for its seat.  In between the
event travels, as a row of an outbox, a message in a queue, or a dead letter.
This file follows one hold and the verdicts on it, and one intent and the
releases of its seat, through every interleaving of the system.  At any time an
event that was committed after its addressee existed is still on its way, a dead
letter, or has had its effect; so when the tables and queues are empty and
nothing was refused, every effect has taken place.
-/

namespace SeatReservation

open Relational TransitionSystem

/-- The broker confirms to the workers only what it has taken. -/
def HonestBroker (_ : System) : SystemAction → Prop
  | .seatWorker a => a.Honest
  | .paymentWorker a => a.Honest
  | _ => True

instance (a : WorkerAction) : Decidable a.Honest := by
  cases a <;> unfold WorkerAction.Honest <;> infer_instance

instance (s : System) (a : SystemAction) : Decidable (HonestBroker s a) := by
  cases a <;> unfold HonestBroker <;> infer_instance

/-- The row is in the table, or its message in the queue or among the dead letters. -/
def OutboxRow.OnItsWay (e : OutboxRow) (o : Outbox) (queue deadLetters : List OutboxRow) : Prop :=
  ∃ r ∈ o.rows ++ queue ++ deadLetters, r.content = e.content

instance (e : OutboxRow) (o : Outbox) (queue deadLetters : List OutboxRow) :
    Decidable (e.OnItsWay o queue deadLetters) :=
  decidable_of_iff ((o.rows ++ queue ++ deadLetters).any fun r => r.content == e.content)
    (by simp only [List.any_eq_true, beq_iff_eq, OutboxRow.OnItsWay])

/-! ### What becomes of a message -/

@[simp] theorem publishTo_seatQueue (exchangeOf : String → String) (row : OutboxRow) (s : System) :
    (publishTo exchangeOf (some row) s).seatQueue =
      s.seatQueue ++ routed seatPaymentEventsQueue (exchangeOf row.eventType) row := rfl

@[simp] theorem publishTo_paymentQueue (exchangeOf : String → String) (row : OutboxRow)
    (s : System) :
    (publishTo exchangeOf (some row) s).paymentQueue =
      s.paymentQueue ++ routed paymentSeatEventsQueue (exchangeOf row.eventType) row := rfl

theorem publishTo_queues_subset (exchangeOf : String → String) (published : Option OutboxRow)
    (s : System) :
    s.seatQueue ⊆ (publishTo exchangeOf published s).seatQueue ∧
      s.paymentQueue ⊆ (publishTo exchangeOf published s).paymentQueue := by
  cases published with
  | none => exact ⟨List.Subset.refl _, List.Subset.refl _⟩
  | some row => exact ⟨List.subset_append_left _ _, List.subset_append_left _ _⟩

/-- A message that is not taken off stays. -/
theorem mem_eraseIdx_or {queue : List OutboxRow} {m : OutboxRow} (hm : m ∈ queue) (i : Nat) :
    m ∈ queue.eraseIdx i ∨ queue[i]? = some m := by
  obtain ⟨j, hj⟩ := List.mem_iff_getElem?.mp hm
  by_cases hij : j = i
  · exact Or.inr (hij ▸ hj)
  · exact Or.inl (List.mem_eraseIdx_iff_getElem?.mpr ⟨j, hij, hj⟩)

/-- What a step can do to the messages of the two queues: keep, refuse or handle them. -/
structure Passes (s s' : System) : Prop where
  deadLetters : s.deadLetters ⊆ s'.deadLetters
  toSeat : ∀ m ∈ s.seatQueue, m ∈ s'.seatQueue ∨ m ∈ s'.deadLetters ∨
    ∃ d, s'.seat = onPaymentEvent m.payload d s.seat
  toPayment : ∀ m ∈ s.paymentQueue, m ∈ s'.paymentQueue ∨ m ∈ s'.deadLetters ∨
    ∃ d, s'.payment = onSeatEvent m.payload d s.payment

theorem Passes.of_subset {s s' : System} (hdead : s.deadLetters ⊆ s'.deadLetters)
    (hseat : s.seatQueue ⊆ s'.seatQueue) (hpayment : s.paymentQueue ⊆ s'.paymentQueue) :
    Passes s s' :=
  ⟨hdead, fun _ hm => Or.inl (hseat hm), fun _ hm => Or.inl (hpayment hm)⟩

theorem Passes.refl (s : System) : Passes s s :=
  .of_subset (List.Subset.refl _) (List.Subset.refl _) (List.Subset.refl _)

theorem Passes.published {s s₀ : System} (exchangeOf : String → String)
    (published : Option OutboxRow) (hdead : s₀.deadLetters = s.deadLetters)
    (hseat : s₀.seatQueue = s.seatQueue) (hpayment : s₀.paymentQueue = s.paymentQueue) :
    Passes s (publishTo exchangeOf published s₀) := by
  obtain ⟨hseat', hpayment'⟩ := publishTo_queues_subset exchangeOf published s₀
  rw [hseat] at hseat'
  rw [hpayment] at hpayment'
  refine .of_subset ?_ hseat' hpayment'
  rw [publishTo_deadLetters, hdead]
  exact List.Subset.refl _

theorem deliverToSeat_passes (env : SystemEnv) (i : Nat) (acked : Bool) (d : Draw) (s : System) :
    Passes s (deliverToSeat env i acked d s) := by
  unfold deliverToSeat
  cases hget : s.seatQueue[i]? with
  | none => exact .refl s
  | some m =>
    dsimp only
    split
    · refine ⟨List.Subset.refl _, fun m' hm' => ?_, fun _ hm' => Or.inl hm'⟩
      cases acked with
      | false => exact Or.inl hm'
      | true =>
        rcases mem_eraseIdx_or hm' i with hkept | htaken
        · exact Or.inl hkept
        · obtain rfl := Option.some.inj (hget.symm.trans htaken)
          exact Or.inr (Or.inr ⟨d, rfl⟩)
    · refine ⟨List.subset_append_left _ _, fun m' hm' => ?_, fun _ hm' => Or.inl hm'⟩
      rcases mem_eraseIdx_or hm' i with hkept | htaken
      · exact Or.inl hkept
      · obtain rfl := Option.some.inj (hget.symm.trans htaken)
        exact Or.inr (Or.inl (List.mem_append_right _ List.mem_cons_self))

theorem deliverToPayment_passes (env : SystemEnv) (i : Nat) (acked : Bool) (d : Draw)
    (s : System) : Passes s (deliverToPayment env i acked d s) := by
  unfold deliverToPayment
  cases hget : s.paymentQueue[i]? with
  | none => exact .refl s
  | some m =>
    dsimp only
    split
    · refine ⟨List.Subset.refl _, fun _ hm' => Or.inl hm', fun m' hm' => ?_⟩
      cases acked with
      | false => exact Or.inl hm'
      | true =>
        rcases mem_eraseIdx_or hm' i with hkept | htaken
        · exact Or.inl hkept
        · obtain rfl := Option.some.inj (hget.symm.trans htaken)
          exact Or.inr (Or.inr ⟨d, rfl⟩)
    · refine ⟨List.subset_append_left _ _, fun _ hm' => Or.inl hm', fun m' hm' => ?_⟩
      rcases mem_eraseIdx_or hm' i with hkept | htaken
      · exact Or.inl hkept
      · obtain rfl := Option.some.inj (hget.symm.trans htaken)
        exact Or.inr (Or.inl (List.mem_append_right _ List.mem_cons_self))

theorem systemStep_passes (env : SystemEnv) (s : System) (a : SystemAction) :
    Passes s (systemStep env s a) := by
  cases a with
  | hold => exact .of_subset (fun _ h => h) (fun _ h => h) fun _ h => h
  | release seatId userId header traceDraw =>
    obtain ⟨new, heq, -⟩ := release_frame seatId userId header traceDraw s
    rw [systemStep, heq]
    exact .of_subset (fun _ h => h) (fun _ h => h) fun _ h => h
  | releaseHold i d =>
    simp only [systemStep]
    split
    · exact .refl s
    · exact .of_subset (fun _ h => h) (fun _ h => h) fun _ h => h
  | releaseLost => exact .of_subset (fun _ h => h) (fun _ h => h) fun _ h => h
  | sweep => exact .of_subset (fun _ h => h) (fun _ h => h) fun _ h => h
  | payment => exact .of_subset (fun _ h => h) (fun _ h => h) fun _ h => h
  | seatWorker w => exact .published seatExchangeOf _ rfl rfl rfl
  | paymentWorker w => exact .published paymentExchangeOf _ rfl rfl rfl
  | deliverToSeat i acked d => exact deliverToSeat_passes env i acked d s
  | deliverToPayment i acked d => exact deliverToPayment_passes env i acked d s

/-! ### What becomes of a row -/

@[simp] theorem publishTo_seatClaims (exchangeOf : String → String) (published : Option OutboxRow)
    (s : System) : (publishTo exchangeOf published s).seatClaims = s.seatClaims := by
  cases published <;> rfl

@[simp] theorem publishTo_paymentClaims (exchangeOf : String → String)
    (published : Option OutboxRow) (s : System) :
    (publishTo exchangeOf published s).paymentClaims = s.paymentClaims := by
  cases published <;> rfl

/-- Whoever is not a worker of the service at most inserts rows into its outbox. -/
theorem systemStep_seatOutbox (env : SystemEnv) (s : System) {a : SystemAction}
    (hnot : ∀ w, a ≠ .seatWorker w) :
    (systemStep env s a).seatClaims = s.seatClaims ∧
      s.seat.outbox.Grows (systemStep env s a).seat.outbox := by
  constructor
  · by_cases hother : ∃ w, a = .paymentWorker w
    · obtain ⟨w, rfl⟩ := hother
      simp only [systemStep, paymentWorkerStep, publishTo_seatClaims]
    · exact (systemStep_carriers env hnot fun w heq => hother ⟨w, heq⟩).1
  · rcases systemStep_seat env s a with ⟨c, -, heq⟩ | ⟨-, heq⟩ | ⟨w, heq, -⟩
    · rw [heq]
      exact seatStep_grows env.seat s.seat c
    · rw [heq]
      exact .refl
    · exact absurd heq (hnot w)

theorem systemStep_paymentOutbox (env : SystemEnv) (s : System) {a : SystemAction}
    (hnot : ∀ w, a ≠ .paymentWorker w) :
    (systemStep env s a).paymentClaims = s.paymentClaims ∧
      s.payment.db.outbox.Grows (systemStep env s a).payment.db.outbox := by
  constructor
  · by_cases hother : ∃ w, a = .seatWorker w
    · obtain ⟨w, rfl⟩ := hother
      simp only [systemStep, seatWorkerStep, publishTo_paymentClaims]
    · exact (systemStep_carriers env (fun w heq => hother ⟨w, heq⟩) hnot).2.1
  · rcases systemStep_payment env s a with ⟨c, -, heq⟩ | ⟨-, heq⟩ | ⟨w, heq, -⟩
    · rw [heq]
      exact paymentStep_grows env.payment s.payment c
    · rw [heq]
      exact .refl
    · exact absurd heq (hnot w)

theorem paymentHistory_subset_exec (env : SystemEnv) (s : System) (as : List SystemAction) :
    s.payment.db.outbox.history ⊆ (exec (systemStep env) s as).payment.db.outbox.history := by
  apply exec_invariant' fun t : System =>
    s.payment.db.outbox.history ⊆ t.payment.db.outbox.history
  · intro t a hsub
    exact List.Subset.trans hsub (paymentHistory_subset env t a)
  · exact List.Subset.refl _

theorem System.WellFormed.seatHistory_subset_exec {s : System} (h : s.WellFormed)
    (env : SystemEnv) (as : List SystemAction) :
    s.seat.outbox.history ⊆ (exec (systemStep env) s as).seat.outbox.history := by
  have hinv : (exec (systemStep env) s as).WellFormed ∧
      s.seat.outbox.history ⊆ (exec (systemStep env) s as).seat.outbox.history := by
    apply exec_invariant' fun t : System =>
      t.WellFormed ∧ s.seat.outbox.history ⊆ t.seat.outbox.history
    · rintro t a ⟨hwf, hsub⟩
      exact ⟨hwf.step env a, List.Subset.trans hsub (hwf.seatHistory_subset env a)⟩
    · exact ⟨h, List.Subset.refl _⟩
  exact hinv.2

/-- The rows and the copies of both outboxes can be told by their ids. -/
structure System.Stocked (s : System) : Prop extends s.Reachable where
  seatRows : Kept (fun _ => True) s.seat.outbox s.seatClaims
  paymentRows : Kept (fun _ => True) s.payment.db.outbox s.paymentClaims

theorem System.Seeded.stocked {s : System} (h : s.Seeded) : s.Stocked where
  toReachable := h.reachable
  seatRows := by
    rw [h.seat.outbox, h.seatClaims]
    exact kept_empty
  paymentRows := by
    rw [h.payment.outbox, h.paymentClaims]
    exact kept_empty

theorem System.Stocked.step {env : SystemEnv} {s : System} {a : SystemAction} (h : s.Stocked)
    (hhonest : HonestBroker s a) : (systemStep env s a).Stocked := by
  refine ⟨h.toReachable.step env a, ?_, ?_⟩
  · by_cases hworker : ∃ w, a = .seatWorker w
    · obtain ⟨w, rfl⟩ := hworker
      simp only [systemStep, seatWorkerStep, publishTo_seatClaims, publishTo_seat]
      exact h.seatRows.workerStep hhonest fun _ _ _ _ => trivial
    · obtain ⟨hclaims, hgrows⟩ := systemStep_seatOutbox env s fun w heq => hworker ⟨w, heq⟩
      rw [hclaims]
      exact h.seatRows.grows hgrows
  · by_cases hworker : ∃ w, a = .paymentWorker w
    · obtain ⟨w, rfl⟩ := hworker
      simp only [systemStep, paymentWorkerStep, publishTo_paymentClaims, publishTo_payment]
      exact h.paymentRows.workerStep hhonest fun _ _ _ _ => trivial
    · obtain ⟨hclaims, hgrows⟩ := systemStep_paymentOutbox env s fun w heq => hworker ⟨w, heq⟩
      rw [hclaims]
      exact h.paymentRows.grows hgrows

theorem System.Seeded.stocked_exec {s : System} (h : s.Seeded) {env : SystemEnv}
    {as : List SystemAction} (hhonest : Along (systemStep env) HonestBroker s as) :
    (exec (systemStep env) s as).Stocked :=
  exec_invariant System.Stocked (fun _ _ h hok => h.step hok) h.stocked hhonest

/-! ### The verdicts on a payment -/

/-- A row about hold `k` that was not there before is a message or a dead letter, or the
    hold has nothing to expect from it any more. -/
def VerdictArrived (known : List OutboxRow) (k : Uuid) (s : System) (e : OutboxRow) : Prop :=
  e.payload.paidHold = some k →
    (∃ r ∈ known, r.content = e.content) ∨
      (∃ m ∈ s.seatQueue ++ s.deadLetters, m.content = e.content) ∨ Settled e.payload s.seat

structure VerdictsKept (known : List OutboxRow) (k : Uuid) (s : System) : Prop
    extends s.Reachable where
  hold : ∃ h ∈ s.seat.holds, h.id = k
  kept : Kept (VerdictArrived known k s) s.payment.db.outbox s.paymentClaims

/-- The hold is there under its id, so no other one comes to be HELD under it. -/
theorem NotHeld.step {s : System} {k : Uuid} (h : NotHeld k s.seat) (hwf : s.WellFormed)
    (hhold : ∃ h ∈ s.seat.holds, h.id = k) (env : SystemEnv) (a : SystemAction) :
    NotHeld k (systemStep env s a).seat := by
  obtain ⟨hold, hmem, hid⟩ := hhold
  have hnot := h hold hmem hid
  intro r hr hrid
  have hsame : r = hold := (hwf.step env a).seat.holdKeys.eq_of_mem hr
    (hwf.hold_frozen env a hmem hnot) (hrid.trans hid.symm)
  rw [hsame]
  exact hnot

theorem Settled.step {s : System} {event : Event} {k : Uuid} (h : Settled event s.seat)
    (habout : event.paidHold = some k) (hwf : s.WellFormed)
    (hhold : ∃ h ∈ s.seat.holds, h.id = k) (env : SystemEnv) (a : SystemAction) :
    Settled event (systemStep env s a).seat := by
  cases event with
  | paymentSucceeded e =>
    obtain rfl := Option.some.inj habout
    rcases h with hconsumed | hnot
    · left
      rcases hwf.seatEffect env a with ⟨c, -, heffect⟩ | ⟨-, hsame, -⟩
      · exact heffect.consumed_subset hconsumed
      · rw [hsame]
        exact hconsumed
    · exact Or.inr (hnot.step hwf hhold env a)
  | paymentFailed e =>
    obtain rfl := Option.some.inj habout
    exact NotHeld.step h hwf hhold env a
  | seatHeld e => cases habout
  | seatReleased e => cases habout
  | seatReserved e => cases habout

theorem System.WellFormed.hold_id_kept {s : System} (h : s.WellFormed) {k : Uuid}
    (hhold : ∃ h ∈ s.seat.holds, h.id = k) (env : SystemEnv) (a : SystemAction) :
    ∃ h ∈ (systemStep env s a).seat.holds, h.id = k := by
  obtain ⟨hold, hmem, hid⟩ := hhold
  rcases h.seatEffect env a with ⟨c, -, heffect⟩ | ⟨hsame, -⟩
  · obtain ⟨hold', hmem', hid', -⟩ := heffect.hold_kept hmem
    exact ⟨hold', hmem', hid'.trans hid⟩
  · rw [hsame]
    exact ⟨hold, hmem, hid⟩

/-- What has arrived stays so, however the step handles it. -/
theorem VerdictArrived.step {known : List OutboxRow} {k : Uuid} {s : System} {e : OutboxRow}
    (h : VerdictArrived known k s e) (hwf : s.WellFormed) (hhold : ∃ h ∈ s.seat.holds, h.id = k)
    (env : SystemEnv) (a : SystemAction) : VerdictArrived known k (systemStep env s a) e := by
  intro habout
  have hpasses := systemStep_passes env s a
  rcases h habout with hknown | ⟨m, hm, hcontent⟩ | hsettled
  · exact Or.inl hknown
  · right
    rcases List.mem_append.mp hm with hm | hm
    · rcases hpasses.toSeat m hm with hm | hm | ⟨d, hhandled⟩
      · exact Or.inl ⟨m, List.mem_append_left _ hm, hcontent⟩
      · exact Or.inl ⟨m, List.mem_append_right _ hm, hcontent⟩
      · right
        rw [hhandled, ← OutboxRow.payload_eq_of_content hcontent]
        exact settled_onPaymentEvent ..
    · exact Or.inl ⟨m, List.mem_append_right _ (hpasses.deadLetters hm), hcontent⟩
  · exact Or.inr (Or.inr (hsettled.step habout hwf hhold env a))

theorem VerdictsKept.step {known : List OutboxRow} {k : Uuid} {env : SystemEnv} {s : System}
    {a : SystemAction} (h : VerdictsKept known k s) (hhonest : HonestBroker s a) :
    VerdictsKept known k (systemStep env s a) := by
  have hwf := h.wellFormed
  refine ⟨h.toReachable.step env a, hwf.hold_id_kept h.hold env a, ?_⟩
  have hkept : Kept (VerdictArrived known k (systemStep env s a)) s.payment.db.outbox
      s.paymentClaims := h.kept.mono fun e he => he.step hwf h.hold env a
  by_cases hworker : ∃ w, a = .paymentWorker w
  · obtain ⟨w, rfl⟩ := hworker
    simp only [systemStep, paymentWorkerStep, publishTo_paymentClaims, publishTo_payment]
    apply hkept.workerStep hhonest
    intro row hpub e hcontent _
    -- The published row is put into the queue of the seat service.
    obtain ⟨r, hr, hletter⟩ :=
      h.carried.paymentSide row (List.mem_append_right _ (publishedRow_mem hpub))
    have htype := hwf.paymentHistory.eventType hr
    rw [OutboxRow.eventType_of_letter hletter] at htype
    refine Or.inr (Or.inl ⟨row, List.mem_append_left _ ?_, hcontent.symm⟩)
    simp only [systemStep, paymentWorkerStep, hpub, publishTo_seatQueue, (routed_payment htype).1]
    exact List.mem_append_right _ List.mem_cons_self
  · obtain ⟨hclaims, hgrows⟩ := systemStep_paymentOutbox env s fun w heq => hworker ⟨w, heq⟩
    rw [hclaims]
    exact hkept.grows hgrows

/-- To begin with, no verdict is expected: all there are have been there before. -/
theorem System.Stocked.verdictsKept {s : System} (h : s.Stocked) {k : Uuid}
    (hhold : ∃ h ∈ s.seat.holds, h.id = k) :
    VerdictsKept s.payment.db.outbox.history k s where
  toReachable := h.toReachable
  hold := hhold
  kept :=
    { h.paymentRows with
      published := by
        intro c hc _ e hcontent _
        obtain ⟨r, hr, hsays⟩ := h.paymentRows.copies c hc
        exact Or.inl ⟨r, hr, hsays.trans hcontent.symm⟩
      kept := fun e he => Or.inr fun _ => Or.inl ⟨e, he, rfl⟩ }

/-- No two payment events of the run have the same id. -/
theorem System.Seeded.distinctIds_exec {s : System} (h : s.Seeded) {env : SystemEnv}
    {as : List SystemAction} (hfresh : Along (systemStep env) (DrawsFresh env.formats) s as) :
    DistinctIds (exec (systemStep env) s as).payment.db := by
  apply exec_invariant (fun t : System => DistinctIds t.payment.db) _ _ hfresh
  · intro t a hdistinct hfresh
    exact hdistinct.step hfresh
  · intro r hr
    simp [h.payment.outbox, Outbox.empty] at hr

/-- A verdict that is settled has ended the hold. -/
theorem notHeld_of_settled {s : System} (h : s.Reachable) (hconsumed : ConsumedReserved s)
    (hdistinct : DistinctIds s.payment.db) {e : OutboxRow}
    (he : e ∈ s.payment.db.outbox.history) {k : Uuid} (habout : e.payload.paidHold = some k)
    (hsettled : Settled e.payload s.seat) : NotHeld k s.seat := by
  cases hpayload : e.payload with
  | paymentSucceeded ev =>
    rw [hpayload] at habout hsettled
    obtain rfl := Option.some.inj habout
    rcases hsettled with hid | hnot
    · -- The event that was consumed under this id is this one, so its hold is RESERVED.
      obtain ⟨r, hr, ev', hr', heventId, hold, hmem, hholdId, hreserved⟩ := hconsumed _ hid
      have hsame : r.payload = e.payload := by
        apply hdistinct r hr e he
        rw [hr', hpayload]
        exact heventId
      rw [hr', hpayload] at hsame
      cases hsame
      intro r' hr' hid' hheld
      rw [h.wellFormed.seat.holdKeys.eq_of_mem hr' hmem (hid'.trans hholdId.symm), hreserved]
        at hheld
      cases hheld
    · exact hnot
  | paymentFailed ev =>
    rw [hpayload] at habout hsettled
    obtain rfl := Option.some.inj habout
    exact hsettled
  | seatHeld ev => rw [hpayload] at habout; cases habout
  | seatReleased ev => rw [hpayload] at habout; cases habout
  | seatReserved ev => rw [hpayload] at habout; cases habout

/-- **The verdict on a payment is in flight or has ended the hold.**  Let a hold exist after
    `as`, and a payment for it succeed or fail, in either service and by whatever path, during
    `bs`.  Then, however everything interleaves, the row of the verdict is still in the table,
    its message in the queue or among the dead letters, or the hold is no longer HELD. -/
theorem verdict_in_flight_or_done {s : System} (hseed : s.Seeded) {env : SystemEnv}
    {as bs : List SystemAction}
    (hhonest : Along (systemStep env) HonestBroker s (as ++ bs))
    (hfresh : Along (systemStep env) (DrawsFresh env.formats) s (as ++ bs))
    {h : HoldRow} (hmem : h ∈ (exec (systemStep env) s as).seat.holds) {e : OutboxRow}
    (he : e ∈ (exec (systemStep env) s (as ++ bs)).payment.db.outbox.history)
    (hnew : e ∉ (exec (systemStep env) s as).payment.db.outbox.history)
    (habout : e.payload.paidHold = some h.id) :
    let t := exec (systemStep env) s (as ++ bs)
    e.OnItsWay t.payment.db.outbox t.seatQueue t.deadLetters ∨ NotHeld h.id t.seat := by
  intro t
  have hstocked : t.Stocked := hseed.stocked_exec hhonest
  obtain ⟨hbefore, hafter⟩ := (along_append ..).mp hhonest
  have hmid := (hseed.stocked_exec hbefore).verdictsKept ⟨h, hmem, rfl⟩
  have hend : VerdictsKept (exec (systemStep env) s as).payment.db.outbox.history h.id t := by
    show VerdictsKept _ _ (exec (systemStep env) s (as ++ bs))
    rw [exec_append]
    exact exec_invariant (VerdictsKept _ h.id) (fun _ _ h hok => h.step hok) hmid hafter
  rcases hend.kept.kept e he with ⟨r, hr, hcontent⟩ | harrived
  · exact Or.inl ⟨r, by simp [hr], hcontent⟩
  · rcases harrived habout with ⟨r, hr, hcontent⟩ | ⟨m, hm, hcontent⟩ | hsettled
    · -- The row would have been there before: rows are told by their ids.
      have hr' : r ∈ t.payment.db.outbox.history := by
        have hsub := paymentHistory_subset_exec env (exec (systemStep env) s as) bs
        rw [← exec_append] at hsub
        exact hsub hr
      rw [hstocked.paymentRows.ids.eq_of_mem hr' he (OutboxRow.id_eq_of_content hcontent)] at hr
      exact absurd hr hnew
    · refine Or.inl ⟨m, ?_, hcontent⟩
      rw [List.append_assoc]
      exact List.mem_append_right _ hm
    · exact Or.inr (notHeld_of_settled hstocked.toReachable (hseed.consumedReserved_exec env _)
        (hseed.distinctIds_exec hfresh) he habout hsettled)

/-- Hold 201 is checked out. -/
def checkedOut : List SystemAction :=
  holdSeat seatA1 :: localRun (checkoutRun 0 ⟨⟨1, 201, firstKey⟩, 101⟩ 901)

/-- The payment succeeds, its event is published and delivered. -/
def paidAndDelivered : List SystemAction :=
  localRun (succeededRun "evt_1" firstKey 501) ++ publishPayment 4000 ++ [deliverPayment]

def paidRow : OutboxRow :=
  ⟨1, 901, "payment.succeeded.v1", .paymentSucceeded paidEvent,
    [("traceId", Uuid.toString 801), ("userId", Uuid.toString 101)], .pending, 0, 3000⟩

instance (fmt : Formats) (s : System) (a : SystemAction) : Decidable (DrawsFresh fmt s a) :=
  inferInstanceAs (Decidable (∀ c ∈ paymentCall fmt s a, ∀ d ∈ c.eventDraw,
    ∀ r ∈ s.payment.db.outbox.history, r.payload.eventId ≠ d.eventId))

theorem verdict_in_flight_or_done_paid :
    let t := exec (systemStep defaultSystemEnv) seedSystem (checkedOut ++ paidAndDelivered)
    ¬ paidRow.OnItsWay t.payment.db.outbox t.seatQueue t.deadLetters ∧
      (paidRow.OnItsWay t.payment.db.outbox t.seatQueue t.deadLetters ∨ NotHeld 201 t.seat) :=
  ⟨by decide +kernel,
    verdict_in_flight_or_done (h := ⟨201, 1, 101, .held, 121000, none, none⟩) (e := paidRow)
      seedSystem_seeded (by decide +kernel) (by decide +kernel) (by decide +kernel)
      (by decide +kernel) (by decide +kernel) rfl⟩

/-! ### The releases of a seat -/

/-- The intent has ended. -/
def Closed (intentId : Uuid) (s : System) : Prop :=
  ∃ j ∈ s.payment.db.intents, j.id = intentId ∧ j.status ≠ .pending

/-- A release of the seat of the intent that was not there before is a message or a dead
    letter, or the intent has ended. -/
def ReleaseArrived (known : List OutboxRow) (i : PaymentIntentRow) (s : System) (e : OutboxRow) :
    Prop :=
  ∀ ev, e.payload = .seatReleased ev → ev.seatId = i.seatId →
    (∃ r ∈ known, r.content = e.content) ∨
      (∃ m ∈ s.paymentQueue ++ s.deadLetters, m.content = e.content) ∨ Closed i.id s

structure ReleasesKept (known : List OutboxRow) (i : PaymentIntentRow) (s : System) : Prop
    extends s.Reachable where
  intent : i ∈ s.payment.db.intents ∨ Closed i.id s
  kept : Kept (ReleaseArrived known i s) s.seat.outbox s.seatClaims

theorem Closed.step {s : System} {intentId : Uuid} (h : Closed intentId s) (env : SystemEnv)
    (a : SystemAction) : Closed intentId (systemStep env s a) := by
  obtain ⟨j, hj, hid, hstatus⟩ := h
  exact ⟨j, intent_frozen env a hj hstatus, hid, hstatus⟩

/-- An intent stays as it is until it ends. -/
theorem intent_kept_or_closed (env : SystemEnv) {s : System} (a : SystemAction)
    {i : PaymentIntentRow} (h : i ∈ s.payment.db.intents ∨ Closed i.id s) :
    i ∈ (systemStep env s a).payment.db.intents ∨ Closed i.id (systemStep env s a) := by
  rcases h with hi | hclosed
  · rcases systemStep_paymentEffect env s a with ⟨c, -, heffect⟩ | ⟨heq, -⟩
    · have hchange := heffect.intentChange
      unfold Closed
      generalize (systemStep env s a).payment.db.intents = intents at hchange ⊢
      cases hchange with
      | closed p status now hpending hstatus =>
        by_cases hp : p i = true
        · exact Or.inr ⟨i.close status now, mem_update_of_mem hi hp, rfl, hstatus⟩
        · exact Or.inl (mem_update.mpr (Or.inr ⟨hi, Bool.eq_false_iff.mpr hp⟩))
      | created => exact Or.inl (List.mem_append_left _ hi)
    · rw [heq]
      exact Or.inl hi
  · exact Or.inr (hclosed.step env a)

/-- Handling a release ends the intents of the seat. -/
theorem closed_onSeatEvent {s s' : System} {i : PaymentIntentRow} {ev : SeatReleasedV1} {d : Draw}
    (hi : i ∈ s.payment.db.intents) (hseat : ev.seatId = i.seatId)
    (hhandled : s'.payment = onSeatEvent (.seatReleased ev) d s.payment) : Closed i.id s' := by
  unfold Closed
  rw [hhandled]
  simp only [onSeatEvent, markFailedBySeatId, closeIntents_intents]
  by_cases hpending : isPendingOnSeat ev.seatId i = true
  · exact ⟨i.close .failed d.now, mem_update_of_mem hi hpending, rfl, by simp⟩
  · refine ⟨i, mem_update.mpr (Or.inr ⟨hi, Bool.eq_false_iff.mpr hpending⟩), rfl, ?_⟩
    intro hstatus
    exact hpending (isPendingOnSeat_iff.mpr ⟨hseat.symm, hstatus⟩)

theorem ReleaseArrived.step {known : List OutboxRow} {i : PaymentIntentRow} {s : System}
    {e : OutboxRow} (h : ReleaseArrived known i s e)
    (hintent : i ∈ s.payment.db.intents ∨ Closed i.id s) (env : SystemEnv) (a : SystemAction) :
    ReleaseArrived known i (systemStep env s a) e := by
  intro ev hpayload hseat
  have hpasses := systemStep_passes env s a
  rcases h ev hpayload hseat with hknown | ⟨m, hm, hcontent⟩ | hclosed
  · exact Or.inl hknown
  · right
    rcases List.mem_append.mp hm with hm | hm
    · rcases hpasses.toPayment m hm with hm | hm | ⟨d, hhandled⟩
      · exact Or.inl ⟨m, List.mem_append_left _ hm, hcontent⟩
      · exact Or.inl ⟨m, List.mem_append_right _ hm, hcontent⟩
      · right
        rw [OutboxRow.payload_eq_of_content hcontent, hpayload] at hhandled
        rcases hintent with hi | hclosed
        · exact closed_onSeatEvent hi hseat hhandled
        · exact hclosed.step env a
    · exact Or.inl ⟨m, List.mem_append_right _ (hpasses.deadLetters hm), hcontent⟩
  · exact Or.inr (Or.inr (hclosed.step env a))

/-- A published release is put into the queue of the payment service. -/
theorem released_routed {row : OutboxRow} (h : row.eventType = "seat.released.v1") :
    routed paymentSeatEventsQueue (seatExchangeOf row.eventType) row = [row] := by
  rw [routed, h, if_pos (by decide)]

theorem ReleasesKept.step {known : List OutboxRow} {i : PaymentIntentRow} {env : SystemEnv}
    {s : System} {a : SystemAction} (h : ReleasesKept known i s) (hhonest : HonestBroker s a) :
    ReleasesKept known i (systemStep env s a) := by
  refine ⟨h.toReachable.step env a, intent_kept_or_closed env a h.intent, ?_⟩
  have hkept : Kept (ReleaseArrived known i (systemStep env s a)) s.seat.outbox s.seatClaims :=
    h.kept.mono fun e he => he.step h.intent env a
  by_cases hworker : ∃ w, a = .seatWorker w
  · obtain ⟨w, rfl⟩ := hworker
    simp only [systemStep, seatWorkerStep, publishTo_seatClaims, publishTo_seat]
    apply hkept.workerStep hhonest
    intro row hpub e hcontent ev hpayload _
    obtain ⟨r, hr, hletter⟩ :=
      h.carried.seatSide row (List.mem_append_right _ (publishedRow_mem hpub))
    have htype : row.eventType = "seat.released.v1" := by
      rw [← OutboxRow.eventType_of_letter hletter, (h.wellFormed.seatHistory r hr).1,
        OutboxRow.payload_of_letter hletter, ← OutboxRow.payload_eq_of_content hcontent, hpayload]
      rfl
    refine Or.inr (Or.inl ⟨row, List.mem_append_left _ ?_, hcontent.symm⟩)
    simp only [systemStep, seatWorkerStep, hpub, publishTo_paymentQueue, released_routed htype]
    exact List.mem_append_right _ List.mem_cons_self
  · obtain ⟨hclaims, hgrows⟩ := systemStep_seatOutbox env s fun w heq => hworker ⟨w, heq⟩
    rw [hclaims]
    exact hkept.grows hgrows

theorem System.Stocked.releasesKept {s : System} (h : s.Stocked) {i : PaymentIntentRow}
    (hi : i ∈ s.payment.db.intents) : ReleasesKept s.seat.outbox.history i s where
  toReachable := h.toReachable
  intent := Or.inl hi
  kept :=
    { h.seatRows with
      published := by
        intro c hc _ e hcontent _ _ _
        obtain ⟨r, hr, hsays⟩ := h.seatRows.copies c hc
        exact Or.inl ⟨r, hr, hsays.trans hcontent.symm⟩
      kept := fun e he => Or.inr fun _ _ _ => Or.inl ⟨e, he, rfl⟩ }

/-- **The release of a hold is in flight or has ended the payments for its seat.**  Let an
    intent exist after `as`, and a hold of its seat be released during `bs`, by its user, by a
    failed payment or by the sweeper.  Then, however everything interleaves, the row of the
    release is still in the table, its message in the queue or among the dead letters, or the
    intent is no longer PENDING. -/
theorem release_in_flight_or_done {s : System} (hseed : s.Seeded) {env : SystemEnv}
    {as bs : List SystemAction}
    (hhonest : Along (systemStep env) HonestBroker s (as ++ bs)) {i : PaymentIntentRow}
    (hi : i ∈ (exec (systemStep env) s as).payment.db.intents) {e : OutboxRow}
    (he : e ∈ (exec (systemStep env) s (as ++ bs)).seat.outbox.history)
    (hnew : e ∉ (exec (systemStep env) s as).seat.outbox.history) {ev : SeatReleasedV1}
    (hpayload : e.payload = .seatReleased ev) (hseat : ev.seatId = i.seatId) :
    let t := exec (systemStep env) s (as ++ bs)
    e.OnItsWay t.seat.outbox t.paymentQueue t.deadLetters ∨
      ∃ j ∈ t.payment.db.intents, j.id = i.id ∧ j.status ≠ .pending := by
  intro t
  have hstocked : t.Stocked := hseed.stocked_exec hhonest
  obtain ⟨hbefore, hafter⟩ := (along_append ..).mp hhonest
  have hmid := hseed.stocked_exec hbefore
  have hend : ReleasesKept (exec (systemStep env) s as).seat.outbox.history i t := by
    show ReleasesKept _ _ (exec (systemStep env) s (as ++ bs))
    rw [exec_append]
    exact exec_invariant (ReleasesKept _ i) (fun _ _ h hok => h.step hok) (hmid.releasesKept hi)
      hafter
  rcases hend.kept.kept e he with ⟨r, hr, hcontent⟩ | harrived
  · exact Or.inl ⟨r, by simp [hr], hcontent⟩
  · rcases harrived ev hpayload hseat with ⟨r, hr, hcontent⟩ | ⟨m, hm, hcontent⟩ | hclosed
    · have hr' : r ∈ t.seat.outbox.history := by
        have hsub := hmid.wellFormed.seatHistory_subset_exec env bs
        rw [← exec_append] at hsub
        exact hsub hr
      rw [hstocked.seatRows.ids.eq_of_mem hr' he (OutboxRow.id_eq_of_content hcontent)] at hr
      exact absurd hr hnew
    · refine Or.inl ⟨m, ?_, hcontent⟩
      rw [List.append_assoc]
      exact List.mem_append_right _ hm
    · exact Or.inr hclosed

/-- Hold 201 expires and is swept, and its release is published and delivered. -/
def sweptAndDelivered : List SystemAction :=
  [sweepHold, .seatWorker (.claim 200000 []), .seatWorker (.publish 1 true true),
   .seatWorker (.settle 1 200000), .deliverToPayment 0 true ⟨601, 201000, 201000⟩]

def sweptEvent : SeatReleasedV1 := ⟨701, 1, "sweeper", Uuid.toString 602, 200000⟩

def sweptRow : OutboxRow :=
  ⟨2, 201, "seat.released.v1", .seatReleased sweptEvent,
    [("traceId", Uuid.toString 602), ("reason", "sweeper")], .pending, 0, 200000⟩

/-- The intent of the checkout. -/
def checkedOutIntent : PaymentIntentRow :=
  ⟨901, 1, 101, 201, 1900, "USD", pspIntentIdOf firstKey.text, .pending, firstKey.uuid,
    clientSecretOf (pspIntentIdOf firstKey.text) "", none⟩

theorem release_in_flight_or_done_swept :
    let t := exec (systemStep defaultSystemEnv) seedSystem (checkedOut ++ sweptAndDelivered)
    ¬ sweptRow.OnItsWay t.seat.outbox t.paymentQueue t.deadLetters ∧
      (sweptRow.OnItsWay t.seat.outbox t.paymentQueue t.deadLetters ∨
        ∃ j ∈ t.payment.db.intents, j.id = checkedOutIntent.id ∧ j.status ≠ .pending) :=
  ⟨by decide +kernel,
    release_in_flight_or_done (i := checkedOutIntent) seedSystem_seeded (by decide +kernel)
      (by decide +kernel) (by decide +kernel) (by decide +kernel)
      (rfl : sweptRow.payload = .seatReleased sweptEvent) rfl⟩

end SeatReservation
