import SeatReservation.System

/-!
# Invariants of the combined system

A step of the system runs at most one transaction of each service (`seatCall`,
`paymentCall`) or moves messages around, so the invariants of the services carry
over.  What connects the services is the carrier invariant: every row in a table,
in the memory of a worker or in a queue says what a row of a history says, and
the histories only grow.
-/

namespace SeatReservation

open Relational TransitionSystem

/-! ### The services inside the system -/

/-- The transaction of the seat service an action runs. -/
def seatCall (fmt : Formats) (s : System) : SystemAction → Option SeatAction
  | .hold seatId userId header traceDraw d =>
      some (.insertHoldTx seatId userId (resolveTraceId header traceDraw) d)
  | .releaseHold i d =>
      s.cancels[i]?.map fun c => .releaseHold c.holdId "user_cancelled" c.traceId d
  | .sweep scan traceId now draw => some (.tick scan traceId now draw)
  | .deliverToSeat i _ d =>
      match s.seatQueue[i]? with
      | some m =>
          if parsesAnyEvent fmt m.payload then
            match m.payload with
            | .paymentSucceeded e =>
                some (.reserveHold e.holdId e.eventId "seat-service" e.traceId d)
            | .paymentFailed e => some (.releaseHold e.holdId "payment_failed" e.traceId d)
            | _ => none
          else none
      | none => none
  | _ => none

/-- The action of the payment service an action of the system is. -/
def paymentCall (fmt : Formats) (s : System) : SystemAction → Option PaymentAction
  | .payment a _ => some a
  | .deliverToPayment i _ d =>
      match s.paymentQueue[i]? with
      | some m =>
          if parsesSeatReleased fmt m.payload then
            match m.payload with
            | .seatReleased e => some (.seatReleased e.seatId e.traceId d)
            | _ => none
          else none
      | none => none
  | _ => none

/-! ### What each kind of step leaves alone -/

/-- A request to release at most records the call it will make. -/
theorem release_frame (seatId : String) (userId : Uuid) (header : Option String)
    (traceDraw : Uuid) (s : System) :
    ∃ new, release seatId userId header traceDraw s = { s with cancels := s.cancels ++ new } ∧
      ∀ c ∈ new, c.traceId = resolveTraceId header traceDraw := by
  have hnone : s = { s with cancels := s.cancels ++ [] } := by rw [List.append_nil]
  unfold release
  split
  · exact ⟨[], hnone, by simp⟩
  · split
    · exact ⟨[], hnone, by simp⟩
    · split
      · exact ⟨[], hnone, by simp⟩
      · exact ⟨_, rfl, by simp⟩

@[simp] theorem publishTo_seat (exchangeOf : String → String) (published : Option OutboxRow)
    (s : System) : (publishTo exchangeOf published s).seat = s.seat := by
  cases published <;> rfl

@[simp] theorem publishTo_payment (exchangeOf : String → String) (published : Option OutboxRow)
    (s : System) : (publishTo exchangeOf published s).payment = s.payment := by
  cases published <;> rfl

@[simp] theorem publishTo_cancels (exchangeOf : String → String) (published : Option OutboxRow)
    (s : System) : (publishTo exchangeOf published s).cancels = s.cancels := by
  cases published <;> rfl

@[simp] theorem publishTo_deadLetters (exchangeOf : String → String)
    (published : Option OutboxRow) (s : System) :
    (publishTo exchangeOf published s).deadLetters = s.deadLetters := by
  cases published <;> rfl

theorem afterDelivery_subset (queue : List OutboxRow) (i : Nat) (acked : Bool) :
    afterDelivery queue i acked ⊆ queue := by
  unfold afterDelivery
  split
  · exact List.eraseIdx_subset
  · exact List.Subset.refl _

theorem deliverToSeat_frame (env : SystemEnv) (i : Nat) (acked : Bool) (d : Draw) (s : System) :
    ∃ seat seatQueue deadLetters, deliverToSeat env i acked d s =
      { s with seat := seat, seatQueue := seatQueue, deadLetters := deadLetters } ∧
        seatQueue ⊆ s.seatQueue := by
  unfold deliverToSeat
  split
  · exact ⟨s.seat, s.seatQueue, s.deadLetters, rfl, List.Subset.refl _⟩
  · split
    · exact ⟨_, _, s.deadLetters, rfl, afterDelivery_subset ..⟩
    · exact ⟨s.seat, _, _, rfl, List.eraseIdx_subset⟩

theorem deliverToPayment_frame (env : SystemEnv) (i : Nat) (acked : Bool) (d : Draw)
    (s : System) :
    ∃ payment paymentQueue deadLetters, deliverToPayment env i acked d s =
      { s with payment := payment, paymentQueue := paymentQueue, deadLetters := deadLetters } ∧
        paymentQueue ⊆ s.paymentQueue := by
  unfold deliverToPayment
  split
  · exact ⟨s.payment, s.paymentQueue, s.deadLetters, rfl, List.Subset.refl _⟩
  · split
    · exact ⟨_, _, s.deadLetters, rfl, afterDelivery_subset ..⟩
    · exact ⟨s.payment, _, _, rfl, List.eraseIdx_subset⟩

/-! ### The transaction of a step -/

/-- The seat database after a step: one transaction, nothing, or a worker's step on
    the outbox table. -/
theorem systemStep_seat (env : SystemEnv) (s : System) (a : SystemAction) :
    (∃ c, seatCall env.formats s a = some c ∧
      (systemStep env s a).seat = seatStep env.seat s.seat c) ∨
    (seatCall env.formats s a = none ∧ (systemStep env s a).seat = s.seat) ∨
    ∃ w, a = .seatWorker w ∧ (systemStep env s a).seat =
      { s.seat with outbox := (workerStep s.seat.outbox s.seatClaims w).1 } := by
  cases a with
  | hold seatId userId header traceDraw d => exact Or.inl ⟨_, rfl, rfl⟩
  | release seatId userId header traceDraw =>
    refine Or.inr (Or.inl ⟨rfl, ?_⟩)
    obtain ⟨new, heq, -⟩ := release_frame seatId userId header traceDraw s
    simp only [systemStep, heq]
  | releaseHold i d =>
    simp only [systemStep, seatCall]
    cases s.cancels[i]? with
    | none => exact Or.inr (Or.inl ⟨rfl, rfl⟩)
    | some c => exact Or.inl ⟨_, rfl, rfl⟩
  | releaseLost i => exact Or.inr (Or.inl ⟨rfl, rfl⟩)
  | sweep scan traceId now draw => exact Or.inl ⟨_, rfl, rfl⟩
  | payment a hlocal => exact Or.inr (Or.inl ⟨rfl, rfl⟩)
  | seatWorker w =>
    refine Or.inr (Or.inr ⟨w, rfl, ?_⟩)
    simp only [systemStep, seatWorkerStep, publishTo_seat]
  | paymentWorker w =>
    refine Or.inr (Or.inl ⟨rfl, ?_⟩)
    simp only [systemStep, paymentWorkerStep, publishTo_seat]
  | deliverToSeat i acked d =>
    simp only [systemStep, deliverToSeat, seatCall]
    cases s.seatQueue[i]? with
    | none => exact Or.inr (Or.inl ⟨rfl, rfl⟩)
    | some m =>
      dsimp only
      by_cases hparses : parsesAnyEvent env.formats m.payload = true
      · simp only [hparses, if_true]
        cases m.payload with
        | paymentSucceeded e => exact Or.inl ⟨_, rfl, rfl⟩
        | paymentFailed e => exact Or.inl ⟨_, rfl, rfl⟩
        | seatHeld e => exact Or.inr (Or.inl ⟨rfl, rfl⟩)
        | seatReleased e => exact Or.inr (Or.inl ⟨rfl, rfl⟩)
        | seatReserved e => exact Or.inr (Or.inl ⟨rfl, rfl⟩)
      · rw [if_neg hparses, if_neg hparses]
        exact Or.inr (Or.inl ⟨rfl, rfl⟩)
  | deliverToPayment i acked d =>
    refine Or.inr (Or.inl ⟨rfl, ?_⟩)
    obtain ⟨payment, paymentQueue, deadLetters, heq, -⟩ := deliverToPayment_frame env i acked d s
    simp only [systemStep, heq]

/-- The payment service after a step. -/
theorem systemStep_payment (env : SystemEnv) (s : System) (a : SystemAction) :
    (∃ c, paymentCall env.formats s a = some c ∧
      (systemStep env s a).payment = paymentStep env.payment s.payment c) ∨
    (paymentCall env.formats s a = none ∧ (systemStep env s a).payment = s.payment) ∨
    ∃ w, a = .paymentWorker w ∧ (systemStep env s a).payment =
      { s.payment with db := { s.payment.db with
          outbox := (workerStep s.payment.db.outbox s.paymentClaims w).1 } } := by
  cases a with
  | hold seatId userId header traceDraw d => exact Or.inr (Or.inl ⟨rfl, rfl⟩)
  | release seatId userId header traceDraw =>
    refine Or.inr (Or.inl ⟨rfl, ?_⟩)
    obtain ⟨new, heq, -⟩ := release_frame seatId userId header traceDraw s
    simp only [systemStep, heq]
  | releaseHold i d =>
    refine Or.inr (Or.inl ⟨rfl, ?_⟩)
    simp only [systemStep]
    split
    · rfl
    · rfl
  | releaseLost i => exact Or.inr (Or.inl ⟨rfl, rfl⟩)
  | sweep scan traceId now draw => exact Or.inr (Or.inl ⟨rfl, rfl⟩)
  | payment a hlocal => exact Or.inl ⟨_, rfl, rfl⟩
  | seatWorker w =>
    refine Or.inr (Or.inl ⟨rfl, ?_⟩)
    simp only [systemStep, seatWorkerStep, publishTo_payment]
  | paymentWorker w =>
    refine Or.inr (Or.inr ⟨w, rfl, ?_⟩)
    simp only [systemStep, paymentWorkerStep, publishTo_payment]
  | deliverToSeat i acked d =>
    refine Or.inr (Or.inl ⟨rfl, ?_⟩)
    obtain ⟨seat, seatQueue, deadLetters, heq, -⟩ := deliverToSeat_frame env i acked d s
    simp only [systemStep, heq]
  | deliverToPayment i acked d =>
    simp only [systemStep, deliverToPayment, paymentCall]
    cases s.paymentQueue[i]? with
    | none => exact Or.inr (Or.inl ⟨rfl, rfl⟩)
    | some m =>
      dsimp only
      by_cases hparses : parsesSeatReleased env.formats m.payload = true
      · simp only [hparses, if_true]
        cases m.payload with
        | seatReleased e => exact Or.inl ⟨_, rfl, rfl⟩
        | paymentSucceeded e => exact Or.inr (Or.inl ⟨rfl, rfl⟩)
        | paymentFailed e => exact Or.inr (Or.inl ⟨rfl, rfl⟩)
        | seatHeld e => exact Or.inr (Or.inl ⟨rfl, rfl⟩)
        | seatReserved e => exact Or.inr (Or.inl ⟨rfl, rfl⟩)
      · rw [if_neg hparses, if_neg hparses]
        exact Or.inr (Or.inl ⟨rfl, rfl⟩)

/-- Only a worker claims or publishes; everything else at most takes a message. -/
theorem systemStep_carriers (env : SystemEnv) {s : System} {a : SystemAction}
    (hseat : ∀ w, a ≠ .seatWorker w) (hpayment : ∀ w, a ≠ .paymentWorker w) :
    (systemStep env s a).seatClaims = s.seatClaims ∧
      (systemStep env s a).paymentClaims = s.paymentClaims ∧
      (systemStep env s a).seatQueue ⊆ s.seatQueue ∧
      (systemStep env s a).paymentQueue ⊆ s.paymentQueue := by
  have hsame : s.seatClaims = s.seatClaims ∧ s.paymentClaims = s.paymentClaims ∧
      s.seatQueue ⊆ s.seatQueue ∧ s.paymentQueue ⊆ s.paymentQueue :=
    ⟨rfl, rfl, List.Subset.refl _, List.Subset.refl _⟩
  cases a with
  | hold seatId userId header traceDraw d => exact hsame
  | release seatId userId header traceDraw =>
    obtain ⟨new, heq, -⟩ := release_frame seatId userId header traceDraw s
    rw [systemStep, heq]
    exact hsame
  | releaseHold i d =>
    simp only [systemStep]
    split
    · exact hsame
    · exact hsame
  | releaseLost i => exact hsame
  | sweep scan traceId now draw => exact hsame
  | payment a hlocal => exact hsame
  | seatWorker w => exact absurd rfl (hseat w)
  | paymentWorker w => exact absurd rfl (hpayment w)
  | deliverToSeat i acked d =>
    obtain ⟨seat, seatQueue, deadLetters, heq, hsub⟩ := deliverToSeat_frame env i acked d s
    rw [systemStep, heq]
    exact ⟨rfl, rfl, hsub, List.Subset.refl _⟩
  | deliverToPayment i acked d =>
    obtain ⟨payment, paymentQueue, deadLetters, heq, hsub⟩ :=
      deliverToPayment_frame env i acked d s
    rw [systemStep, heq]
    exact ⟨rfl, rfl, List.Subset.refl _, hsub⟩

/-! ### Histories -/

structure System.WellFormed (s : System) : Prop where
  seat : s.seat.WellFormed
  payment : s.payment.WellFormed
  seatHistory : SeatHistory s.seat.outbox.history
  paymentHistory : PaymentHistory s.payment.db.outbox.history s.payment.db.intents

theorem System.Seeded.wellFormed {s : System} (h : s.Seeded) : s.WellFormed where
  seat := h.seat.wellFormed
  payment := h.payment.wellFormed
  seatHistory := by intro r hr; simp [h.seat.outbox, Outbox.empty] at hr
  paymentHistory := by intro r hr; simp [h.payment.outbox, Outbox.empty] at hr

theorem System.WellFormed.step {s : System} (h : s.WellFormed) (env : SystemEnv)
    (a : SystemAction) : (systemStep env s a).WellFormed := by
  refine ⟨?_, ?_, ?_, ?_⟩
  · rcases systemStep_seat env s a with ⟨c, -, heq⟩ | ⟨-, heq⟩ | ⟨w, -, heq⟩
    · rw [heq]
      exact h.seat.step env.seat c
    · rw [heq]
      exact h.seat
    · rw [heq]
      exact ⟨h.seat.seatKeys, h.seat.holdKeys, h.seat.activePerSeat, h.seat.activePerUser,
        h.seat.seatRef⟩
  · rcases systemStep_payment env s a with ⟨c, -, heq⟩ | ⟨-, heq⟩ | ⟨w, -, heq⟩
    · rw [heq]
      exact h.payment.step env.payment c
    · rw [heq]
      exact h.payment
    · rw [heq]
      exact ⟨h.payment.intentKeys, h.payment.idempotencyKeys, h.payment.inboxKeys,
        h.payment.pspIds, h.payment.called⟩
  · rcases systemStep_seat env s a with ⟨c, -, heq⟩ | ⟨-, heq⟩ | ⟨w, -, heq⟩
    · rw [heq]
      obtain ⟨new, happ, hnew⟩ := (seatStep_effect h.seat.holdKeys env.seat c).appends
      rw [happ.2]
      intro r hr
      rcases List.mem_append.mp hr with hr | hr
      · exact h.seatHistory r hr
      · exact hnew r hr
    · rw [heq]
      exact h.seatHistory
    · rw [heq, workerStep_history]
      exact h.seatHistory
  · rcases systemStep_payment env s a with ⟨c, -, heq⟩ | ⟨-, heq⟩ | ⟨w, -, heq⟩
    · rw [heq]
      exact h.paymentHistory.step c
    · rw [heq]
      exact h.paymentHistory
    · rw [heq, workerStep_history]
      exact h.paymentHistory

theorem System.WellFormed.seatHistory_subset {s : System} (h : s.WellFormed) (env : SystemEnv)
    (a : SystemAction) : s.seat.outbox.history ⊆ (systemStep env s a).seat.outbox.history := by
  rcases systemStep_seat env s a with ⟨c, -, heq⟩ | ⟨-, heq⟩ | ⟨w, -, heq⟩
  · obtain ⟨new, happ, -⟩ := (seatStep_effect h.seat.holdKeys env.seat c).appends
    rw [heq, happ.2]
    exact List.subset_append_left _ _
  · rw [heq]
    exact List.Subset.refl _
  · rw [heq, workerStep_history]
    exact List.Subset.refl _

theorem paymentHistory_subset (env : SystemEnv) (s : System) (a : SystemAction) :
    s.payment.db.outbox.history ⊆ (systemStep env s a).payment.db.outbox.history := by
  rcases systemStep_payment env s a with ⟨c, -, heq⟩ | ⟨-, heq⟩ | ⟨w, -, heq⟩
  · obtain ⟨new, happ, -⟩ := (paymentStep_effect env.payment s.payment c).appends
    rw [heq, happ.2]
    exact List.subset_append_left _ _
  · rw [heq]
    exact List.Subset.refl _
  · rw [heq, workerStep_history]
    exact List.Subset.refl _

/-! ### Carriers -/

/-- Every row outside the histories says what a row of a history says, the queue of
    each service holding events of the other one. -/
structure System.Carried (s : System) : Prop where
  seatSide : LettersFrom (s.seat.outbox.rows ++ s.seatClaims.map (·.row)) s.seat.outbox.history
  paymentSide : LettersFrom (s.payment.db.outbox.rows ++ s.paymentClaims.map (·.row))
    s.payment.db.outbox.history
  seatQueue : LettersFrom s.seatQueue s.payment.db.outbox.history
  paymentQueue : LettersFrom s.paymentQueue s.seat.outbox.history
  released : ∀ m ∈ s.paymentQueue, m.eventType = "seat.released.v1"

theorem System.Seeded.carried {s : System} (h : s.Seeded) : s.Carried where
  seatSide := by intro r hr; simp [h.seat.outbox, h.seatClaims, Outbox.empty] at hr
  paymentSide := by intro r hr; simp [h.payment.outbox, h.paymentClaims, Outbox.empty] at hr
  seatQueue := by intro r hr; simp [h.seatQueue] at hr
  paymentQueue := by intro r hr; simp [h.paymentQueue] at hr
  released := by intro r hr; simp [h.paymentQueue] at hr

/-- The types of the events the payment service appends. -/
theorem PaymentHistory.eventType {rows : List OutboxRow} {intents : List PaymentIntentRow}
    (h : PaymentHistory rows intents) {r : OutboxRow} (hr : r ∈ rows) :
    r.eventType = "payment.succeeded.v1" ∨ r.eventType = "payment.failed.v1" := by
  obtain ⟨htype, i, -, hcloses⟩ := h r hr
  cases hpayload : r.payload with
  | paymentSucceeded e => rw [htype, hpayload]; exact Or.inl rfl
  | paymentFailed e => rw [htype, hpayload]; exact Or.inr rfl
  | seatHeld e => rw [hpayload] at hcloses; exact hcloses.elim
  | seatReleased e => rw [hpayload] at hcloses; exact hcloses.elim
  | seatReserved e => rw [hpayload] at hcloses; exact hcloses.elim

theorem routed_seat {row : OutboxRow} (h : row.eventType ∈ seatSchemas) :
    routed seatPaymentEventsQueue (seatExchangeOf row.eventType) row = [] ∧
      ∀ m ∈ routed paymentSeatEventsQueue (seatExchangeOf row.eventType) row,
        m = row ∧ m.eventType = "seat.released.v1" := by
  have hcases : row.eventType = "seat.held.v1" ∨ row.eventType = "seat.released.v1" ∨
      row.eventType = "seat.reserved.v1" := by simpa [seatSchemas] using h
  unfold routed
  rcases hcases with htype | htype | htype
  · rw [htype, if_neg (by decide), if_neg (by decide)]
    simp
  · rw [htype, if_neg (by decide), if_pos (by decide)]
    simp [htype]
  · rw [htype, if_neg (by decide), if_neg (by decide)]
    simp

theorem routed_payment {row : OutboxRow} (h : row.eventType = "payment.succeeded.v1" ∨
    row.eventType = "payment.failed.v1") :
    routed seatPaymentEventsQueue (paymentExchangeOf row.eventType) row = [row] ∧
      routed paymentSeatEventsQueue (paymentExchangeOf row.eventType) row = [] := by
  unfold routed
  rcases h with htype | htype
  · rw [htype, if_pos (by decide), if_neg (by decide)]
    exact ⟨rfl, rfl⟩
  · rw [htype, if_pos (by decide), if_neg (by decide)]
    exact ⟨rfl, rfl⟩

theorem OutboxRow.eventType_of_letter {r r' : OutboxRow} (h : r.letter = r'.letter) :
    r.eventType = r'.eventType := congrArg (·.2.1) h

theorem OutboxRow.payload_of_letter {r r' : OutboxRow} (h : r.letter = r'.letter) :
    r.payload = r'.payload := congrArg (·.2.2) h

theorem System.Carried.seatWorker {s : System} (h : s.Carried) (hwf : s.WellFormed)
    (env : SystemEnv) (w : WorkerAction) : (systemStep env s (.seatWorker w)).Carried := by
  have hletters := (workerStep_letter s.seat.outbox s.seatClaims w).trans h.seatSide
  simp only [systemStep, seatWorkerStep]
  cases hpub : publishedRow s.seatClaims w with
  | none =>
    refine ⟨?_, h.paymentSide, h.seatQueue, ?_, h.released⟩
    · dsimp only [publishTo]
      rw [workerStep_history]
      exact hletters
    · dsimp only [publishTo]
      rw [workerStep_history]
      exact h.paymentQueue
  | some row =>
    obtain ⟨r, hr, hletter⟩ := h.seatSide row (List.mem_append_right _ (publishedRow_mem hpub))
    have htype : row.eventType ∈ seatSchemas := by
      rw [← OutboxRow.eventType_of_letter hletter, (hwf.seatHistory r hr).1]
      exact (hwf.seatHistory r hr).2
    obtain ⟨hnone, hsome⟩ := routed_seat htype
    refine ⟨?_, h.paymentSide, ?_, ?_, ?_⟩
    · dsimp only [publishTo]
      rw [workerStep_history]
      exact hletters
    · dsimp only [publishTo]
      rw [hnone, List.append_nil]
      exact h.seatQueue
    · dsimp only [publishTo]
      rw [workerStep_history]
      apply h.paymentQueue.append
      intro m hm
      rw [(hsome m hm).1]
      exact ⟨r, hr, hletter⟩
    · dsimp only [publishTo]
      intro m hm
      rcases List.mem_append.mp hm with hm | hm
      · exact h.released m hm
      · exact (hsome m hm).2

theorem System.Carried.paymentWorker {s : System} (h : s.Carried) (hwf : s.WellFormed)
    (env : SystemEnv) (w : WorkerAction) : (systemStep env s (.paymentWorker w)).Carried := by
  have hletters := (workerStep_letter s.payment.db.outbox s.paymentClaims w).trans h.paymentSide
  simp only [systemStep, paymentWorkerStep]
  cases hpub : publishedRow s.paymentClaims w with
  | none =>
    refine ⟨h.seatSide, ?_, ?_, h.paymentQueue, h.released⟩
    · dsimp only [publishTo]
      rw [workerStep_history]
      exact hletters
    · dsimp only [publishTo]
      rw [workerStep_history]
      exact h.seatQueue
  | some row =>
    obtain ⟨r, hr, hletter⟩ := h.paymentSide row (List.mem_append_right _ (publishedRow_mem hpub))
    have htype : row.eventType = "payment.succeeded.v1" ∨ row.eventType = "payment.failed.v1" := by
      rw [← OutboxRow.eventType_of_letter hletter]
      exact hwf.paymentHistory.eventType hr
    obtain ⟨hsome, hnone⟩ := routed_payment htype
    refine ⟨h.seatSide, ?_, ?_, ?_, ?_⟩
    · dsimp only [publishTo]
      rw [workerStep_history]
      exact hletters
    · dsimp only [publishTo]
      rw [workerStep_history, hsome]
      apply h.seatQueue.append
      intro m hm
      rw [List.mem_singleton.mp hm]
      exact ⟨r, hr, hletter⟩
    · dsimp only [publishTo]
      rw [hnone, List.append_nil]
      exact h.paymentQueue
    · dsimp only [publishTo]
      rw [hnone, List.append_nil]
      exact h.released

theorem System.Carried.step {s : System} (h : s.Carried) (hwf : s.WellFormed) (env : SystemEnv)
    (a : SystemAction) : (systemStep env s a).Carried := by
  by_cases hseat : ∃ w, a = .seatWorker w
  · obtain ⟨w, rfl⟩ := hseat
    exact h.seatWorker hwf env w
  by_cases hpayment : ∃ w, a = .paymentWorker w
  · obtain ⟨w, rfl⟩ := hpayment
    exact h.paymentWorker hwf env w
  have hnot : ∀ w, a ≠ .seatWorker w := fun w heq => hseat ⟨w, heq⟩
  have hnot' : ∀ w, a ≠ .paymentWorker w := fun w heq => hpayment ⟨w, heq⟩
  obtain ⟨hsc, hpc, hsq, hpq⟩ := systemStep_carriers env (s := s) hnot hnot'
  refine ⟨?_, ?_, ?_, ?_, fun m hm => h.released m (hpq hm)⟩
  · rw [hsc]
    have hgrow := hwf.seatHistory_subset env a
    rcases systemStep_seat env s a with ⟨c, -, heq⟩ | ⟨-, heq⟩ | ⟨w, heq, -⟩
    · obtain ⟨new, happ, -⟩ := (seatStep_effect hwf.seat.holdKeys env.seat c).appends
      rw [heq] at hgrow ⊢
      rw [happ.1, List.append_assoc]
      obtain ⟨hrows, hclaims⟩ : LettersFrom s.seat.outbox.rows s.seat.outbox.history ∧
          LettersFrom (s.seatClaims.map (·.row)) s.seat.outbox.history :=
        ⟨h.seatSide.mono_left (List.subset_append_left _ _),
          h.seatSide.mono_left (List.subset_append_right _ _)⟩
      refine (hrows.mono_right hgrow).append (LettersFrom.append ?_ (hclaims.mono_right hgrow))
      rw [happ.2]
      exact LettersFrom.of_subset (List.subset_append_right _ _)
    · rw [heq]
      exact h.seatSide
    · exact absurd heq (hnot w)
  · rw [hpc]
    have hgrow := paymentHistory_subset env s a
    rcases systemStep_payment env s a with ⟨c, -, heq⟩ | ⟨-, heq⟩ | ⟨w, heq, -⟩
    · obtain ⟨new, happ, -⟩ := (paymentStep_effect env.payment s.payment c).appends
      rw [heq] at hgrow ⊢
      rw [happ.1, List.append_assoc]
      obtain ⟨hrows, hclaims⟩ : LettersFrom s.payment.db.outbox.rows s.payment.db.outbox.history ∧
          LettersFrom (s.paymentClaims.map (·.row)) s.payment.db.outbox.history :=
        ⟨h.paymentSide.mono_left (List.subset_append_left _ _),
          h.paymentSide.mono_left (List.subset_append_right _ _)⟩
      refine (hrows.mono_right hgrow).append (LettersFrom.append ?_ (hclaims.mono_right hgrow))
      rw [happ.2]
      exact LettersFrom.of_subset (List.subset_append_right _ _)
    · rw [heq]
      exact h.paymentSide
    · exact absurd heq (hnot' w)
  · exact (h.seatQueue.mono_left hsq).mono_right (paymentHistory_subset env s a)
  · exact (h.paymentQueue.mono_left hpq).mono_right (hwf.seatHistory_subset env a)

/-- What holds in every reachable state of the system. -/
structure System.Reachable (s : System) : Prop where
  wellFormed : s.WellFormed
  carried : s.Carried

theorem System.Reachable.step {s : System} (h : s.Reachable) (env : SystemEnv)
    (a : SystemAction) : (systemStep env s a).Reachable :=
  ⟨h.wellFormed.step env a, h.carried.step h.wellFormed env a⟩

theorem System.Seeded.reachable {s : System} (h : s.Seeded) : s.Reachable :=
  ⟨h.wellFormed, h.carried⟩

theorem System.Seeded.reachable_exec {s : System} (h : s.Seeded) (env : SystemEnv)
    (as : List SystemAction) : (exec (systemStep env) s as).Reachable :=
  exec_invariant' System.Reachable (fun _ a hinv => hinv.step env a) h.reachable as

/-! ### What the consumers receive -/

/-- **A message of the seat consumer** is the terminal event of an intent. -/
theorem System.Reachable.seatQueue {s : System} (h : s.Reachable) {m : OutboxRow}
    (hm : m ∈ s.seatQueue) : ∃ r ∈ s.payment.db.outbox.history, r.letter = m.letter ∧
      ∃ i ∈ s.payment.db.intents, m.payload.closes i := by
  obtain ⟨r, hr, hletter⟩ := h.carried.seatQueue m hm
  obtain ⟨-, i, hi, hcloses⟩ := h.wellFormed.paymentHistory r hr
  rw [OutboxRow.payload_of_letter hletter] at hcloses
  exact ⟨r, hr, hletter, i, hi, hcloses⟩

/-- **A message of the payment consumer** is a seat.released event. -/
theorem System.Reachable.paymentQueue {s : System} (h : s.Reachable) {m : OutboxRow}
    (hm : m ∈ s.paymentQueue) : ∃ r ∈ s.seat.outbox.history, r.letter = m.letter ∧
      ∃ e, m.payload = .seatReleased e := by
  obtain ⟨r, hr, hletter⟩ := h.carried.paymentQueue m hm
  have htype : m.payload.schema = "seat.released.v1" := by
    rw [← OutboxRow.payload_of_letter hletter, ← (h.wellFormed.seatHistory r hr).1,
      OutboxRow.eventType_of_letter hletter]
    exact h.carried.released m hm
  refine ⟨r, hr, hletter, ?_⟩
  cases hpayload : m.payload with
  | seatReleased e => exact ⟨e, rfl⟩
  | seatHeld e => rw [hpayload] at htype; simp [Event.schema] at htype
  | seatReserved e => rw [hpayload] at htype; simp [Event.schema] at htype
  | paymentSucceeded e => rw [hpayload] at htype; simp [Event.schema] at htype
  | paymentFailed e => rw [hpayload] at htype; simp [Event.schema] at htype

/-! ### Both databases after a step

A step of the system is one transaction on one of the databases, or leaves the
rows of both alone. -/

theorem System.WellFormed.seatEffect {s : System} (h : s.WellFormed) (env : SystemEnv)
    (a : SystemAction) :
    (∃ c, seatCall env.formats s a = some c ∧
      SeatEffect env.seat s.seat c (systemStep env s a).seat) ∨
    ((systemStep env s a).seat.holds = s.seat.holds ∧
      (systemStep env s a).seat.consumedEvents = s.seat.consumedEvents ∧
      (systemStep env s a).seat.outbox.history = s.seat.outbox.history) := by
  rcases systemStep_seat env s a with ⟨c, hcall, heq⟩ | ⟨-, heq⟩ | ⟨w, -, heq⟩
  · left
    refine ⟨c, hcall, ?_⟩
    rw [heq]
    exact seatStep_effect h.seat.holdKeys env.seat c
  · right
    rw [heq]
    exact ⟨rfl, rfl, rfl⟩
  · right
    rw [heq]
    exact ⟨rfl, rfl, workerStep_history ..⟩

theorem systemStep_paymentEffect (env : SystemEnv) (s : System) (a : SystemAction) :
    (∃ c, paymentCall env.formats s a = some c ∧
      PaymentEffect s.payment c (systemStep env s a).payment.db) ∨
    ((systemStep env s a).payment.db.intents = s.payment.db.intents ∧
      (systemStep env s a).payment.db.seatPrices = s.payment.db.seatPrices ∧
      (systemStep env s a).payment.db.outbox.history = s.payment.db.outbox.history) := by
  rcases systemStep_payment env s a with ⟨c, hcall, heq⟩ | ⟨-, heq⟩ | ⟨w, -, heq⟩
  · left
    refine ⟨c, hcall, ?_⟩
    rw [heq]
    exact paymentStep_effect env.payment s.payment c
  · right
    rw [heq]
    exact ⟨rfl, rfl, rfl⟩
  · right
    rw [heq]
    exact ⟨rfl, rfl, workerStep_history ..⟩

/-- No action runs a transaction of both services. -/
theorem paymentCall_eq_none {fmt : Formats} {s : System} {a : SystemAction} {c : SeatAction}
    (h : seatCall fmt s a = some c) : paymentCall fmt s a = none := by
  cases a with
  | payment a hlocal => cases h
  | deliverToPayment i acked d => cases h
  | hold seatId userId header traceDraw d => rfl
  | release seatId userId header traceDraw => rfl
  | releaseHold i d => rfl
  | releaseLost i => rfl
  | sweep scan traceId now draw => rfl
  | seatWorker w => rfl
  | paymentWorker w => rfl
  | deliverToSeat i acked d => rfl

/-- A hold that is not HELD stays as it is. -/
theorem System.WellFormed.hold_frozen {s : System} (h : s.WellFormed) (env : SystemEnv)
    (a : SystemAction) {r : HoldRow} (hr : r ∈ s.seat.holds) (hstatus : r.status ≠ .held) :
    r ∈ (systemStep env s a).seat.holds := by
  rcases h.seatEffect env a with ⟨c, -, heffect⟩ | ⟨heq, -⟩
  · exact heffect.frozen hr hstatus
  · rw [heq]
    exact hr

/-- An intent that is not PENDING stays as it is. -/
theorem intent_frozen (env : SystemEnv) {s : System} (a : SystemAction) {i : PaymentIntentRow}
    (hi : i ∈ s.payment.db.intents) (hstatus : i.status ≠ .pending) :
    i ∈ (systemStep env s a).payment.db.intents := by
  rcases systemStep_paymentEffect env s a with ⟨c, -, heffect⟩ | ⟨heq, -⟩
  · exact heffect.intentChange.frozen hi hstatus
  · rw [heq]
    exact hi

theorem System.WellFormed.hold_frozen_exec {s : System} (h : s.WellFormed) (env : SystemEnv)
    (as : List SystemAction) {r : HoldRow} (hr : r ∈ s.seat.holds) (hstatus : r.status ≠ .held) :
    r ∈ (exec (systemStep env) s as).seat.holds := by
  have hinv : (exec (systemStep env) s as).WellFormed ∧
      r ∈ (exec (systemStep env) s as).seat.holds := by
    apply exec_invariant' (fun t : System => t.WellFormed ∧ r ∈ t.seat.holds)
    · rintro t a ⟨hwf, hmem⟩
      exact ⟨hwf.step env a, hwf.hold_frozen env a hmem hstatus⟩
    · exact ⟨h, hr⟩
  exact hinv.2

theorem intent_frozen_exec (env : SystemEnv) {s : System} (as : List SystemAction)
    {i : PaymentIntentRow} (hi : i ∈ s.payment.db.intents) (hstatus : i.status ≠ .pending) :
    i ∈ (exec (systemStep env) s as).payment.db.intents := by
  apply exec_invariant' (fun t : System => i ∈ t.payment.db.intents)
  · intro t a hmem
    exact intent_frozen env a hmem hstatus
  · exact hi

theorem PaymentService.Priced.systemStep {s : System} (h : s.payment.Priced) (env : SystemEnv)
    (a : SystemAction) : (SeatReservation.systemStep env s a).payment.Priced := by
  rcases systemStep_payment env s a with ⟨c, -, heq⟩ | ⟨-, heq⟩ | ⟨w, -, heq⟩
  · rw [heq]
    exact h.step env.payment c
  · rw [heq]
    exact h
  · rw [heq]
    exact ⟨h.priced, h.called, h.intents⟩

/-! ### Consuming a payment event -/

/-- The payment event an action has the seat service consume. -/
def consumedPayment (fmt : Formats) (s : System) : SystemAction → Option Event
  | .deliverToSeat i _ _ =>
      match s.seatQueue[i]? with
      | some m => if parsesAnyEvent fmt m.payload then some m.payload else none
      | none => none
  | _ => none

/-- The payment.succeeded event an action has the seat service consume. -/
def consumedSuccess (fmt : Formats) (s : System) (a : SystemAction) : Option PaymentSucceededV1 :=
  match consumedPayment fmt s a with
  | some (.paymentSucceeded e) => some e
  | _ => none

theorem consumedPayment_mem {fmt : Formats} {s : System} {a : SystemAction} {event : Event}
    (h : consumedPayment fmt s a = some event) : ∃ m ∈ s.seatQueue, m.payload = event := by
  unfold consumedPayment at h
  split at h
  · rename_i i acked d
    cases hget : s.seatQueue[i]? with
    | none =>
      rw [hget] at h
      simp at h
    | some m =>
      simp only [hget] at h
      split at h
      · exact ⟨m, List.mem_of_getElem? hget, Option.some.inj h⟩
      · simp at h
  · simp at h

theorem consumedSuccess_iff {fmt : Formats} {s : System} {a : SystemAction}
    {e : PaymentSucceededV1} :
    consumedSuccess fmt s a = some e ↔ consumedPayment fmt s a = some (.paymentSucceeded e) := by
  unfold consumedSuccess
  split
  · rename_i e' heq
    rw [heq]
    simp
  · rename_i hnot
    simp only [reduceCtorEq, false_iff]
    exact hnot e

/-- Consuming a payment event is a call of the repository. -/
theorem consumedPayment_step {fmt : Formats} {s : System} {a : SystemAction} {event : Event}
    (h : consumedPayment fmt s a = some event) :
    ∃ d, ∀ env : SystemEnv, env.formats = fmt →
      (systemStep env s a).seat = onPaymentEvent event d s.seat := by
  cases a with
  | deliverToSeat i acked d =>
    refine ⟨d, ?_⟩
    rintro env rfl
    simp only [consumedPayment] at h
    simp only [systemStep, deliverToSeat]
    cases hget : s.seatQueue[i]? with
    | none =>
      rw [hget] at h
      simp at h
    | some m =>
      simp only [hget] at h ⊢
      split at h
      · rename_i hparses
        rw [if_pos hparses, Option.some.inj h]
      · cases h
  | _ => cases h

/-- The calls of the seat service's transactions: three local ones, and one for each
    kind of payment event. -/
inductive SeatCall (fmt : Formats) (s : System) : SystemAction → SeatAction → Prop where
  | hold (seatId : String) (userId : Uuid) (header : Option String) (traceDraw : Uuid)
      (d : HoldDraw) : SeatCall fmt s (.hold seatId userId header traceDraw d)
        (.insertHoldTx seatId userId (resolveTraceId header traceDraw) d)
  | cancel (i : Nat) (d : Draw) (c : Cancel) (hget : s.cancels[i]? = some c) :
      SeatCall fmt s (.releaseHold i d) (.releaseHold c.holdId "user_cancelled" c.traceId d)
  | sweep (scan : Scan) (traceId : Uuid) (now : Nat) (draw : Uuid → Uuid × Nat) :
      SeatCall fmt s (.sweep scan traceId now draw) (.tick scan traceId now draw)
  | succeeded (a : SystemAction) (e : PaymentSucceededV1) (d : Draw)
      (hconsumed : consumedPayment fmt s a = some (.paymentSucceeded e)) :
      SeatCall fmt s a (.reserveHold e.holdId e.eventId "seat-service" e.traceId d)
  | failed (a : SystemAction) (e : PaymentFailedV1) (d : Draw)
      (hconsumed : consumedPayment fmt s a = some (.paymentFailed e)) :
      SeatCall fmt s a (.releaseHold e.holdId "payment_failed" e.traceId d)

theorem seatCall_cases {fmt : Formats} {s : System} {a : SystemAction} {c : SeatAction}
    (h : seatCall fmt s a = some c) : SeatCall fmt s a c := by
  cases a with
  | hold seatId userId header traceDraw d =>
    cases h
    exact .hold ..
  | releaseHold i d =>
    simp only [seatCall, Option.map_eq_some_iff] at h
    obtain ⟨c, hget, rfl⟩ := h
    exact .cancel i d c hget
  | sweep scan traceId now draw =>
    cases h
    exact .sweep ..
  | deliverToSeat i acked d =>
    have hconsumed : ∀ m, s.seatQueue[i]? = some m → parsesAnyEvent fmt m.payload = true →
        consumedPayment fmt s (.deliverToSeat i acked d) = some m.payload := by
      intro m hget hparses
      simp only [consumedPayment, hget, hparses, if_true]
    simp only [seatCall] at h
    split at h
    · rename_i m hget
      split at h
      · rename_i hparses
        have hm := hconsumed m hget hparses
        split at h
        · rename_i e hpayload
          cases h
          rw [hpayload] at hm
          exact .succeeded _ e d hm
        · rename_i e hpayload
          cases h
          rw [hpayload] at hm
          exact .failed _ e d hm
        · cases h
      · cases h
    · cases h
  | _ => cases h

/-! ### Processing a release -/

/-- The seat.released message an action has the payment service process: the hold
    whose release it announces, and the event. -/
def processedRelease (fmt : Formats) (s : System) : SystemAction → Option (Uuid × SeatReleasedV1)
  | .deliverToPayment i _ _ =>
      match s.paymentQueue[i]? with
      | some m =>
          if parsesSeatReleased fmt m.payload then
            match m.payload with
            | .seatReleased e => some (m.aggregateId, e)
            | _ => none
          else none
      | none => none
  | _ => none

theorem processedRelease_mem {fmt : Formats} {s : System} {a : SystemAction}
    {m : Uuid × SeatReleasedV1} (h : processedRelease fmt s a = some m) :
    ∃ row ∈ s.paymentQueue, row.aggregateId = m.1 ∧ row.payload = .seatReleased m.2 := by
  cases a with
  | deliverToPayment i acked d =>
    simp only [processedRelease] at h
    split at h
    · rename_i row hget
      split at h
      · split at h
        · rename_i e hpayload
          cases h
          exact ⟨row, List.mem_of_getElem? hget, rfl, hpayload⟩
        · simp at h
      · simp at h
    · cases h
  | _ => cases h

/-- The actions of the payment service: its own, and the one for a release. -/
inductive PaymentCall (fmt : Formats) (s : System) : SystemAction → PaymentAction → Prop where
  | own (c : PaymentAction) (hlocal : c.isLocal = true) : PaymentCall fmt s (.payment c hlocal) c
  | released (a : SystemAction) (m : Uuid × SeatReleasedV1) (d : Draw)
      (hprocessed : processedRelease fmt s a = some m) :
      PaymentCall fmt s a (.seatReleased m.2.seatId m.2.traceId d)

theorem paymentCall_cases {fmt : Formats} {s : System} {a : SystemAction} {c : PaymentAction}
    (h : paymentCall fmt s a = some c) : PaymentCall fmt s a c := by
  cases a with
  | payment c hlocal =>
    cases h
    exact .own c hlocal
  | deliverToPayment i acked d =>
    simp only [paymentCall] at h
    split at h
    · rename_i m hget
      split at h
      · rename_i hparses
        split at h
        · rename_i e hpayload
          cases h
          refine .released _ (m.aggregateId, e) d ?_
          rw [hpayload] at hparses
          simp only [processedRelease, hget, hpayload, hparses, if_true]
        · simp at h
      · simp at h
    · cases h
  | _ => cases h

end SeatReservation
