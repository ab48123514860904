import Mathlib.Data.List.Perm.Basic
import SeatReservation.InFlight

/-!
# The consumer and its channels

`System` delivers a message in one step.  `RabbitService.consume` does not: up to
ten messages of a channel wait for their acks and their handlers run side by
side, the transaction of a handler commits before its ack is sent, and when a
channel is lost the broker sends its messages again while handlers of the old
channel may still commit.  The consumer of payment events hides all of this:
each of its runs shows what a run of `System` shows, with a delivery for each
commit and each ack (`consumer_refines`).  The delivery for the ack is the one
that needs the handler to be idempotent.
-/

namespace SeatReservation

open Relational TransitionSystem

/-- `ch.prefetch(10)`. -/
def prefetchCount : Nat := 10

/-- A message the broker has sent on a channel and waits for the answer to; `handled` once
    the transaction of the handler has committed. -/
structure UnackedMessage where
  channel : Nat
  message : OutboxRow
  handled : Bool
deriving DecidableEq

structure PaymentConsumer where
  /-- Its `seatQueue` are the messages that are ready for delivery. -/
  system : System
  unacked : List UnackedMessage
  /-- The messages of lost channels whose handlers have not come back. -/
  orphans : List OutboxRow

/-- How a handler ends; `unreported` is a transaction that commits while the handler is
    told that it failed. -/
inductive HandlerOutcome where
  | committed
  | rolledBack
  | unreported
deriving DecidableEq, Repr

def SystemAction.deliversToSeat : SystemAction → Bool
  | .deliverToSeat .. => true
  | _ => false

inductive ConsumerAction where
  | elsewhere (a : SystemAction) (isElsewhere : a.deliversToSeat = false)
  | deliver (channel i : Nat)
  | handle (j : Nat) (outcome : HandlerOutcome) (d : Draw)
  | ack (j : Nat)
  | lose (channel : Nat)
  | orphanEnds (j : Nat) (commits : Bool) (d : Draw)

/-! ### The broker -/

namespace PaymentConsumer

/-- The messages of the queue, ready or not. -/
def queued (c : PaymentConsumer) : List OutboxRow :=
  c.system.seatQueue ++ c.unacked.map (·.message)

/-- `channel.consume`: a channel gets no more than `prefetchCount` messages at a time. -/
def deliver (channel i : Nat) (c : PaymentConsumer) : PaymentConsumer :=
  match c.system.seatQueue[i]? with
  | none => c
  | some m =>
      if c.unacked.countP (·.channel == channel) < prefetchCount then
        { c with
          system := { c.system with seatQueue := c.system.seatQueue.eraseIdx i }
          unacked := c.unacked ++ [⟨channel, m, false⟩] }
      else c

/-- `ch.ack(msg)`, the last statement of a handler that has come through. -/
def ack (j : Nat) (c : PaymentConsumer) : PaymentConsumer :=
  match c.unacked[j]? with
  | none => c
  | some u => if u.handled then { c with unacked := c.unacked.eraseIdx j } else c

/-- `ch.nack(msg, false, true)`. -/
def requeue (j : Nat) (m : OutboxRow) (c : PaymentConsumer) : PaymentConsumer :=
  { c with
    system := { c.system with seatQueue := c.system.seatQueue ++ [m] }
    unacked := c.unacked.eraseIdx j }

/-- `ch.nack(msg, false, false)`. -/
def reject (j : Nat) (m : OutboxRow) (c : PaymentConsumer) : PaymentConsumer :=
  { c with
    system := { c.system with deadLetters := c.system.deadLetters ++ [m] }
    unacked := c.unacked.eraseIdx j }

/-! ### The handler -/

/-- The transaction for a message takes effect. -/
def perform (m : OutboxRow) (d : Draw) (c : PaymentConsumer) : PaymentConsumer :=
  { c with system := { c.system with seat := onPaymentEvent m.payload d c.system.seat } }

def commit (j : Nat) (u : UnackedMessage) (d : Draw) (c : PaymentConsumer) : PaymentConsumer :=
  { c.perform u.message d with unacked := c.unacked.set j { u with handled := true } }

/-- The handler of `PaymentEventsConsumer.start`, up to its ack. -/
def handle (env : SystemEnv) (j : Nat) (outcome : HandlerOutcome) (d : Draw)
    (c : PaymentConsumer) : PaymentConsumer :=
  match c.unacked[j]? with
  | none => c
  | some u =>
      if u.handled then c
      else if parsesAnyEvent env.formats u.message.payload then
        match outcome with
        | .committed => c.commit j u d
        | .rolledBack => c.requeue j u.message
        | .unreported => (c.commit j u d).requeue j u.message
      else c.reject j u.message

/-- The channel is gone: its messages are ready again, its handlers keep running. -/
def lose (env : SystemEnv) (channel : Nat) (c : PaymentConsumer) : PaymentConsumer :=
  let gone := c.unacked.filter (·.channel == channel)
  { system := { c.system with seatQueue := c.system.seatQueue ++ gone.map (·.message) }
    unacked := c.unacked.filter (!·.channel == channel)
    orphans := c.orphans ++
      (gone.filter fun u => !u.handled && parsesAnyEvent env.formats u.message.payload).map
        (·.message) }

/-- A handler of a lost channel comes back; there is no one to answer to. -/
def orphanEnds (j : Nat) (commits : Bool) (d : Draw) (c : PaymentConsumer) : PaymentConsumer :=
  match c.orphans[j]? with
  | none => c
  | some m =>
      let c' := if commits then c.perform m d else c
      { c' with orphans := c.orphans.eraseIdx j }

end PaymentConsumer

def consumerStep (env : SystemEnv) (c : PaymentConsumer) : ConsumerAction → PaymentConsumer
  | .elsewhere a _ => { c with system := systemStep env c.system a }
  | .deliver channel i => c.deliver channel i
  | .handle j outcome d => c.handle env j outcome d
  | .ack j => c.ack j
  | .lose channel => c.lose env channel
  | .orphanEnds j commits d => c.orphanEnds j commits d

/-- Nothing has been sent on a channel. -/
def PaymentConsumer.start (s : System) : PaymentConsumer := ⟨s, [], []⟩

/-! ### What both systems show -/

/-- Everything but the deliveries to the seat service. -/
def SystemAction.shown (a : SystemAction) : Option SystemAction :=
  if a.deliversToSeat then none else some a

def ConsumerAction.shown : ConsumerAction → Option SystemAction
  | .elsewhere a _ => some a
  | _ => none

/-- The step inserts no hold under an id that an event of the payment service names. -/
def FreshHold (s : System) : SystemAction → Prop
  | .hold _ _ _ _ d => ∀ r ∈ s.payment.db.outbox.history, r.payload.paidHold ≠ some d.holdId
  | _ => True

def ConsumerAction.Fresh (c : PaymentConsumer) : ConsumerAction → Prop
  | .elsewhere a _ => FreshHold c.system a
  | _ => True

instance (s : System) (a : SystemAction) : Decidable (FreshHold s a) :=
  match a with
  | .hold _ _ _ _ d => inferInstanceAs (Decidable (∀ r ∈ s.payment.db.outbox.history,
      r.payload.paidHold ≠ some d.holdId))
  | .release .. | .releaseHold .. | .releaseLost .. | .sweep .. | .payment .. | .seatWorker .. |
    .paymentWorker .. | .deliverToSeat .. | .deliverToPayment .. => inferInstanceAs (Decidable True)

instance (c : PaymentConsumer) (a : ConsumerAction) : Decidable (a.Fresh c) := by
  cases a <;> unfold ConsumerAction.Fresh <;> infer_instance

/-! ### Messages that have had their effect -/

/-- The message says what an event of the payment service says. -/
def OutboxRow.Sent (m : OutboxRow) (s : System) : Prop :=
  ∃ r ∈ s.payment.db.outbox.history, r.letter = m.letter

theorem OutboxRow.Sent.step {m : OutboxRow} {s : System} (h : m.Sent s) (env : SystemEnv)
    (a : SystemAction) : m.Sent (systemStep env s a) := by
  obtain ⟨r, hr, hletter⟩ := h
  exact ⟨r, paymentHistory_subset env s a hr, hletter⟩

/-- The holds that events of the payment service name are not drawn again. -/
theorem FreshHold.not_drawn {env : SystemEnv} {s : System} {a : SystemAction}
    (h : FreshHold s a) {m : OutboxRow} (hsent : m.Sent s) {c : SeatAction}
    (hcall : seatCall env.formats s a = some c) :
    ∀ holdId ∈ m.payload.paidHold, ¬ c.drawsHold holdId := by
  intro holdId habout hdraws
  obtain ⟨r, hr, hletter⟩ := hsent
  rw [← OutboxRow.payload_of_letter hletter] at habout
  cases seatCall_cases hcall with
  | hold seatId userId header traceDraw d =>
    apply h r hr
    rw [show d.holdId = holdId from hdraws]
    exact habout
  | cancel => exact hdraws
  | sweep => exact hdraws
  | succeeded => exact hdraws
  | failed => exact hdraws

theorem Settled.congr {event : Event} {db db' : SeatDb} (h : Settled event db)
    (hholds : db'.holds = db.holds) (hconsumed : db'.consumedEvents = db.consumedEvents) :
    Settled event db' := by
  cases event with
  | paymentSucceeded e =>
    simp only [Settled, NotHeld, hholds, hconsumed] at h ⊢
    exact h
  | paymentFailed e =>
    simp only [Settled, NotHeld, hholds] at h ⊢
    exact h
  | seatHeld e => trivial
  | seatReleased e => trivial
  | seatReserved e => trivial

theorem Settled.systemStep {env : SystemEnv} {s : System} {a : SystemAction} {m : OutboxRow}
    (h : Settled m.payload s.seat) (hreach : s.Reachable) (hsent : m.Sent s)
    (hfresh : FreshHold s a) : Settled m.payload (systemStep env s a).seat := by
  rcases hreach.wellFormed.seatEffect env a with ⟨c, hcall, heffect⟩ | ⟨hholds, hconsumed, -⟩
  · exact h.effect heffect (hfresh.not_drawn hsent hcall)
  · exact h.congr hholds hconsumed

/-! ### Steps of the system beside the consumer -/

def System.withSeatQueue (s : System) (queue : List OutboxRow) : System :=
  { s with seatQueue := queue }

@[simp] theorem System.withSeatQueue_seatQueue (s : System) (queue : List OutboxRow) :
    (s.withSeatQueue queue).seatQueue = queue := rfl

theorem publishTo_withSeatQueue (exchangeOf : String → String) (published : Option OutboxRow)
    (s : System) : ∃ new, ∀ queue, publishTo exchangeOf published (s.withSeatQueue queue) =
      (publishTo exchangeOf published s).withSeatQueue (queue ++ new) := by
  cases published with
  | none => exact ⟨[], fun queue => by rw [List.append_nil]; rfl⟩
  | some row => exact ⟨_, fun queue => rfl⟩

/-- What a step does elsewhere does not depend on the queue of the seat service. -/
theorem systemStep_withSeatQueue (env : SystemEnv) (s : System) {a : SystemAction}
    (h : a.deliversToSeat = false) : ∃ new, ∀ queue,
      systemStep env (s.withSeatQueue queue) a =
        (systemStep env s a).withSeatQueue (queue ++ new) := by
  have hnone : (∀ queue, systemStep env (s.withSeatQueue queue) a =
      (systemStep env s a).withSeatQueue queue) → ∃ new, ∀ queue,
        systemStep env (s.withSeatQueue queue) a =
          (systemStep env s a).withSeatQueue (queue ++ new) := by
    intro heq
    refine ⟨[], fun queue => ?_⟩
    rw [List.append_nil]
    exact heq queue
  cases a with
  | seatWorker w =>
    exact publishTo_withSeatQueue seatExchangeOf (publishedRow s.seatClaims w)
      { s with
        seat := { s.seat with outbox := (workerStep s.seat.outbox s.seatClaims w).1 }
        seatClaims := (workerStep s.seat.outbox s.seatClaims w).2 }
  | paymentWorker w =>
    exact publishTo_withSeatQueue paymentExchangeOf (publishedRow s.paymentClaims w)
      { s with
        payment :=
          { s.payment with
            db :=
              { s.payment.db with
                outbox := (workerStep s.payment.db.outbox s.paymentClaims w).1 } }
        paymentClaims := (workerStep s.payment.db.outbox s.paymentClaims w).2 }
  | deliverToSeat i acked d => cases h
  | release seatId userId header traceDraw =>
    apply hnone
    intro queue
    simp only [systemStep, release, System.withSeatQueue]
    cases Uuid.ofText seatId with
    | none => rfl
    | some seat =>
      cases hfind : findActiveHoldForSeat seat s.seat with
      | none => simp only [hfind]
      | some hold =>
        by_cases huser : hold.userId ≠ userId
        · simp only [hfind, if_pos huser]
        · simp only [hfind, if_neg huser]
  | releaseHold i d =>
    apply hnone
    intro queue
    simp only [systemStep, System.withSeatQueue]
    cases s.cancels[i]? with
    | none => rfl
    | some c => rfl
  | deliverToPayment i acked d =>
    apply hnone
    intro queue
    simp only [systemStep, deliverToPayment, System.withSeatQueue]
    cases s.paymentQueue[i]? with
    | none => rfl
    | some m =>
      by_cases hparses : parsesSeatReleased env.formats m.payload = true
      · simp only [if_pos hparses]
      · simp only [if_neg hparses]
  | hold => exact hnone fun queue => rfl
  | releaseLost => exact hnone fun queue => rfl
  | sweep => exact hnone fun queue => rfl
  | payment => exact hnone fun queue => rfl

/-! ### The simulation -/

/-- The state of `System` whose queue is `queue`: the messages of the consumer in some order.
    What a handler has done, or an orphan may do again, cannot be done a second time. -/
structure PaymentConsumer.Hides (env : SystemEnv) (c : PaymentConsumer)
    (queue : List OutboxRow) : Prop where
  reachable : (c.system.withSeatQueue queue).Reachable
  perm : queue.Perm c.queued
  handled : ∀ u ∈ c.unacked, u.handled = true →
    parsesAnyEvent env.formats u.message.payload = true ∧
      Settled u.message.payload c.system.seat
  orphans : ∀ m ∈ c.orphans, parsesAnyEvent env.formats m.payload = true ∧ m.Sent c.system ∧
    (m ∈ queue ∨ Settled m.payload c.system.seat)

/-- `s` is reached by deliveries alone, and is what the consumer hides. -/
def PaymentConsumer.Matched (env : SystemEnv) (c : PaymentConsumer) (s : System) : Prop :=
  ∃ bs, bs.filterMap SystemAction.shown = [] ∧ Along (systemStep env) FreshHold s bs ∧
    ∃ queue, exec (systemStep env) s bs = c.system.withSeatQueue queue ∧ c.Hides env queue

section

variable {env : SystemEnv} {c : PaymentConsumer} {queue : List OutboxRow}

theorem PaymentConsumer.Hides.matched (h : c.Hides env queue) {s : System}
    (hs : s = c.system.withSeatQueue queue) : c.Matched env s :=
  ⟨[], rfl, trivial, queue, hs, h⟩

theorem perm_cons_eraseIdx {α : Type*} {l : List α} {i : Nat} {a : α} (h : l[i]? = some a) :
    l.Perm (a :: l.eraseIdx i) := by
  obtain ⟨hlt, rfl⟩ := List.getElem?_eq_some_iff.mp h
  exact (List.getElem_cons_eraseIdx_perm hlt).symm

theorem PaymentConsumer.mem_queued {u : UnackedMessage} (h : u ∈ c.unacked) :
    u.message ∈ c.queued :=
  List.mem_append_right _ (List.mem_map.mpr ⟨u, h, rfl⟩)

theorem PaymentConsumer.queued_getElem? {j : Nat} {u : UnackedMessage}
    (h : c.unacked[j]? = some u) :
    c.queued[c.system.seatQueue.length + j]? = some u.message := by
  rw [PaymentConsumer.queued, List.getElem?_append_right (Nat.le_add_right _ _),
    Nat.add_sub_cancel_left, List.getElem?_map, h]
  rfl

theorem PaymentConsumer.queued_eraseIdx (j : Nat) :
    c.queued.eraseIdx (c.system.seatQueue.length + j) =
      c.system.seatQueue ++ (c.unacked.eraseIdx j).map (·.message) := by
  rw [PaymentConsumer.queued, List.eraseIdx_append_of_length_le (Nat.le_add_right _ _),
    Nat.add_sub_cancel_left, List.eraseIdx_map]

/-- The messages of the queue come from the payment service. -/
theorem PaymentConsumer.Hides.sent (h : c.Hides env queue) {m : OutboxRow} (hm : m ∈ c.queued) :
    m.Sent c.system := by
  obtain ⟨r, hr, hletter, -⟩ := h.reachable.seatQueue (h.perm.mem_iff.mpr hm)
  exact ⟨r, hr, hletter⟩

/-- What is settled stays so when `System` takes a step. -/
theorem PaymentConsumer.Hides.settled (h : c.Hides env queue) {a : SystemAction}
    {c' : PaymentConsumer} {queue' : List OutboxRow}
    (hstep : systemStep env (c.system.withSeatQueue queue) a = c'.system.withSeatQueue queue')
    (hfresh : FreshHold c.system a) {m : OutboxRow} (hsent : m.Sent c.system)
    (hsettled : Settled m.payload c.system.seat) : Settled m.payload c'.system.seat := by
  have hafter := @Settled.systemStep env (c.system.withSeatQueue queue) a m hsettled h.reachable
    hsent hfresh
  rw [hstep] at hafter
  exact hafter

theorem PaymentConsumer.Hides.deliver (h : c.Hides env queue) (channel i : Nat) :
    (c.deliver channel i).Hides env queue ∧
      (c.deliver channel i).system.withSeatQueue queue = c.system.withSeatQueue queue := by
  unfold PaymentConsumer.deliver
  split
  · exact ⟨h, rfl⟩
  · rename_i m hget
    split
    · refine ⟨⟨h.reachable, ?_, ?_, h.orphans⟩, rfl⟩
      · simp only [queued, List.map_append, List.map_cons, List.map_nil]
        calc queue.Perm (c.system.seatQueue ++ c.unacked.map (·.message)) := h.perm
          _ |>.Perm (m :: c.system.seatQueue.eraseIdx i ++ c.unacked.map (·.message)) :=
              (perm_cons_eraseIdx hget).append_right _
          _ |>.Perm (c.system.seatQueue.eraseIdx i ++ m :: c.unacked.map (·.message)) :=
              List.perm_middle.symm
          _ |>.Perm (c.system.seatQueue.eraseIdx i ++ (c.unacked.map (·.message) ++ [m])) :=
              (List.perm_append_singleton _ _).symm.append_left _
      · intro u hu hhandled
        rcases List.mem_append.mp hu with hu | hu
        · exact h.handled u hu hhandled
        · rw [List.mem_singleton.mp hu] at hhandled
          cases hhandled
    · exact ⟨h, rfl⟩

/-- The message of a handler that has not committed goes back to the queue. -/
theorem PaymentConsumer.Hides.requeue (h : c.Hides env queue) {j : Nat} {u : UnackedMessage}
    (hget : c.unacked[j]? = some u) : (c.requeue j u.message).Hides env queue where
  reachable := h.reachable
  perm := by
    have hunacked := (perm_cons_eraseIdx hget).map (·.message)
    show queue.Perm (c.system.seatQueue ++ [u.message] ++ (c.unacked.eraseIdx j).map (·.message))
    rw [List.append_assoc]
    exact h.perm.trans (hunacked.append_left _)
  handled := fun v hv => h.handled v (List.mem_of_mem_eraseIdx hv)
  orphans := h.orphans

/-- A transaction for a queued message is a delivery that is not acked. -/
theorem PaymentConsumer.Hides.perform (h : c.Hides env queue) {m : OutboxRow} (hm : m ∈ queue)
    (hparses : parsesAnyEvent env.formats m.payload = true) (d : Draw) :
    ∃ i, systemStep env (c.system.withSeatQueue queue) (.deliverToSeat i false d) =
      (c.perform m d).system.withSeatQueue queue ∧ (c.perform m d).Hides env queue := by
  obtain ⟨i, hi⟩ := List.mem_iff_getElem?.mp hm
  have hstep : systemStep env (c.system.withSeatQueue queue) (.deliverToSeat i false d) =
      (c.perform m d).system.withSeatQueue queue := by
    simp only [systemStep, deliverToSeat, System.withSeatQueue_seatQueue, hi, hparses, if_true]
    rfl
  refine ⟨i, hstep, ?_, h.perm, ?_, ?_⟩
  · rw [← hstep]
    exact h.reachable.step env _
  · intro u hu hhandled
    obtain ⟨hparses', hsettled⟩ := h.handled u hu hhandled
    exact ⟨hparses', h.settled hstep trivial (h.sent (mem_queued hu)) hsettled⟩
  · intro m' hm'
    obtain ⟨hparses', hsent, hwhere⟩ := h.orphans m' hm'
    exact ⟨hparses', hsent, hwhere.imp_right (h.settled hstep trivial hsent)⟩

theorem PaymentConsumer.queued_commit {j : Nat} {u : UnackedMessage}
    (hget : c.unacked[j]? = some u) (d : Draw) : (c.commit j u d).queued = c.queued := by
  have hmessage : (c.unacked.map UnackedMessage.message)[j]? = some u.message := by
    rw [List.getElem?_map, hget]
    rfl
  obtain ⟨hlt, hmessage⟩ := List.getElem?_eq_some_iff.mp hmessage
  simp only [queued, PaymentConsumer.commit, PaymentConsumer.perform, List.map_set]
  rw [← hmessage, List.set_getElem_self]

theorem PaymentConsumer.Hides.commit (h : c.Hides env queue) {j : Nat} {u : UnackedMessage}
    (hget : c.unacked[j]? = some u)
    (hparses : parsesAnyEvent env.formats u.message.payload = true) (d : Draw) :
    ∃ i, systemStep env (c.system.withSeatQueue queue) (.deliverToSeat i false d) =
      (c.commit j u d).system.withSeatQueue queue ∧ (c.commit j u d).Hides env queue := by
  have hqueued := h.perm.mem_iff.mpr (mem_queued (List.mem_of_getElem? hget))
  obtain ⟨i, hstep, hafter⟩ := h.perform hqueued hparses d
  refine ⟨i, hstep, hafter.reachable, ?_, ?_, hafter.orphans⟩
  · rw [queued_commit hget]
    exact h.perm
  · intro v hv hhandled
    rcases List.mem_or_eq_of_mem_set hv with hv | rfl
    · exact hafter.handled v hv hhandled
    · exact ⟨hparses, settled_onPaymentEvent ..⟩

/-- Both sides give the same message up. -/
theorem PaymentConsumer.Hides.perm_eraseIdx (h : c.Hides env queue) {i j : Nat}
    {u : UnackedMessage} (hget : c.unacked[j]? = some u) (hi : queue[i]? = some u.message) :
    (queue.eraseIdx i).Perm
      (c.system.seatQueue ++ (c.unacked.eraseIdx j).map (·.message)) := by
  rw [← queued_eraseIdx]
  exact h.perm.eraseIdx_of_getElem?_eq (hi.trans (queued_getElem? hget).symm)

/-- A message may be given up when its effect cannot be had again. -/
theorem PaymentConsumer.Hides.orphans_eraseIdx (h : c.Hides env queue) {i : Nat} {m : OutboxRow}
    (hi : queue[i]? = some m) (hdone : parsesAnyEvent env.formats m.payload = true →
      Settled m.payload c.system.seat) :
    ∀ m ∈ c.orphans, parsesAnyEvent env.formats m.payload = true ∧ m.Sent c.system ∧
      (m ∈ queue.eraseIdx i ∨ Settled m.payload c.system.seat) := by
  intro m' hm'
  obtain ⟨hparses, hsent, hwhere⟩ := h.orphans m' hm'
  refine ⟨hparses, hsent, ?_⟩
  rcases hwhere with hqueued | hsettled
  · rcases mem_eraseIdx_or hqueued i with hkept | htaken
    · exact Or.inl hkept
    · obtain rfl := Option.some.inj (hi.symm.trans htaken)
      exact Or.inr (hdone hparses)
  · exact Or.inr hsettled

/-- The ack of a message is a delivery of it that changes nothing else. -/
theorem PaymentConsumer.Hides.ack (h : c.Hides env queue) {j : Nat} {u : UnackedMessage}
    (hget : c.unacked[j]? = some u) (hhandled : u.handled = true) (d : Draw) :
    ∃ i, systemStep env (c.system.withSeatQueue queue) (.deliverToSeat i true d) =
        c.system.withSeatQueue (queue.eraseIdx i) ∧
      PaymentConsumer.Hides env { c with unacked := c.unacked.eraseIdx j } (queue.eraseIdx i) := by
  have hu : u ∈ c.unacked := List.mem_of_getElem? hget
  obtain ⟨hparses, hsettled⟩ := h.handled u hu hhandled
  obtain ⟨i, hi⟩ := List.mem_iff_getElem?.mp (h.perm.mem_iff.mpr (mem_queued hu))
  have hstep : systemStep env (c.system.withSeatQueue queue) (.deliverToSeat i true d) =
      c.system.withSeatQueue (queue.eraseIdx i) := by
    simp only [systemStep, deliverToSeat, System.withSeatQueue_seatQueue, hi, hparses, if_true]
    show System.mk (onPaymentEvent u.message.payload d c.system.seat) .. = _
    rw [hsettled.eq_self]
    rfl
  refine ⟨i, hstep, ?_, ?_, ?_, ?_⟩
  · show (c.system.withSeatQueue (queue.eraseIdx i)).Reachable
    rw [← hstep]
    exact h.reachable.step env _
  · exact h.perm_eraseIdx hget hi
  · exact fun v hv => h.handled v (List.mem_of_mem_eraseIdx hv)
  · exact h.orphans_eraseIdx hi fun _ => hsettled

/-- What cannot be parsed is dead-lettered on both sides. -/
theorem PaymentConsumer.Hides.reject (h : c.Hides env queue) {j : Nat} {u : UnackedMessage}
    (hget : c.unacked[j]? = some u)
    (hparses : ¬ parsesAnyEvent env.formats u.message.payload = true) (d : Draw) :
    ∃ i, systemStep env (c.system.withSeatQueue queue) (.deliverToSeat i true d) =
        (c.reject j u.message).system.withSeatQueue (queue.eraseIdx i) ∧
      (c.reject j u.message).Hides env (queue.eraseIdx i) := by
  have hu : u ∈ c.unacked := List.mem_of_getElem? hget
  obtain ⟨i, hi⟩ := List.mem_iff_getElem?.mp (h.perm.mem_iff.mpr (mem_queued hu))
  have hstep : systemStep env (c.system.withSeatQueue queue) (.deliverToSeat i true d) =
      (c.reject j u.message).system.withSeatQueue (queue.eraseIdx i) := by
    simp only [systemStep, deliverToSeat, System.withSeatQueue_seatQueue, hi, if_neg hparses]
    rfl
  refine ⟨i, hstep, ?_, ?_, ?_, ?_⟩
  · rw [← hstep]
    exact h.reachable.step env _
  · exact h.perm_eraseIdx hget hi
  · exact fun v hv => h.handled v (List.mem_of_mem_eraseIdx hv)
  · exact h.orphans_eraseIdx hi fun hparses' => absurd hparses' hparses

/-- A lost channel gives its messages back and leaves its handlers behind. -/
theorem PaymentConsumer.Hides.lose (h : c.Hides env queue) (channel : Nat) :
    (c.lose env channel).Hides env queue where
  reachable := h.reachable
  perm := by
    have hsplit := (List.filter_append_perm (·.channel == channel) c.unacked).map
      (·.message)
    show queue.Perm (_ ++ _ ++ _)
    rw [List.append_assoc, ← List.map_append]
    exact h.perm.trans (hsplit.symm.append_left _)
  handled := fun v hv => h.handled v (List.mem_of_mem_filter hv)
  orphans := by
    intro m hm
    rcases List.mem_append.mp hm with hm | hm
    · exact h.orphans m hm
    · obtain ⟨u, hu, rfl⟩ := List.mem_map.mp hm
      obtain ⟨hu, hopen⟩ := List.mem_filter.mp hu
      have hqueued := mem_queued (List.mem_of_mem_filter hu)
      refine ⟨?_, h.sent hqueued, Or.inl (h.perm.mem_iff.mpr hqueued)⟩
      exact (Bool.and_eq_true_iff.mp hopen).2

/-- A handler that comes back late repeats what its message does, or does nothing. -/
theorem PaymentConsumer.Hides.orphanEnds (h : c.Hides env queue) (j : Nat) (commits : Bool)
    (d : Draw) : (c.orphanEnds j commits d).Matched env (c.system.withSeatQueue queue) := by
  unfold PaymentConsumer.orphanEnds
  cases hget : c.orphans[j]? with
  | none => exact h.matched rfl
  | some m =>
    have herased : ∀ {c' : PaymentConsumer} {queue' : List OutboxRow}, c'.Hides env queue' →
        PaymentConsumer.Hides env { c' with orphans := c'.orphans.eraseIdx j } queue' :=
      fun h' => ⟨h'.reachable, h'.perm, h'.handled,
        fun m' hm' => h'.orphans m' (List.mem_of_mem_eraseIdx hm')⟩
    obtain ⟨hparses, -, hwhere⟩ := h.orphans m (List.mem_of_getElem? hget)
    cases commits with
    | false => exact (herased h).matched rfl
    | true =>
      rcases hwhere with hqueued | hsettled
      · obtain ⟨i, hstep, hafter⟩ := h.perform hqueued hparses d
        exact ⟨[.deliverToSeat i false d], rfl, ⟨trivial, trivial⟩, queue, hstep, herased hafter⟩
      · have hnothing : c.perform m d = c := by
          unfold PaymentConsumer.perform
          rw [hsettled.eq_self]
        simp only [if_true, hnothing]
        exact (herased h).matched rfl

theorem PaymentConsumer.Hides.handle (h : c.Hides env queue) (j : Nat)
    (outcome : HandlerOutcome) (d : Draw) :
    (c.handle env j outcome d).Matched env (c.system.withSeatQueue queue) := by
  unfold PaymentConsumer.handle
  cases hget : c.unacked[j]? with
  | none => exact h.matched rfl
  | some u =>
    dsimp only
    split
    · exact h.matched rfl
    · split
      · rename_i hparses
        obtain ⟨i, hstep, hafter⟩ := h.commit hget hparses d
        cases outcome with
        | committed =>
          exact ⟨[.deliverToSeat i false d], rfl, ⟨trivial, trivial⟩, queue, hstep, hafter⟩
        | rolledBack => exact (h.requeue hget).matched rfl
        | unreported =>
          refine ⟨[.deliverToSeat i false d], rfl, ⟨trivial, trivial⟩, queue, hstep, ?_⟩
          have hget' : (c.commit j u d).unacked[j]? = some { u with handled := true } := by
            exact List.getElem?_set_self (List.getElem?_eq_some_iff.mp hget).1
          exact hafter.requeue (u := { u with handled := true }) hget'
      · rename_i hparses
        obtain ⟨i, hstep, hafter⟩ := h.reject hget hparses d
        exact ⟨[.deliverToSeat i true d], rfl, ⟨trivial, trivial⟩, _, hstep, hafter⟩

/-- A step of the rest of the system at most puts messages at the end of the queue. -/
theorem PaymentConsumer.Hides.elsewhere (h : c.Hides env queue) {b : SystemAction}
    (hb : b.deliversToSeat = false) (hfresh : FreshHold c.system b) :
    ∃ queue', systemStep env (c.system.withSeatQueue queue) b =
        (systemStep env c.system b).withSeatQueue queue' ∧
      PaymentConsumer.Hides env { c with system := systemStep env c.system b } queue' := by
  obtain ⟨new, hstep⟩ := systemStep_withSeatQueue env c.system hb
  have hafter := hstep queue
  refine ⟨queue ++ new, hafter, ?_, ?_, ?_, ?_⟩
  · show ((systemStep env c.system b).withSeatQueue (queue ++ new)).Reachable
    rw [← hafter]
    exact h.reachable.step env b
  · have hready : (systemStep env c.system b).seatQueue = c.system.seatQueue ++ new :=
      congrArg System.seatQueue (hstep c.system.seatQueue)
    show (queue ++ new).Perm ((systemStep env c.system b).seatQueue ++ _)
    rw [hready, List.append_assoc]
    refine (h.perm.append_right new).trans ?_
    rw [queued, List.append_assoc]
    exact List.perm_append_comm.append_left _
  · intro u hu hhandled
    obtain ⟨hparses, hsettled⟩ := h.handled u hu hhandled
    exact ⟨hparses, h.settled hafter hfresh (h.sent (mem_queued hu)) hsettled⟩
  · intro m hm
    obtain ⟨hparses, hsent, hwhere⟩ := h.orphans m hm
    refine ⟨hparses, hsent.step env b, ?_⟩
    exact hwhere.imp (List.mem_append_left _) (h.settled hafter hfresh hsent)

/-- Every step of the consumer is matched by steps of `System` that show the same. -/
theorem PaymentConsumer.Hides.step (h : c.Hides env queue) {a : ConsumerAction}
    (hfresh : a.Fresh c) :
    ∃ bs, bs.filterMap SystemAction.shown = a.shown.toList ∧
      Along (systemStep env) FreshHold (c.system.withSeatQueue queue) bs ∧
      ∃ queue', exec (systemStep env) (c.system.withSeatQueue queue) bs =
          (consumerStep env c a).system.withSeatQueue queue' ∧
        (consumerStep env c a).Hides env queue' := by
  cases a with
  | elsewhere b hb =>
    obtain ⟨queue', hstep, hafter⟩ := h.elsewhere hb hfresh
    refine ⟨[b], ?_, ⟨hfresh, trivial⟩, queue', hstep, hafter⟩
    simp [SystemAction.shown, hb, ConsumerAction.shown]
  | deliver channel i =>
    obtain ⟨hafter, heq⟩ := h.deliver channel i
    exact hafter.matched heq.symm
  | handle j outcome d => exact h.handle j outcome d
  | ack j =>
    simp only [consumerStep, PaymentConsumer.ack]
    cases hget : c.unacked[j]? with
    | none => exact h.matched rfl
    | some u =>
      by_cases hhandled : u.handled = true
      · obtain ⟨i, hstep, hafter⟩ := h.ack hget hhandled ⟨0, 0, 0⟩
        simp only [if_pos hhandled]
        exact ⟨[.deliverToSeat i true ⟨0, 0, 0⟩], rfl, ⟨trivial, trivial⟩, _, hstep, hafter⟩
      · simp only [if_neg hhandled]
        exact h.matched rfl
  | lose channel => exact (h.lose channel).matched rfl
  | orphanEnds j commits d => exact h.orphanEnds j commits d

theorem PaymentConsumer.Hides.exec (h : c.Hides env queue) {as : List ConsumerAction}
    (hfresh : Along (consumerStep env) (fun c a => a.Fresh c) c as) :
    ∃ bs, bs.filterMap SystemAction.shown = as.filterMap ConsumerAction.shown ∧
      Along (systemStep env) FreshHold (c.system.withSeatQueue queue) bs ∧
      ∃ queue', exec (systemStep env) (c.system.withSeatQueue queue) bs =
          (exec (consumerStep env) c as).system.withSeatQueue queue' ∧
        (exec (consumerStep env) c as).Hides env queue' := by
  refine exec_simulates (fun (s : System) c => ∃ queue, s = c.system.withSeatQueue queue ∧
    PaymentConsumer.Hides env c queue) ?_ ⟨queue, rfl, h⟩ hfresh
  rintro _ c a ⟨queue, rfl, h⟩ hfresh
  exact h.step hfresh

end

theorem System.Seeded.hides {s : System} (h : s.Seeded) (env : SystemEnv) :
    (PaymentConsumer.start s).Hides env s.seatQueue where
  reachable := h.reachable
  perm := by
    rw [PaymentConsumer.queued]
    simp [PaymentConsumer.start]
  handled := by simp [PaymentConsumer.start]
  orphans := by simp [PaymentConsumer.start]

/-- **The consumer of payment events delivers each message in one step.**  However the
    broker, its channels and the handlers interleave with the rest of the system, there is a
    run of `System` that does the same elsewhere and ends in the same state, with the
    messages that are ready or wait for an ack as its queue. -/
theorem consumer_refines {s : System} (hseed : s.Seeded) {env : SystemEnv}
    {as : List ConsumerAction}
    (hfresh : Along (consumerStep env) (fun c a => a.Fresh c) (.start s) as) :
    let c := exec (consumerStep env) (.start s) as
    ∃ bs, bs.filterMap SystemAction.shown = as.filterMap ConsumerAction.shown ∧
      ∃ queue, queue.Perm (c.system.seatQueue ++ c.unacked.map (·.message)) ∧
        exec (systemStep env) s bs = { c.system with seatQueue := queue } := by
  obtain ⟨bs, hshown, -, queue, heq, hafter⟩ := (hseed.hides env).exec hfresh
  exact ⟨bs, hshown, queue, hafter.perm, heq⟩

def elsewhereRun (as : List SystemAction) : List ConsumerAction :=
  as.filterMap fun a =>
    if h : a.deliversToSeat = false then some (.elsewhere a h) else none

/-- The payment for hold 201 has been published. -/
def published : List ConsumerAction :=
  elsewhereRun (checkedOut ++ localRun (succeededRun "evt_1" firstKey 501) ++ publishPayment 4000)

/-- Its event is handled twice, channel 1 being lost before the ack; a handler of channel 1
    comes back last. -/
def handledTwice : List ConsumerAction :=
  [.deliver 1 0, .lose 1, .deliver 2 0, .handle 0 .committed ⟨601, 4100, 4100⟩, .ack 0,
   .orphanEnds 0 true ⟨602, 4200, 4200⟩]

theorem consumer_refines_handledTwice :
    let c := exec (consumerStep defaultSystemEnv) (.start seedSystem) (published ++ handledTwice)
    c.system.seat.consumedEvents = [(501, "seat-service")] ∧
      ∃ bs, bs.filterMap SystemAction.shown =
          (published ++ handledTwice).filterMap ConsumerAction.shown ∧
        ∃ queue, queue.Perm (c.system.seatQueue ++ c.unacked.map (·.message)) ∧
          exec (systemStep defaultSystemEnv) seedSystem bs =
            { c.system with seatQueue := queue } :=
  ⟨by decide +kernel, consumer_refines seedSystem_seeded (by decide +kernel)⟩

/-! ### What becomes of a message -/

/-- A message of the queue stays there, is refused, or has had its effect. -/
theorem System.Reachable.queued_or_done {s : System} (h : s.Reachable) {m : OutboxRow}
    (hm : m ∈ s.seatQueue) {env : SystemEnv} {bs : List SystemAction}
    (hfresh : Along (systemStep env) FreshHold s bs) :
    let t := exec (systemStep env) s bs
    m ∈ t.seatQueue ∨ m ∈ t.deadLetters ∨ Settled m.payload t.seat := by
  have hsent : m.Sent s := by
    obtain ⟨r, hr, hletter, -⟩ := h.seatQueue hm
    exact ⟨r, hr, hletter⟩
  have hinv : (exec (systemStep env) s bs).Reachable ∧ m.Sent (exec (systemStep env) s bs) ∧
      (m ∈ (exec (systemStep env) s bs).seatQueue ∨ m ∈ (exec (systemStep env) s bs).deadLetters ∨
        Settled m.payload (exec (systemStep env) s bs).seat) := by
    apply exec_invariant (fun t : System => t.Reachable ∧ m.Sent t ∧
      (m ∈ t.seatQueue ∨ m ∈ t.deadLetters ∨ Settled m.payload t.seat)) _ ⟨h, hsent, Or.inl hm⟩
      hfresh
    rintro t a ⟨hreach, hsent, hwhere⟩ hfresh
    refine ⟨hreach.step env a, hsent.step env a, ?_⟩
    have hpasses := systemStep_passes env t a
    rcases hwhere with hqueued | hdead | hsettled
    · rcases hpasses.toSeat m hqueued with hkept | hdead | ⟨d, hhandled⟩
      · exact Or.inl hkept
      · exact Or.inr (Or.inl hdead)
      · rw [hhandled]
        exact Or.inr (Or.inr (settled_onPaymentEvent ..))
    · exact Or.inr (Or.inl (hpasses.deadLetters hdead))
    · exact Or.inr (Or.inr (hsettled.systemStep hreach hsent hfresh))
  exact hinv.2.2

/-! ### The queue runs empty -/

namespace PaymentConsumer

/-- The steps of a consumer on `channel` that nothing disturbs. -/
def Productive (channel : Nat) (c : PaymentConsumer) : ConsumerAction → Prop
  | .deliver channel' i => channel' = channel ∧ i < c.system.seatQueue.length ∧
      c.unacked.countP (·.channel == channel) < prefetchCount
  | .handle j outcome _ => outcome = .committed ∧ ∃ u ∈ c.unacked[j]?, u.handled = false
  | .ack j => ∃ u ∈ c.unacked[j]?, u.handled = true
  | _ => False

instance (channel : Nat) (c : PaymentConsumer) (a : ConsumerAction) :
    Decidable (c.Productive channel a) := by
  cases a <;> unfold Productive <;> infer_instance

/-- The steps a message that has been sent still takes. -/
def toGo (u : UnackedMessage) : Nat := if u.handled then 1 else 2

def work (c : PaymentConsumer) : Nat :=
  3 * c.system.seatQueue.length + (c.unacked.map toGo).sum

theorem sum_toGo_eraseIdx {unacked : List UnackedMessage} {j : Nat} {u : UnackedMessage}
    (h : unacked[j]? = some u) :
    (unacked.map toGo).sum = toGo u + ((unacked.eraseIdx j).map toGo).sum := by
  rw [((perm_cons_eraseIdx h).map toGo).sum_nat]
  rfl

/-- Each productive step is one of those that were to go. -/
theorem Productive.work_lt {env : SystemEnv} {channel : Nat} {c : PaymentConsumer}
    {a : ConsumerAction} (h : c.Productive channel a) : (consumerStep env c a).work < c.work := by
  cases a with
  | deliver channel' i =>
    obtain ⟨rfl, hi, hroom⟩ := h
    have hget := List.getElem?_eq_getElem hi
    simp only [consumerStep, PaymentConsumer.deliver, hget, if_pos hroom, work,
      List.length_eraseIdx_of_lt hi, List.map_append, List.sum_append_nat, List.map_cons,
      List.map_nil, List.sum_cons, List.sum_nil, toGo]
    simp only [Bool.false_eq_true, if_false]
    omega
  | handle j outcome d =>
    obtain ⟨rfl, hopen⟩ := h
    obtain ⟨u, hget, hnot⟩ := hopen
    rw [Option.mem_def] at hget
    have hsum := sum_toGo_eraseIdx hget
    have hdone : ((c.unacked.set j { u with handled := true }).map toGo).sum =
        1 + ((c.unacked.eraseIdx j).map toGo).sum := by
      have hset := List.set_perm_cons_eraseIdx (List.getElem?_eq_some_iff.mp hget).1
        { u with handled := true }
      rw [(hset.map toGo).sum_nat]
      rfl
    simp only [toGo, hnot, Bool.false_eq_true, if_false] at hsum
    simp only [consumerStep, PaymentConsumer.handle, hget, hnot, Bool.false_eq_true, if_false]
    split
    · simp only [work, PaymentConsumer.commit, PaymentConsumer.perform, hdone, hsum]
      omega
    · simp only [work, PaymentConsumer.reject, hsum]
      omega
  | ack j =>
    obtain ⟨u, hget, hhandled⟩ := h
    rw [Option.mem_def] at hget
    have hsum := sum_toGo_eraseIdx hget
    simp only [toGo, if_pos hhandled] at hsum
    simp only [consumerStep, PaymentConsumer.ack, hget, if_pos hhandled, work, hsum]
    omega
  | elsewhere => exact h.elim
  | lose => exact h.elim
  | orphanEnds => exact h.elim

/-- When a consumer that is left alone has nothing to do, nothing is queued. -/
theorem queued_eq_nil {channel : Nat} {c : PaymentConsumer}
    (h : ∀ a, ¬ c.Productive channel a) : c.queued = [] := by
  have hunacked : c.unacked = [] := by
    cases hfirst : c.unacked with
    | nil => rfl
    | cons u rest =>
      have hget : u ∈ c.unacked[0]? := by simp [hfirst]
      exfalso
      cases hhandled : u.handled with
      | true => exact h (.ack 0) ⟨u, hget, hhandled⟩
      | false => exact h (.handle 0 .committed ⟨0, 0, 0⟩) ⟨rfl, u, hget, hhandled⟩
  have hready : c.system.seatQueue = [] := by
    cases hfirst : c.system.seatQueue with
    | nil => rfl
    | cons m rest =>
      refine absurd ⟨rfl, ?_, ?_⟩ (h (.deliver channel 0))
      · rw [hfirst]
        exact Nat.zero_lt_succ _
      · rw [hunacked]
        exact Nat.zero_lt_succ _
  rw [queued, hunacked, hready]
  rfl

theorem Productive.fresh {channel : Nat} {c : PaymentConsumer} {a : ConsumerAction}
    (h : c.Productive channel a) : a.Fresh c := by
  cases a with
  | elsewhere => exact h.elim
  | deliver => trivial
  | handle => trivial
  | ack => trivial
  | lose => exact h.elim
  | orphanEnds => exact h.elim

end PaymentConsumer

/-- **A consumer that is left alone empties the queue.**  Whatever has happened to the
    channels before, a run of undisturbed deliveries, handlers and acks on one channel is no
    longer than the work there is; and when nothing is left to do, nothing is queued and
    each message that was is a dead letter or has had its effect. -/
theorem consumer_drains {s : System} (hseed : s.Seeded) {env : SystemEnv}
    {as : List ConsumerAction}
    (hfresh : Along (consumerStep env) (fun c a => a.Fresh c) (.start s) as) {channel : Nat}
    {ps : List ConsumerAction}
    (hps : Along (consumerStep env) (PaymentConsumer.Productive channel)
      (exec (consumerStep env) (.start s) as) ps) :
    let c := exec (consumerStep env) (.start s) as
    let c' := exec (consumerStep env) c ps
    ps.length ≤ c.work ∧ ((∀ a, ¬ c'.Productive channel a) → c'.queued = [] ∧
      ∀ m ∈ c.queued, m ∈ c'.system.deadLetters ∨ Settled m.payload c'.system.seat) := by
  intro c c'
  constructor
  · exact length_le_of_ranking (fun _ => True) PaymentConsumer.work (fun _ _ _ _ => trivial)
      (fun _ _ _ h => h.work_lt) trivial hps
  · intro hstuck
    have hempty := PaymentConsumer.queued_eq_nil hstuck
    refine ⟨hempty, fun m hm => ?_⟩
    obtain ⟨-, -, -, queue, -, hides⟩ := (hseed.hides env).exec hfresh
    have hfresh' : Along (consumerStep env) (fun c a => a.Fresh c) c ps :=
      along_of_invariant (fun _ => True) (fun _ _ _ _ => trivial) (fun _ _ _ h => h.fresh)
        trivial hps
    obtain ⟨bs, -, hsteps, queue', heq, hides'⟩ := hides.exec hfresh'
    have hwhere := hides.reachable.queued_or_done (hides.perm.mem_iff.mpr hm) hsteps
    rw [heq] at hwhere
    rcases hwhere with hqueued | hdone
    · have hqueued' := hides'.perm.mem_iff.mp hqueued
      rw [show PaymentConsumer.queued _ = [] from hempty] at hqueued'
      cases hqueued'
    · exact hdone

theorem consumer_drains_redelivered :
    let c := exec (consumerStep defaultSystemEnv) (.start seedSystem)
      (published ++ [.deliver 1 0, .lose 1])
    let ps : List ConsumerAction :=
      [.deliver 2 0, .handle 0 .committed ⟨601, 4100, 4100⟩, .ack 0]
    let c' := exec (consumerStep defaultSystemEnv) c ps
    c.work = 3 ∧ (ps.length ≤ c.work ∧ ((∀ a, ¬ c'.Productive 2 a) → c'.queued = [] ∧
      ∀ m ∈ c.queued, m ∈ c'.system.deadLetters ∨ Settled m.payload c'.system.seat)) :=
  ⟨by decide +kernel, consumer_drains seedSystem_seeded (by decide +kernel) (by decide +kernel)⟩

end SeatReservation
