import SeatReservation.SeatInvariants
import SeatReservation.PaymentInvariants

/-!
# The combined system

Both services, their outbox workers and the two queues between them.  A message
in a queue is the outbox row it was published from; its consumer reads the
payload and nothing else.  Messages wait, overtake each other and are delivered
again as the action list says: a delivery picks any position of a queue, and one
that is not acked leaves the message there.  The broker and the workers never
make a message up, which `System.Carried` states for all carriers at once: whatever is
in a table, claimed or queued says what a row in the history of an outbox says.
-/

namespace SeatReservation

open Relational TransitionSystem

structure SystemEnv where
  seat : SeatEnv
  payment : PaymentEnv
  formats : Formats

/-- A `SeatsController.release` request that has found the caller's hold. -/
structure Cancel where
  holdId : Uuid
  traceId : String
deriving DecidableEq, Repr

structure System where
  seat : SeatDb
  payment : PaymentService
  cancels : List Cancel
  seatClaims : List Claim
  paymentClaims : List Claim
  /-- The queue `seat.payment-events`, consumed by the seat service. -/
  seatQueue : List OutboxRow
  /-- The queue `payment.seat-events`, consumed by the payment service. -/
  paymentQueue : List OutboxRow
  deadLetters : List OutboxRow

/-- Everything but the consumer's call of the repository, which only `deliver` makes. -/
def PaymentAction.isLocal : PaymentAction → Bool
  | .seatReleased .. => false
  | _ => true

inductive SystemAction where
  | hold (seatId : String) (userId : Uuid) (header : Option String) (traceDraw : Uuid)
      (d : HoldDraw)
  | release (seatId : String) (userId : Uuid) (header : Option String) (traceDraw : Uuid)
  | releaseHold (i : Nat) (d : Draw)
  | releaseLost (i : Nat)
  | sweep (scan : Scan) (traceId : Uuid) (now : Nat) (draw : Uuid → Uuid × Nat)
  | payment (a : PaymentAction) (isLocal : a.isLocal = true)
  | seatWorker (a : WorkerAction)
  | paymentWorker (a : WorkerAction)
  | deliverToSeat (i : Nat) (acked : Bool) (d : Draw)
  | deliverToPayment (i : Nat) (acked : Bool) (d : Draw)

/-! ### HTTP handlers of the seat service -/

/-- The lookup of `SeatsController.release`. -/
def release (seatId : String) (userId : Uuid) (header : Option String) (traceDraw : Uuid)
    (s : System) : System :=
  match Uuid.ofText seatId with
  | none => s
  | some seat =>
      match findActiveHoldForSeat seat s.seat with
      | none => s
      | some hold =>
          if hold.userId ≠ userId then s
          else
            { s with cancels := s.cancels ++ [⟨hold.id, resolveTraceId header traceDraw⟩] }

/-! ### Consumers -/

/-- `PaymentEventsConsumer`, after the message has been parsed. -/
def onPaymentEvent (event : Event) (d : Draw) (db : SeatDb) : SeatDb :=
  match event with
  | .paymentSucceeded e => (reserveHold e.holdId e.eventId "seat-service" e.traceId d db).2
  | .paymentFailed e => (SeatReservation.releaseHold e.holdId "payment_failed" e.traceId d db).2
  | _ => db

/-- `SeatEventsConsumer`, after the message has been parsed. -/
def onSeatEvent (event : Event) (d : Draw) (s : PaymentService) : PaymentService :=
  match event with
  | .seatReleased e =>
      { s with db := (markFailedBySeatId e.seatId "seat_released" e.traceId d s.db).2 }
  | _ => s

/-- `AnyEvent.parse` of the seat service. -/
def parsesAnyEvent (fmt : Formats) (event : Event) : Bool :=
  anyEvent.any fun schema => schema.accepts fmt event.toJson

/-- `SeatReleasedV1.parse` of the payment service. -/
def parsesSeatReleased (fmt : Formats) (event : Event) : Bool :=
  seatReleasedSchema.accepts fmt event.toJson

/-- The queue after a delivery of its `i`-th message. -/
def afterDelivery (queue : List OutboxRow) (i : Nat) (acked : Bool) : List OutboxRow :=
  if acked then queue.eraseIdx i else queue

def deliverToSeat (env : SystemEnv) (i : Nat) (acked : Bool) (d : Draw) (s : System) : System :=
  match s.seatQueue[i]? with
  | none => s
  | some m =>
      if parsesAnyEvent env.formats m.payload then
        { s with
          seat := onPaymentEvent m.payload d s.seat
          seatQueue := afterDelivery s.seatQueue i acked }
      else
        { s with
          seatQueue := s.seatQueue.eraseIdx i
          deadLetters := s.deadLetters ++ [m] }

def deliverToPayment (env : SystemEnv) (i : Nat) (acked : Bool) (d : Draw) (s : System) : System :=
  match s.paymentQueue[i]? with
  | none => s
  | some m =>
      if parsesSeatReleased env.formats m.payload then
        { s with
          payment := onSeatEvent m.payload d s.payment
          paymentQueue := afterDelivery s.paymentQueue i acked }
      else
        { s with
          paymentQueue := s.paymentQueue.eraseIdx i
          deadLetters := s.deadLetters ++ [m] }

/-! ### Workers and routing -/

/-- What a published row adds to a queue. -/
def routed (queue exchange : String) (row : OutboxRow) : List OutboxRow :=
  if isRouted queue exchange (routingKeyOf row.eventType) then [row] else []

/-- Put the row a worker step publishes into the queues bound to its key. -/
def publishTo (exchangeOf : String → String) (published : Option OutboxRow) (s : System) : System :=
  match published with
  | none => s
  | some row =>
      { s with
        seatQueue := s.seatQueue ++
          routed seatPaymentEventsQueue (exchangeOf row.eventType) row
        paymentQueue := s.paymentQueue ++
          routed paymentSeatEventsQueue (exchangeOf row.eventType) row }

def seatWorkerStep (a : WorkerAction) (s : System) : System :=
  let (outbox, claims) := workerStep s.seat.outbox s.seatClaims a
  publishTo seatExchangeOf (publishedRow s.seatClaims a)
    { s with seat := { s.seat with outbox := outbox }, seatClaims := claims }

def paymentWorkerStep (a : WorkerAction) (s : System) : System :=
  let (outbox, claims) := workerStep s.payment.db.outbox s.paymentClaims a
  publishTo paymentExchangeOf (publishedRow s.paymentClaims a)
    { s with
      payment := { s.payment with db := { s.payment.db with outbox := outbox } }
      paymentClaims := claims }

/-! ### Steps -/

def systemStep (env : SystemEnv) (s : System) : SystemAction → System
  | .hold seatId userId header traceDraw d =>
      { s with seat := (insertHoldTx env.seat seatId userId (resolveTraceId header traceDraw) d
          s.seat).2 }
  | .release seatId userId header traceDraw => release seatId userId header traceDraw s
  | .releaseHold i d =>
      match s.cancels[i]? with
      | none => s
      | some c =>
          { s with
            seat := (SeatReservation.releaseHold c.holdId "user_cancelled" c.traceId d s.seat).2
            cancels := s.cancels.eraseIdx i }
  | .releaseLost i => { s with cancels := s.cancels.eraseIdx i }
  | .sweep scan traceId now draw => { s with seat := tick env.seat scan traceId now draw s.seat }
  | .payment a _ => { s with payment := paymentStep env.payment s.payment a }
  | .seatWorker a => seatWorkerStep a s
  | .paymentWorker a => paymentWorkerStep a s
  | .deliverToSeat i acked d => deliverToSeat env i acked d s
  | .deliverToPayment i acked d => deliverToPayment env i acked d s

/-- Both databases as seeded, nothing in flight. -/
structure System.Seeded (s : System) : Prop where
  seat : s.seat.Seeded
  payment : s.payment.Seeded
  cancels : s.cancels = []
  seatClaims : s.seatClaims = []
  paymentClaims : s.paymentClaims = []
  seatQueue : s.seatQueue = []
  paymentQueue : s.paymentQueue = []
  deadLetters : s.deadLetters = []

def seedSystem : System := ⟨seedDb, seedPrices, [], [], [], [], [], []⟩

theorem seedSystem_seeded : seedSystem.Seeded :=
  ⟨seedDb_seeded, seedPrices_seeded, rfl, rfl, rfl, rfl, rfl, rfl⟩

/-- The defaults, with the formats zod checks. -/
def defaultSystemEnv : SystemEnv :=
  ⟨defaultSeatEnv, defaultPaymentEnv, ⟨isUuidText, isDatetimeText⟩⟩

end SeatReservation
