import SeatReservation.Payments
import SeatReservation.TransitionSystem

/-!
# The payment service as a state machine

Besides its database the service has work in memory: checkout requests between
two of their statements, webhook events accepted but not processed yet, and
ticks of the reprocessor (one for each replica) in the middle of their batch.
Each action is one statement or transaction of one of them, so a list of actions
is an interleaving of any number of requests, webhooks and replicas; any piece
of work may also fail or be lost in a crash at any point.  `PaymentEffect` says
what an action can do to the database.
-/

namespace SeatReservation

open Relational TransitionSystem

/-! ### Work in memory -/

structure CheckoutDto where
  seatId : Uuid
  holdId : Uuid
  idempotencyKey : UuidText

structure CheckoutRequest where
  dto : CheckoutDto
  userId : Uuid

inductive CheckoutResponse where
  | ok (intentId : Uuid) (clientSecret : String) (amountCents : Nat) (currency : String)
      (idempotent : Bool)
  | badRequest (error : String)
  | internalError
deriving DecidableEq, Repr

def CheckoutResponse.ofIntent (i : PaymentIntentRow) (idempotent : Bool) : CheckoutResponse :=
  .ok i.id i.clientSecret i.amountCents i.currency idempotent

/-- How far a checkout request has got. -/
inductive CheckoutStage where
  | started
  | missed
  | priced (price : SeatPrice)
  | pspCalled (price : SeatPrice) (pspIntentId clientSecret : String)
  | raced
  | done (response : CheckoutResponse)
deriving DecidableEq, Repr

structure Checkout where
  request : CheckoutRequest
  stage : CheckoutStage

/-- A `processEvent` call; `handled` once only `markWebhookProcessed` is left. -/
structure WebhookTask where
  event : PSPWebhookEvent
  traceId : String
  handled : Bool

/-- A tick of the reprocessor: the rows it has not finished, and whether the first
    of them has been handled. -/
structure Reprocessing where
  rows : List InboxRow
  handled : Bool

structure PaymentService where
  db : PaymentDb
  checkouts : List Checkout
  tasks : List WebhookTask
  reprocessings : List Reprocessing

structure PaymentEnv where
  webhookToleranceMs : Nat

/-! ### Checkout -/

/-- What a step of a checkout draws: the id of the intent, the random part of the
    client secret, and whether the PSP call succeeds. -/
structure CheckoutDraw where
  intentId : Uuid
  random : String
  pspAnswers : Bool

/-- The row `createIntent` inserts. -/
def newIntent (r : CheckoutRequest) (price : SeatPrice) (pspIntentId clientSecret : String)
    (intentId : Uuid) : PaymentIntentRow where
  id := intentId
  seatId := r.dto.seatId
  userId := r.userId
  holdId := r.dto.holdId
  amountCents := price.priceCents
  currency := price.currency
  pspIntentId := pspIntentId
  status := .pending
  idempotencyKey := r.dto.idempotencyKey.uuid
  clientSecret := clientSecret
  completedAt := none

/-- One statement of `checkout`. -/
def checkoutStep (d : CheckoutDraw) (c : Checkout) (db : PaymentDb) : Checkout × PaymentDb :=
  let key := c.request.dto.idempotencyKey
  match c.stage with
  | .started =>
      match findByIdempotencyKey key.uuid db with
      | some i => ({ c with stage := .done (.ofIntent i true) }, db)
      | none => ({ c with stage := .missed }, db)
  | .missed =>
      match getSeatPrice c.request.dto.seatId db with
      | some price => ({ c with stage := .priced price }, db)
      | none => ({ c with stage := .done (.badRequest "seat_price_unknown") }, db)
  | .priced price =>
      if d.pspAnswers then
        let pspIntentId := pspIntentIdOf key.text
        ({ c with stage := .pspCalled price pspIntentId (clientSecretOf pspIntentId d.random) }, db)
      else ({ c with stage := .done (.badRequest "psp_unavailable") }, db)
  | .pspCalled price pspIntentId clientSecret =>
      match createIntent (newIntent c.request price pspIntentId clientSecret d.intentId) db with
      | (.ok i, db') => ({ c with stage := .done (.ofIntent i false) }, db')
      | (.error err, db') =>
          if err.code = "23505" then ({ c with stage := .raced }, db')
          else ({ c with stage := .done .internalError }, db')
  | .raced =>
      match findByIdempotencyKey key.uuid db with
      | some i => ({ c with stage := .done (.ofIntent i true) }, db)
      | none => ({ c with stage := .done .internalError }, db)
  | .done _ => (c, db)

/-! ### Webhooks -/

/-- The webhook handler after the signature check: freshness, inbox, and the task
    that `setImmediate` starts. -/
def webhook (env : PaymentEnv) (event : PSPWebhookEvent) (header : Option String)
    (traceDraw : Uuid) (now : Nat) (s : PaymentService) : PaymentService :=
  if (now : Int) - event.created * 1000 > env.webhookToleranceMs then s
  else
    match insertWebhookInbox event now s.db with
    | (false, _) => s
    | (true, db) =>
        { s with
          db := db
          tasks := s.tasks ++ [⟨event, resolveTraceId header traceDraw, false⟩] }

/-- One transaction of `processEvent`; `none` when the task has ended. -/
def processEventStep (d : Draw) (t : WebhookTask) (db : PaymentDb) :
    Option WebhookTask × PaymentDb :=
  if t.handled then (none, markWebhookProcessed t.event.id d.now db)
  else
    match handleEvent t.event.type t.event.objectId t.traceId d db with
    | some db' => (some { t with handled := true }, db')
    | none => (none, db)

/-- The rows a tick of the reprocessor selects.  `ORDER BY received_at` says nothing about rows
    of one time; here they come in the order of their insertion. -/
def unprocessed (db : PaymentDb) : List InboxRow :=
  let rows := db.inbox.filter fun r => r.processedAt.isNone
  (rows.insertionSort fun r r' => r.receivedAt ≤ r'.receivedAt).take 50

/-- The trace id `reprocess` makes up. -/
def reprocessTraceId (u : Uuid) : String := "reprocess-" ++ u.toString

/-- One transaction of `reprocess`, with the trace id and the draws of the current
    row; an exception skips to the next row. -/
def reprocessStep (traceDraw : Uuid) (d : Draw) (p : Reprocessing) (db : PaymentDb) :
    Reprocessing × PaymentDb :=
  match p.rows with
  | [] => (p, db)
  | row :: rest =>
      if p.handled then (⟨rest, false⟩, markWebhookProcessed row.stripeEventId d.now db)
      else
        match handleEvent row.type row.payload.objectId (reprocessTraceId traceDraw) d db with
        | some db' => ({ p with handled := true }, db')
        | none => (⟨rest, false⟩, db)

/-! ### Steps -/

inductive PaymentAction where
  | checkout (request : CheckoutRequest)
  | checkoutStep (i : Nat) (d : CheckoutDraw)
  | checkoutLost (i : Nat)
  | webhook (event : PSPWebhookEvent) (header : Option String) (traceDraw : Uuid) (now : Nat)
  | processEvent (i : Nat) (d : Draw)
  | processEventLost (i : Nat)
  | reprocessTick
  | reprocess (i : Nat) (traceDraw : Uuid) (d : Draw)
  | reprocessSkip (i : Nat)
  | reprocessLost (i : Nat)
  | seatReleased (seatId : Uuid) (traceId : String) (d : Draw)

def paymentStep (env : PaymentEnv) (s : PaymentService) : PaymentAction → PaymentService
  | .checkout request => { s with checkouts := s.checkouts ++ [⟨request, .started⟩] }
  | .checkoutStep i d =>
      match s.checkouts[i]? with
      | some c =>
          let (c', db) := checkoutStep d c s.db
          { s with db := db, checkouts := s.checkouts.set i c' }
      | none => s
  | .checkoutLost i => { s with checkouts := s.checkouts.eraseIdx i }
  | .webhook event header traceDraw now => webhook env event header traceDraw now s
  | .processEvent i d =>
      match s.tasks[i]? with
      | some t =>
          match processEventStep d t s.db with
          | (some t', db) => { s with db := db, tasks := s.tasks.set i t' }
          | (none, db) => { s with db := db, tasks := s.tasks.eraseIdx i }
      | none => s
  | .processEventLost i => { s with tasks := s.tasks.eraseIdx i }
  | .reprocessTick => { s with reprocessings := s.reprocessings ++ [⟨unprocessed s.db, false⟩] }
  | .reprocess i traceDraw d =>
      match s.reprocessings[i]? with
      | some p =>
          let (p', db) := reprocessStep traceDraw d p s.db
          { s with db := db, reprocessings := s.reprocessings.set i p' }
      | none => s
  | .reprocessSkip i =>
      { s with reprocessings := s.reprocessings.modify i fun p => ⟨p.rows.tail, false⟩ }
  | .reprocessLost i => { s with reprocessings := s.reprocessings.eraseIdx i }
  | .seatReleased seatId traceId d =>
      { s with db := (markFailedBySeatId seatId "seat_released" traceId d s.db).2 }

/-- Prices with distinct seats, and nothing else. -/
structure PaymentService.Seeded (s : PaymentService) : Prop where
  prices : KeyedBy SeatPrice.seatId s.db.seatPrices
  intents : s.db.intents = []
  inbox : s.db.inbox = []
  outbox : s.db.outbox = Outbox.empty
  checkouts : s.checkouts = []
  tasks : s.tasks = []
  reprocessings : s.reprocessings = []

/-- The prices of the migration that seeds them. -/
def seedPrices : PaymentService where
  db := ⟨[], [], [⟨1, 1900, "USD", "A1"⟩, ⟨2, 2900, "USD", "A2"⟩, ⟨3, 3900, "USD", "A3"⟩],
    Outbox.empty⟩
  checkouts := []
  tasks := []
  reprocessings := []

theorem seedPrices_seeded : seedPrices.Seeded where
  prices := by unfold KeyedBy; decide
  intents := rfl
  inbox := rfl
  outbox := rfl
  checkouts := rfl
  tasks := rfl
  reprocessings := rfl

/-- The default of the payment service's environment. -/
def defaultPaymentEnv : PaymentEnv := ⟨300000⟩

end SeatReservation
