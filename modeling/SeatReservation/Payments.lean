import SeatReservation.Holds

/-!
# Payment intents, webhooks and the mock PSP

The database of the payment service and the statements that write it.  The
three functions that end a PENDING intent differ in the rows they select, the
status they set and the event they append, and are one definition
(`closeIntents`) with these as parameters: all of them update every row that
matches and append the event of the first row returned.
-/

namespace SeatReservation

open Relational

inductive IntentStatus where
  | pending
  | completed
  | failed
deriving DecidableEq, Repr

structure PaymentIntentRow where
  id : Uuid
  seatId : Uuid
  userId : Uuid
  holdId : Uuid
  amountCents : Nat
  currency : String
  pspIntentId : String
  status : IntentStatus
  idempotencyKey : Uuid
  clientSecret : String
  completedAt : Option Nat
deriving DecidableEq, Repr

structure SeatPrice where
  seatId : Uuid
  priceCents : Nat
  currency : String
  label : String
deriving DecidableEq, Repr

/-- `event.data.object.id` of a webhook body: reading it throws, it is missing, or
    it is a value with this text. -/
inductive ObjectId where
  | unreadable
  | absent
  | text (s : String)
deriving DecidableEq, Repr

structure PSPWebhookEvent where
  id : String
  type : String
  created : Int
  objectId : ObjectId
deriving DecidableEq, Repr

structure InboxRow where
  stripeEventId : String
  type : String
  payload : PSPWebhookEvent
  receivedAt : Nat
  processedAt : Option Nat
deriving DecidableEq, Repr

structure PaymentDb where
  intents : List PaymentIntentRow
  inbox : List InboxRow
  seatPrices : List SeatPrice
  outbox : Outbox
deriving DecidableEq, Repr

/-! ### PaymentIntentsRepository -/

def getSeatPrice (seatId : Uuid) (db : PaymentDb) : Option SeatPrice :=
  db.seatPrices.find? fun p => p.seatId == seatId

def findByIdempotencyKey (key : Uuid) (db : PaymentDb) : Option PaymentIntentRow :=
  db.intents.find? fun i => i.idempotencyKey == key

/-- The constraint an `INSERT INTO payment_intents` fails on. -/
def intentViolation (intents : List PaymentIntentRow) (row : PaymentIntentRow) : Option SqlError :=
  if intents.any fun i => i.id == row.id then some (uniqueViolation "payment_intents_pkey")
  else if intents.any fun i => i.idempotencyKey == row.idempotencyKey then
    some (uniqueViolation "payment_intents_idempotency_key_key")
  else none

def createIntent (row : PaymentIntentRow) (db : PaymentDb) :
    Except SqlError PaymentIntentRow × PaymentDb :=
  match intentViolation db.intents row with
  | some err => (.error err, db)
  | none => (.ok row, { db with intents := db.intents ++ [row] })

inductive MarkResult where
  | ok (intent : PaymentIntentRow)
  | noPendingIntent
deriving DecidableEq, Repr

def PaymentIntentRow.close (status : IntentStatus) (now : Nat) (i : PaymentIntentRow) :
    PaymentIntentRow :=
  { i with status := status, completedAt := some now }

/-- `UPDATE payment_intents SET status = .. WHERE p RETURNING *`, then one outbox
    row for `rows[0]`; without a row the transaction is rolled back. -/
def closeIntents (p : PaymentIntentRow → Bool) (status : IntentStatus) (eventType : String)
    (event : PaymentIntentRow → Event) (traceId : String) (now : Nat) (db : PaymentDb) :
    MarkResult × PaymentDb :=
  match returning p (PaymentIntentRow.close status now) db.intents with
  | [] => (.noPendingIntent, db)
  | intent :: _ =>
      (.ok intent,
        { db with
          intents := update p (PaymentIntentRow.close status now) db.intents
          outbox := db.outbox.insert intent.id eventType (event intent)
            [("traceId", traceId), ("userId", intent.userId.toString)] now })

def isPendingPsp (pspIntentId : String) (i : PaymentIntentRow) : Bool :=
  i.pspIntentId == pspIntentId && i.status == .pending

def isPendingOnSeat (seatId : Uuid) (i : PaymentIntentRow) : Bool :=
  i.seatId == seatId && i.status == .pending

def paymentSucceededEvent (traceId : String) (d : Draw) (intent : PaymentIntentRow) : Event :=
  .paymentSucceeded ⟨d.eventId, intent.id, intent.seatId, intent.userId, intent.holdId,
    intent.amountCents, intent.currency, intent.pspIntentId, traceId, d.occurredAt⟩

def paymentFailedEvent (reason traceId : String) (d : Draw) (intent : PaymentIntentRow) : Event :=
  .paymentFailed ⟨d.eventId, intent.id, intent.seatId, intent.userId, intent.holdId, reason,
    traceId, d.occurredAt⟩

def markCompleted (pspIntentId traceId : String) (d : Draw) (db : PaymentDb) :
    MarkResult × PaymentDb :=
  closeIntents (isPendingPsp pspIntentId) .completed "payment.succeeded.v1"
    (paymentSucceededEvent traceId d) traceId d.now db

def markFailed (pspIntentId reason traceId : String) (d : Draw) (db : PaymentDb) :
    MarkResult × PaymentDb :=
  closeIntents (isPendingPsp pspIntentId) .failed "payment.failed.v1"
    (paymentFailedEvent reason traceId d) traceId d.now db

def markFailedBySeatId (seatId : Uuid) (reason traceId : String) (d : Draw) (db : PaymentDb) :
    MarkResult × PaymentDb :=
  closeIntents (isPendingOnSeat seatId) .failed "payment.failed.v1"
    (paymentFailedEvent reason traceId d) traceId d.now db

/-- `ON CONFLICT (stripe_event_id) DO NOTHING`; the result says whether a row was inserted. -/
def insertWebhookInbox (event : PSPWebhookEvent) (now : Nat) (db : PaymentDb) :
    Bool × PaymentDb :=
  if db.inbox.any fun r => r.stripeEventId == event.id then (false, db)
  else (true, { db with inbox := db.inbox ++ [⟨event.id, event.type, event, now, none⟩] })

def markWebhookProcessed (stripeEventId : String) (now : Nat) (db : PaymentDb) : PaymentDb :=
  let sameEvent := fun r : InboxRow => r.stripeEventId == stripeEventId
  { db with inbox := update sameEvent (fun r => { r with processedAt := some now }) db.inbox }

/-! ### MockPSPClient -/

/-- The id `createIntent` of the PSP gives to a key, as the client wrote the key. -/
def pspIntentIdOf (idempotencyKey : String) : String := "pi_mock_" ++ idempotencyKey

def clientSecretOf (pspIntentId random : String) : String := pspIntentId ++ "_secret_" ++ random

/-! ### Handling one webhook event

`processEvent` and `reprocess` both dispatch on the type of the event.  A body
whose `data.object.id` cannot be read throws before anything is written; a
missing id is sent to the database as NULL, which no row matches. -/

def handleEvent (type : String) (objectId : ObjectId) (traceId : String) (d : Draw)
    (db : PaymentDb) : Option PaymentDb :=
  if type = "payment_intent.succeeded" then
    match objectId with
    | .unreadable => none
    | .absent => some db
    | .text p => some (markCompleted p traceId d db).2
  else if type = "payment_intent.payment_failed" then
    match objectId with
    | .unreadable => none
    | .absent => some db
    | .text p => some (markFailed p "payment_failed" traceId d db).2
  else some db

end SeatReservation
