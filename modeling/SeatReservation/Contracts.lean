import SeatReservation.Zod

/-!
# Shared packages: trace ids, event contracts, broker topology

The packages `be-core` (trace ids) and `contracts` (event schemas, exchanges,
queues and routing keys) are what the services share.  An event is kept as the
record its producer builds (`Event`); what travels is its JSON object
(`Event.toJson`), and a consumer takes it only when the schema accepts that
object.  `anyEvent_accepts` reduces the consumer's union of schemas to the one
schema the event names.
-/

namespace SeatReservation

/-! ### Trace ids -/

/-- `resolveTraceId`: keep a header that is a UUID text, otherwise `randomUUID()`. -/
def resolveTraceId (header : Option String) (randomUUID : Uuid) : String :=
  match header with
  | some h => if h ≠ "" ∧ isUuidText h then h else randomUUID.toString
  | none => randomUUID.toString

theorem isUuidText_resolveTraceId (header : Option String) (u : Uuid) :
    isUuidText (resolveTraceId header u) = true := by
  unfold resolveTraceId
  split
  · split
    · rename_i h; exact h.2
    · exact u.isUuidText_toString
  · exact u.isUuidText_toString

/-! ### Events -/

/-- `seatId` is the text the request named the seat by. -/
structure SeatHeldV1 where
  eventId : Uuid
  seatId : String
  userId : Uuid
  holdId : Uuid
  heldUntil : Nat
  priceCents : Nat
  currency : String
  traceId : String
  occurredAt : Nat
deriving DecidableEq, Repr

structure SeatReleasedV1 where
  eventId : Uuid
  seatId : Uuid
  reason : String
  traceId : String
  occurredAt : Nat
deriving DecidableEq, Repr

structure SeatReservedV1 where
  eventId : Uuid
  seatId : Uuid
  userId : Uuid
  holdId : Uuid
  traceId : String
  occurredAt : Nat
deriving DecidableEq, Repr

structure PaymentSucceededV1 where
  eventId : Uuid
  paymentIntentId : Uuid
  seatId : Uuid
  userId : Uuid
  holdId : Uuid
  amountCents : Nat
  currency : String
  pspIntentId : String
  traceId : String
  occurredAt : Nat
deriving DecidableEq, Repr

structure PaymentFailedV1 where
  eventId : Uuid
  paymentIntentId : Uuid
  seatId : Uuid
  userId : Uuid
  holdId : Uuid
  reason : String
  traceId : String
  occurredAt : Nat
deriving DecidableEq, Repr

/-- The payload of an outbox row. -/
inductive Event where
  | seatHeld (e : SeatHeldV1)
  | seatReleased (e : SeatReleasedV1)
  | seatReserved (e : SeatReservedV1)
  | paymentSucceeded (e : PaymentSucceededV1)
  | paymentFailed (e : PaymentFailedV1)
deriving DecidableEq, Repr

/-- The `schema` member, which is also the `event_type` of the outbox row. -/
def Event.schema : Event → String
  | .seatHeld _ => "seat.held.v1"
  | .seatReleased _ => "seat.released.v1"
  | .seatReserved _ => "seat.reserved.v1"
  | .paymentSucceeded _ => "payment.succeeded.v1"
  | .paymentFailed _ => "payment.failed.v1"

def Event.eventId : Event → Uuid
  | .seatHeld e => e.eventId
  | .seatReleased e => e.eventId
  | .seatReserved e => e.eventId
  | .paymentSucceeded e => e.eventId
  | .paymentFailed e => e.eventId

def Event.traceId : Event → String
  | .seatHeld e => e.traceId
  | .seatReleased e => e.traceId
  | .seatReserved e => e.traceId
  | .paymentSucceeded e => e.traceId
  | .paymentFailed e => e.traceId

def Event.occurredAt : Event → Nat
  | .seatHeld e => e.occurredAt
  | .seatReleased e => e.occurredAt
  | .seatReserved e => e.occurredAt
  | .paymentSucceeded e => e.occurredAt
  | .paymentFailed e => e.occurredAt

private def uuidMember (u : Uuid) : JsonValue := .string u.toString
private def dateMember (t : Nat) : JsonValue := .string (toISOString t)

/-- The JSON object of an event, members in the order the builders write them. -/
def Event.toJson : Event → JsonObject
  | .seatHeld e =>
      [("schema", .string "seat.held.v1"), ("eventId", uuidMember e.eventId),
       ("seatId", .string e.seatId), ("userId", uuidMember e.userId),
       ("holdId", uuidMember e.holdId), ("heldUntil", dateMember e.heldUntil),
       ("priceCents", .number e.priceCents), ("currency", .string e.currency),
       ("traceId", .string e.traceId), ("occurredAt", dateMember e.occurredAt)]
  | .seatReleased e =>
      [("schema", .string "seat.released.v1"), ("eventId", uuidMember e.eventId),
       ("seatId", uuidMember e.seatId), ("reason", .string e.reason),
       ("traceId", .string e.traceId), ("occurredAt", dateMember e.occurredAt)]
  | .seatReserved e =>
      [("schema", .string "seat.reserved.v1"), ("eventId", uuidMember e.eventId),
       ("seatId", uuidMember e.seatId), ("userId", uuidMember e.userId),
       ("holdId", uuidMember e.holdId), ("traceId", .string e.traceId),
       ("occurredAt", dateMember e.occurredAt)]
  | .paymentSucceeded e =>
      [("schema", .string "payment.succeeded.v1"), ("eventId", uuidMember e.eventId),
       ("paymentIntentId", uuidMember e.paymentIntentId), ("seatId", uuidMember e.seatId),
       ("userId", uuidMember e.userId), ("holdId", uuidMember e.holdId),
       ("amountCents", .number e.amountCents), ("currency", .string e.currency),
       ("pspIntentId", .string e.pspIntentId), ("traceId", .string e.traceId),
       ("occurredAt", dateMember e.occurredAt)]
  | .paymentFailed e =>
      [("schema", .string "payment.failed.v1"), ("eventId", uuidMember e.eventId),
       ("paymentIntentId", uuidMember e.paymentIntentId), ("seatId", uuidMember e.seatId),
       ("userId", uuidMember e.userId), ("holdId", uuidMember e.holdId),
       ("reason", .string e.reason), ("traceId", .string e.traceId),
       ("occurredAt", dateMember e.occurredAt)]

/-! ### Schemas -/

def baseMeta : Schema := [("eventId", .uuid), ("traceId", .uuid), ("occurredAt", .datetime)]

def seatHeldSchema : Schema := baseMeta ++
  [("schema", .literal "seat.held.v1"), ("seatId", .uuid), ("userId", .uuid), ("holdId", .uuid),
   ("heldUntil", .datetime), ("priceCents", .nonnegativeInt), ("currency", .stringLength 3)]

def seatReleasedSchema : Schema := baseMeta ++
  [("schema", .literal "seat.released.v1"), ("seatId", .uuid), ("userId", .optional .uuid),
   ("reason", .oneOf ["expired", "payment_failed", "user_cancelled", "sweeper"])]

def seatReservedSchema : Schema := baseMeta ++
  [("schema", .literal "seat.reserved.v1"), ("seatId", .uuid), ("userId", .uuid),
   ("holdId", .uuid)]

def paymentSucceededSchema : Schema := baseMeta ++
  [("schema", .literal "payment.succeeded.v1"), ("paymentIntentId", .uuid), ("seatId", .uuid),
   ("userId", .uuid), ("holdId", .uuid), ("amountCents", .nonnegativeInt),
   ("currency", .stringLength 3), ("pspIntentId", .anyString)]

def paymentFailedSchema : Schema := baseMeta ++
  [("schema", .literal "payment.failed.v1"), ("paymentIntentId", .uuid), ("seatId", .uuid),
   ("userId", .uuid), ("holdId", .uuid), ("reason", .anyString)]

/-- The schema an event names. -/
def Event.namedSchema : Event → Schema
  | .seatHeld _ => seatHeldSchema
  | .seatReleased _ => seatReleasedSchema
  | .seatReserved _ => seatReservedSchema
  | .paymentSucceeded _ => paymentSucceededSchema
  | .paymentFailed _ => paymentFailedSchema

/-- The payload parses under the schema it names. -/
def Event.conforms (fmt : Formats) (e : Event) : Bool := e.namedSchema.accepts fmt e.toJson

/-- The union the seat consumer parses a message with. -/
def anyEvent : List Schema :=
  [paymentSucceededSchema, paymentFailedSchema, seatHeldSchema, seatReleasedSchema,
   seatReservedSchema]

/-- **The union of schemas accepts an event iff the schema it names does.** -/
theorem anyEvent_accepts (fmt : Formats) (e : Event) :
    anyEvent.any (·.accepts fmt e.toJson) = e.conforms fmt := by
  cases e <;>
    simp [anyEvent, Event.conforms, Event.namedSchema, Schema.accepts, seatHeldSchema,
      seatReleasedSchema, seatReservedSchema, paymentSucceededSchema, paymentFailedSchema,
      baseMeta, Event.toJson, Check.accepts, List.lookup_cons]

/-- The date is written with a four-digit year. -/
def HasFourDigitYear (t : Nat) : Prop := (dateOf t).year ≤ 9999

instance (t : Nat) : Decidable (HasFourDigitYear t) := inferInstanceAs (Decidable (_ ≤ _))

/-- What the schema asks of the members that are not an id or a date of the event. -/
def Event.BodyOk : Event → Prop
  | .seatHeld e => isUuidText e.seatId = true ∧ HasFourDigitYear e.heldUntil ∧
      utf16Length e.currency = 3
  | .seatReleased e => e.reason ∈ ["expired", "payment_failed", "user_cancelled", "sweeper"]
  | .seatReserved _ => True
  | .paymentSucceeded e => utf16Length e.currency = 3
  | .paymentFailed _ => True

/-- **An event conforms iff its trace id is a UUID text, its dates have four-digit
    years and its body is as the schema asks.**  Its ids always are. -/
theorem Formats.Documented.conforms_iff {fmt : Formats} (h : fmt.Documented) (e : Event) :
    e.conforms fmt = true ↔
      isUuidText e.traceId = true ∧ HasFourDigitYear e.occurredAt ∧ e.BodyOk := by
  cases e <;>
    simp [Event.conforms, Event.namedSchema, Schema.accepts, seatHeldSchema, seatReleasedSchema,
      seatReservedSchema, paymentSucceededSchema, paymentFailedSchema, baseMeta, Event.toJson,
      Check.accepts, List.lookup_cons, uuidMember, dateMember, Event.traceId, Event.occurredAt,
      Event.BodyOk, HasFourDigitYear, h.uuid, h.datetime, Uuid.isUuidText_toString]

/-! ### Exchanges, queues and routing keys -/

def seatEventsExchange : String := "seat.events"
def paymentEventsExchange : String := "payment.events"
def seatPaymentEventsQueue : String := "seat.payment-events"
def paymentSeatEventsQueue : String := "payment.seat-events"

/-- `event_type.replace(/\.v\d+$/, '')`. -/
def routingKeyOf (eventType : String) : String :=
  let reversed := eventType.toList.reverse
  let tail := reversed.dropWhile fun c => (decimalValue c).isSome
  match tail with
  | 'v' :: '.' :: rest =>
      if tail.length < reversed.length then String.ofList rest.reverse else eventType
  | _ => eventType

/-- `event_type.startsWith(start)`. -/
def startsWith (eventType start : String) : Bool := start.toList.isPrefixOf eventType.toList

/-- The bindings both services declare: queue, exchange, routing key. -/
def bindings : List (String × String × String) :=
  [(seatPaymentEventsQueue, paymentEventsExchange, "payment.succeeded"),
   (seatPaymentEventsQueue, paymentEventsExchange, "payment.failed"),
   (paymentSeatEventsQueue, seatEventsExchange, "seat.released")]

/-- Is a message published to `exchange` under `key` put into `queue`? -/
def isRouted (queue exchange key : String) : Bool := bindings.contains (queue, exchange, key)

end SeatReservation
