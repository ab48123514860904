import SeatReservation.WebhookSignature
import SeatReservation.PaymentInvariants

/-!
# The webhook endpoint

`WebhooksController.webhook` from the raw body and the header to its answer.  The
handler takes what the PSP client hands it for a `PSPWebhookEvent` without looking:
an id and a type that are strings, a time that is an integer, and nothing that a
JSONB column refuses.  What it does with anything else that carries a signature is a
parameter, and `InterfaceOnly` says that there is no such thing.
-/

namespace SeatReservation

open Relational

/-! ### Reading an event -/

namespace Json

def isHighSurrogate (u : UInt16) : Bool := 0xD800 ≤ u && u < 0xDC00

def isLowSurrogate (u : UInt16) : Bool := 0xDC00 ≤ u && u < 0xE000

/-- The characters of a string that Postgres can store, without NUL and lone surrogates. -/
def characters : Units → Option (List Char)
  | [] => some []
  | [u] =>
      if u == 0 || isHighSurrogate u || isLowSurrogate u then none else some [.ofNat u.toNat]
  | u :: v :: rest =>
      if isHighSurrogate u && isLowSurrogate v then
        (characters rest).map
          (.ofNat (0x10000 + (u.toNat - 0xD800) * 0x400 + (v.toNat - 0xDC00)) :: ·)
      else if u == 0 || isHighSurrogate u || isLowSurrogate u then none
      else (characters (v :: rest)).map (.ofNat u.toNat :: ·)

mutual

/-- Every string of the value can be stored. -/
def Value.isStorable : Value → Bool
  | .string units => (characters units).isSome
  | .array elements => elementsStorable elements
  | .object members => membersStorable members
  | .null | .bool _ | .number _ => true

def elementsStorable : List Value → Bool
  | [] => true
  | value :: rest => value.isStorable && elementsStorable rest

def membersStorable : List (Units × Value) → Bool
  | [] => true
  | (name, value) :: rest =>
      (characters name).isSome && value.isStorable && membersStorable rest

end

def Value.text? : Value → Option String
  | .string units => (characters units).map String.ofList
  | _ => none

def natOfDigits (digits : List Char) : Nat :=
  digits.foldl (fun n d => n * 10 + (d.toNat - 48)) 0

/-- A number written without fraction and exponent. -/
def Value.integer? : Value → Option Int
  | .number ('-' :: digits) => if isDigits digits then some (-(natOfDigits digits : Int)) else none
  | .number digits => if isDigits digits then some (natOfDigits digits) else none
  | _ => none

/-- The code units of a key. -/
def key (name : String) : Units := name.toList.flatMap utf16

end Json

/-- `event.data.object.id`: a property of `undefined` or `null` cannot be read. -/
def objectIdOf (event : Json.Value) : Option ObjectId :=
  match event.get? (Json.key "data") with
  | none | some .null => some .unreadable
  | some data =>
      match data.get? (Json.key "object") with
      | none | some .null => some .unreadable
      | some object =>
          match object.get? (Json.key "id") with
          | none | some .null => some .absent
          | some id => id.text?.map .text

def PSPWebhookEvent.ofJson (event : Json.Value) : Option PSPWebhookEvent := do
  let id ← (← event.get? (Json.key "id")).text?
  let type ← (← event.get? (Json.key "type")).text?
  let time ← (← event.get? SeatReservation.created).integer?
  let objectId ← objectIdOf event
  if event.isStorable then some ⟨id, type, time, objectId⟩ else none

/-- The event a body says. -/
def eventOf (body : String) : Option PSPWebhookEvent :=
  (Json.parse body.toList).bind PSPWebhookEvent.ofJson

theorem exists_members_of_ofJson {value : Json.Value} {event : PSPWebhookEvent}
    (h : PSPWebhookEvent.ofJson value = some event) : ∃ members, value = .object members := by
  cases value with
  | object members => exact ⟨members, rfl⟩
  | _ => simp [PSPWebhookEvent.ofJson, Json.Value.get?] at h

/-- A body that says an event is the text of a JSON object. -/
theorem derives_of_eventOf {body : String} {event : PSPWebhookEvent}
    (h : eventOf body = some event) :
    ∃ members, Json.Derives (.element (.object members)) body.toList := by
  obtain ⟨value, hparse, hevent⟩ := Option.bind_eq_some_iff.mp h
  obtain ⟨members, rfl⟩ := exists_members_of_ofJson hevent
  exact ⟨members, Json.parse_eq_some_iff.mp hparse⟩

/-! ### The handler -/

inductive WebhookResponse where
  | received (deduplicated : Bool)
  | unauthorized (message : String)
  | badRequest (message : String)
  | internalError
deriving DecidableEq, Repr

section Handler

variable (hmacSha256 : String → String → List UInt8) (psp : MockPSPClient)
  (offInterface : Json.Value → Option String → Uuid → Nat → PaymentService →
    WebhookResponse × PaymentService)

/-- `webhook`, for the raw body and the headers `stripe-signature` and `x-request-id`. -/
def webhookRequest (env : PaymentEnv) (rawBody signature header : Option String)
    (traceDraw : Uuid) (now : Nat) (s : PaymentService) : WebhookResponse × PaymentService :=
  match truthy signature with
  | none => (.unauthorized "missing_signature", s)
  | some signature =>
      match rawBody with
      | none => (.badRequest "raw_body_required", s)
      | some rawBody =>
          match constructEventFromWebhook hmacSha256 psp rawBody signature with
          | .error _ => (.unauthorized "invalid_signature", s)
          | .ok value =>
              match PSPWebhookEvent.ofJson value with
              | none => offInterface value header traceDraw now s
              | some event =>
                  if (now : Int) - event.created * 1000 > env.webhookToleranceMs then
                    (.unauthorized "stale_event", s)
                  else
                    match insertWebhookInbox event now s.db with
                    | (false, _) => (.received true, s)
                    | (true, db) =>
                        (.received false,
                          { s with
                            db := db
                            tasks := s.tasks ++
                              [⟨event, resolveTraceId header traceDraw, false⟩] })

/-- The request carries a signature of its body under the secret, and the body says an event
    that is not too old. -/
structure Verified (env : PaymentEnv) (rawBody signature : Option String) (now : Nat)
    (event : PSPWebhookEvent) (body t v1 : String) : Prop where
  raw : rawBody = some body
  header : signature.map parseSignature = some ⟨some t, some v1⟩
  digest : bufferFromHex v1 = hmacSha256 psp.webhookSecret (t ++ "." ++ body)
  reads : eventOf body = some event
  fresh : (now : Int) - event.created * 1000 ≤ env.webhookToleranceMs

/-- Whatever verifies is an event of the interface. -/
def InterfaceOnly (rawBody signature : Option String) : Prop :=
  ∀ body ∈ rawBody, ∀ header ∈ signature,
    ∀ value ∈ (constructEventFromWebhook hmacSha256 psp body header).toOption,
      (PSPWebhookEvent.ofJson value).isSome = true

instance (rawBody signature : Option String) :
    Decidable (InterfaceOnly hmacSha256 psp rawBody signature) :=
  inferInstanceAs (Decidable (∀ body ∈ rawBody, ∀ header ∈ signature,
    ∀ value ∈ (constructEventFromWebhook hmacSha256 psp body header).toOption,
      (PSPWebhookEvent.ofJson value).isSome = true))

variable {hmacSha256 psp offInterface}

/-- **What a request does.**  A new verified event goes into the inbox and to `processEvent`
    and is answered as new; every other request changes nothing. -/
theorem webhookRequest_cases (env : PaymentEnv) (rawBody signature header : Option String)
    (traceDraw : Uuid) (now : Nat) (s : PaymentService)
    (hevents : InterfaceOnly hmacSha256 psp rawBody signature) :
    (∃ event body t v1, Verified hmacSha256 psp env rawBody signature now event body t v1 ∧
      (∀ r ∈ s.db.inbox, r.stripeEventId ≠ event.id) ∧
      webhookRequest hmacSha256 psp offInterface env rawBody signature header traceDraw now s =
        (.received false, webhook env event header traceDraw now s) ∧
      (webhook env event header traceDraw now s).db.inbox =
        s.db.inbox ++ [⟨event.id, event.type, event, now, none⟩]) ∨
    ((webhookRequest hmacSha256 psp offInterface env rawBody signature header traceDraw now s).2 =
        s ∧
      (webhookRequest hmacSha256 psp offInterface env rawBody signature header traceDraw now s).1 ≠
        .received false) := by
  unfold webhookRequest
  split
  · exact .inr ⟨rfl, by simp⟩
  · rename_i signature hsignature
    obtain ⟨rfl, -⟩ := truthy_eq_some.mp hsignature
    split
    · exact .inr ⟨rfl, by simp⟩
    · rename_i body
      split
      · exact .inr ⟨rfl, by simp⟩
      · rename_i value hvalue
        obtain ⟨t, v1, hheader, -, -, hdigest, hparse, -⟩ :=
          constructEventFromWebhook_eq_ok.mp hvalue
        split
        · -- Only an event of the interface has got this far.
          rename_i hnone
          have hsome := hevents body rfl signature rfl value (by rw [hvalue]; rfl)
          rw [hnone] at hsome
          cases hsome
        · rename_i event hevent
          split
          · exact .inr ⟨rfl, by simp⟩
          · rename_i hfresh
            have hverified : Verified hmacSha256 psp env (some body) (some signature) now event
                body t v1 :=
              ⟨rfl, by rw [Option.map_some, hheader], hdigest,
                by rw [eventOf, hparse, Option.bind_some, hevent], by omega⟩
            by_cases hdup : (s.db.inbox.any fun r => r.stripeEventId == event.id) = true
            · have hinsert : insertWebhookInbox event now s.db = (false, s.db) := if_pos hdup
              rw [hinsert]
              exact .inr ⟨rfl, by simp⟩
            · have hinsert : insertWebhookInbox event now s.db = (true, { s.db with
                  inbox := s.db.inbox ++ [⟨event.id, event.type, event, now, none⟩] }) :=
                if_neg hdup
              refine .inl ⟨event, body, t, v1, hverified, by simpa using hdup, ?_, ?_⟩
              · rw [webhook, if_neg hfresh, hinsert]
              · rw [webhook, if_neg hfresh, hinsert]

end Handler

end SeatReservation
