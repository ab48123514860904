import SeatReservation.JsonQuotes
import SeatReservation.JsStrings
import Mathlib.Logic.Function.Basic

/-!
# The webhook signature binds the event

`constructEventFromWebhook` checks an HMAC over `t`, a full stop and the body,
and nothing checks `t`.  So a signed text could be divided at another full stop,
but the rest behind it is then no JSON object: a JSON text behind a full stop of
another one starts with a digit (`digit_of_split`).

HMAC-SHA256 is a parameter, of the secret and the text.  A body is the string
its UTF-8 bytes encode, and a header any string of scalar values, so also the
Latin-1 strings Node reads headers as.
-/

namespace SeatReservation

open JsStrings

/-! ### Node's hexadecimal encoding -/

def toHex (bytes : List UInt8) : String :=
  .ofList (bytes.flatMap fun b => [(b.toNat / 16).digitChar, (b.toNat % 16).digitChar])

/-- Ends at the first pair that is not hexadecimal and drops a single digit at the end. -/
def decodeHex : List Char → List UInt8
  | a :: b :: rest =>
      match Json.hexDigit a, Json.hexDigit b with
      | some a, some b => .ofNat (a * 16 + b) :: decodeHex rest
      | _, _ => []
  | _ => []

/-- `Buffer.from(s, 'hex')` -/
def bufferFromHex (s : String) : List UInt8 := decodeHex s.toList

/-! ### The PSP client -/

structure SignatureHeader where
  t : Option String
  v1 : Option String
deriving DecidableEq, Repr

/-- `const [k, v] = p.split('=')`, then the assignments to `t` and `v1`. -/
def SignatureHeader.read (h : SignatureHeader) (p : String) : SignatureHeader :=
  let k := (split '=' p)[0]?
  let v := (split '=' p)[1]?
  ⟨if k = some "t" then v else h.t, if k = some "v1" then v else h.v1⟩

def parseSignature (signature : String) : SignatureHeader :=
  ((split ',' signature).map trim).foldl SignatureHeader.read ⟨none, none⟩

/-- The strings that are not falsy. -/
def truthy (s : Option String) : Option String := s.filter (· ≠ "")

def created : Json.Units := "created".toList.flatMap Json.utf16

/-- A property of a parsed value; of two members with one name the last counts. -/
def Json.Value.get? : Json.Value → Json.Units → Option Json.Value
  | .object members, key => (members.reverse.find? (·.1 == key)).map (·.2)
  | _, _ => none

/-- `typeof parsed.created === 'number'` -/
def hasNumericCreated (parsed : Json.Value) : Bool :=
  match parsed.get? created with
  | some (.number _) => true
  | _ => false

inductive WebhookFailure where
  | error (message : String)
  | syntaxError
  | typeError
deriving DecidableEq, Repr

structure MockPSPClient where
  webhookSecret : String

section Client

variable (hmacSha256 : String → String → List UInt8) (psp : MockPSPClient)

def constructEventFromWebhook (rawBody signature : String) : Except WebhookFailure Json.Value :=
  let header := parseSignature signature
  match truthy header.t, truthy header.v1 with
  | some t, some v1 =>
      let expected := toHex (hmacSha256 psp.webhookSecret (t ++ "." ++ rawBody))
      let a := bufferFromHex v1
      let b := bufferFromHex expected
      if a.length ≠ b.length ∨ a ≠ b then .error (.error "invalid_signature")
      else
        match Json.parse rawBody.toList with
        | none => .error .syntaxError
        | some .null => .error .typeError
        | some parsed =>
            if hasNumericCreated parsed then .ok parsed
            else .error (.error "missing_created")
  | _, _ => .error (.error "malformed_signature")

end Client

/-! ### Reading headers -/

theorem hexDigit_digitChar {n : Nat} (h : n < 16) : Json.hexDigit n.digitChar = some n := by
  revert n
  decide

theorem bufferFromHex_toHex (bytes : List UInt8) : bufferFromHex (toHex bytes) = bytes := by
  rw [bufferFromHex, toHex, String.toList_ofList]
  induction bytes with
  | nil => rfl
  | cons b bytes ih =>
    have hlt := b.toNat_lt
    have hhigh : Json.hexDigit (b.toNat / 16).digitChar = some (b.toNat / 16) :=
      hexDigit_digitChar (by omega)
    have hlow : Json.hexDigit (b.toNat % 16).digitChar = some (b.toNat % 16) :=
      hexDigit_digitChar (by omega)
    have hb : b.toNat / 16 * 16 + b.toNat % 16 = b.toNat := by omega
    rw [List.flatMap_cons, List.cons_append, List.cons_append, List.nil_append, decodeHex, hhigh,
      hlow]
    simp only [hb, ih, UInt8.ofNat_toNat]

/-- A hexadecimal digest has digits only. -/
theorem mem_toHex {bytes : List UInt8} {c : Char} (h : c ∈ (toHex bytes).toList) :
    ∃ n, n < 16 ∧ c = n.digitChar := by
  simp only [toHex, String.toList_ofList, List.mem_flatMap, List.mem_cons, List.not_mem_nil,
    or_false] at h
  obtain ⟨b, -, rfl | rfl⟩ := h
  · exact ⟨b.toNat / 16, by have := b.toNat_lt; omega, rfl⟩
  · exact ⟨b.toNat % 16, by omega, rfl⟩

theorem digitChar_plain : ∀ n < 16, isWhiteSpace n.digitChar = false ∧ n.digitChar ≠ ',' ∧
    n.digitChar ≠ '=' := by
  decide

theorem toHex_ne_empty {bytes : List UInt8} (h : bytes ≠ []) : toHex bytes ≠ "" := by
  intro hempty
  have hdecoded := bufferFromHex_toHex bytes
  rw [hempty] at hdecoded
  exact h hdecoded.symm

theorem trim_toHex (bytes : List UInt8) : trim (toHex bytes) = toHex bytes := by
  refine trim_eq_self_of_forall fun c hc => ?_
  obtain ⟨n, hn, rfl⟩ := mem_toHex hc
  exact (digitChar_plain n hn).1

theorem comma_notMem_toHex (bytes : List UInt8) : ',' ∉ (toHex bytes).toList := by
  intro hmem
  obtain ⟨n, hn, heq⟩ := mem_toHex hmem
  exact (digitChar_plain n hn).2.1 heq.symm

theorem equals_notMem_toHex (bytes : List UInt8) : '=' ∉ (toHex bytes).toList := by
  intro hmem
  obtain ⟨n, hn, heq⟩ := mem_toHex hmem
  exact (digitChar_plain n hn).2.2 heq.symm

/-- The two parts of a header that says nothing else. -/
theorem parseSignature_eq {t : String} {bytes : List UInt8} (hne : t ≠ "") (hcomma : ',' ∉ t.toList)
    (hequals : '=' ∉ t.toList) (htrim : trim t = t) (hbytes : bytes ≠ []) :
    parseSignature ("t=" ++ t ++ ",v1=" ++ toHex bytes) = ⟨some t, some (toHex bytes)⟩ := by
  have hparts : split ',' ("t=" ++ t ++ ",v1=" ++ toHex bytes) =
      ["t=" ++ t, "v1=" ++ toHex bytes] := by
    rw [@split_eq_cons _ _ ("t=" ++ t) ("v1=" ++ toHex bytes) (by simpa using hcomma) (by simp),
      split_eq_singleton (by simpa using comma_notMem_toHex bytes)]
  have ht : trim ("t=" ++ t) = "t=" ++ t := trim_append (c := 't') rfl (by decide) hne htrim
  have hv1 : trim ("v1=" ++ toHex bytes) = "v1=" ++ toHex bytes :=
    trim_append (c := 'v') rfl (by decide) (toHex_ne_empty hbytes) (trim_toHex bytes)
  have hkt : split '=' ("t=" ++ t) = ["t", t] := by
    rw [@split_eq_cons _ _ "t" t (by decide) (by simp), split_eq_singleton hequals]
  have hkv1 : split '=' ("v1=" ++ toHex bytes) = ["v1", toHex bytes] := by
    rw [@split_eq_cons _ _ "v1" (toHex bytes) (by decide) (by simp),
      split_eq_singleton (equals_notMem_toHex bytes)]
  simp [parseSignature, hparts, ht, hv1, SignatureHeader.read, hkt, hkv1]

/-! ### Accepted calls -/

theorem truthy_eq_some {s : Option String} {text : String} :
    truthy s = some text ↔ s = some text ∧ text ≠ "" := by
  simp [truthy, Option.filter_eq_some_iff]

theorem exists_members_of_hasNumericCreated {parsed : Json.Value}
    (h : hasNumericCreated parsed = true) : ∃ members, parsed = .object members := by
  cases parsed with
  | object members => exact ⟨members, rfl⟩
  | null | bool _ | number _ | string _ | array _ => cases h

section Accepted

variable {hmacSha256 : String → String → List UInt8} {psp : MockPSPClient}

theorem constructEventFromWebhook_eq_ok {rawBody signature : String} {event : Json.Value} :
    constructEventFromWebhook hmacSha256 psp rawBody signature = .ok event ↔
      ∃ t v1, parseSignature signature = ⟨some t, some v1⟩ ∧ t ≠ "" ∧ v1 ≠ "" ∧
        bufferFromHex v1 = hmacSha256 psp.webhookSecret (t ++ "." ++ rawBody) ∧
        Json.parse rawBody.toList = some event ∧ hasNumericCreated event = true := by
  constructor
  · intro h
    rw [constructEventFromWebhook] at h
    dsimp only at h
    split at h
    · next t v1 ht hv1 =>
      rw [truthy_eq_some] at ht hv1
      rw [bufferFromHex_toHex] at h
      split at h
      · cases h
      · next hsame =>
        rw [not_or, Decidable.not_not, Decidable.not_not] at hsame
        split at h
        · cases h
        · cases h
        · next parsed _ hparse =>
          split at h
          · next hcreated =>
            cases h
            exact ⟨t, v1, by rw [← ht.1, ← hv1.1], ht.2, hv1.2, hsame.2, hparse, hcreated⟩
          · cases h
    · cases h
  · rintro ⟨t, v1, hheader, ht, hv1, hdigest, hparse, hcreated⟩
    obtain ⟨members, rfl⟩ := exists_members_of_hasNumericCreated hcreated
    have htruthy : truthy (some t) = some t := truthy_eq_some.mpr ⟨rfl, ht⟩
    have htruthy' : truthy (some v1) = some v1 := truthy_eq_some.mpr ⟨rfl, hv1⟩
    simp [constructEventFromWebhook, hheader, htruthy, htruthy', bufferFromHex_toHex, hdigest,
      hparse, hcreated]

end Accepted

/-! ### A signed text has one division -/

/-- Of the two bodies in one signed text neither is a proper part of the other one. -/
theorem body_not_inside {text s : List Char} {ms ms' : List (Json.Units × Json.Value)}
    (h : Json.Derives (.element (.object ms)) (s ++ '.' :: text)) :
    ¬ Json.Derives (.element (.object ms')) text := by
  intro h'
  obtain ⟨d, t, htext, hd⟩ := Json.digit_of_split h h'
  rw [Json.not_digit_of_object h' htext] at hd
  cases hd

theorem eq_or_inside {s text text' : List Char} (h : '.' :: text = s ++ '.' :: text') :
    text = text' ∨ ∃ s', text = s' ++ '.' :: text' := by
  cases s with
  | nil =>
    cases h
    exact .inl rfl
  | cons c s' =>
    cases h
    exact .inr ⟨s', rfl⟩

theorem body_eq_of_signed_eq {t t' body body' : String}
    {ms ms' : List (Json.Units × Json.Value)}
    (h : Json.Derives (.element (.object ms)) body.toList)
    (h' : Json.Derives (.element (.object ms')) body'.toList)
    (hsigned : t ++ "." ++ body = t' ++ "." ++ body') : body = body' := by
  have hlist := congrArg String.toList hsigned
  have hpoint : ".".toList = ['.'] := rfl
  simp only [String.toList_append, hpoint, List.append_assoc, List.singleton_append] at hlist
  refine String.toList_inj.mp ?_
  rcases List.append_eq_append_iff.mp hlist with ⟨s, -, heq⟩ | ⟨s, -, heq⟩
  · rcases eq_or_inside heq with heq | ⟨s', heq⟩
    · exact heq
    · rw [heq] at h
      exact absurd h' (body_not_inside h)
  · rcases eq_or_inside heq with heq | ⟨s', heq⟩
    · exact heq.symm
    · rw [heq] at h'
      exact absurd h (body_not_inside h')

/-- Every event signed in the documented format is returned, and of the calls
    with one digest all return the same event. -/
theorem signature_binds_event (hmacSha256 : String → String → List UInt8) (psp : MockPSPClient)
    (hinjective : Function.Injective (hmacSha256 psp.webhookSecret))
    (hdigest : ∀ text, hmacSha256 psp.webhookSecret text ≠ []) :
    (∀ body event t, Json.Derives (.element event) body.toList → hasNumericCreated event = true →
      t ≠ "" → ',' ∉ t.toList → '=' ∉ t.toList → trim t = t →
      Json.parse body.toList = some event ∧
      constructEventFromWebhook hmacSha256 psp body ("t=" ++ t ++ ",v1=" ++
        toHex (hmacSha256 psp.webhookSecret (t ++ "." ++ body))) = .ok event) ∧
    (∀ body signature event body' signature' event',
      constructEventFromWebhook hmacSha256 psp body signature = .ok event →
      constructEventFromWebhook hmacSha256 psp body' signature' = .ok event' →
      (parseSignature signature).v1.map bufferFromHex =
        (parseSignature signature').v1.map bufferFromHex →
      event = event') := by
  constructor
  · intro body event t hbody hcreated ht hcomma hequals htrim
    have hparse := Json.parse_eq_some_iff.mpr hbody
    have hbytes := hdigest (t ++ "." ++ body)
    exact ⟨hparse, constructEventFromWebhook_eq_ok.mpr
      ⟨t, _, parseSignature_eq ht hcomma hequals htrim hbytes, ht, toHex_ne_empty hbytes,
        bufferFromHex_toHex _, hparse, hcreated⟩⟩
  · intro body signature event body' signature' event' h h' hsame
    obtain ⟨t, v1, hheader, -, -, hmac, hparse, hcreated⟩ :=
      constructEventFromWebhook_eq_ok.mp h
    obtain ⟨t', v1', hheader', -, -, hmac', hparse', hcreated'⟩ :=
      constructEventFromWebhook_eq_ok.mp h'
    obtain ⟨members, rfl⟩ := exists_members_of_hasNumericCreated hcreated
    obtain ⟨members', rfl⟩ := exists_members_of_hasNumericCreated hcreated'
    rw [hheader, hheader', Option.map_some, Option.map_some, Option.some.injEq, hmac,
      hmac'] at hsame
    have hbody : body = body' := body_eq_of_signed_eq (Json.parse_eq_some_iff.mp hparse)
      (Json.parse_eq_some_iff.mp hparse') (hinjective hsame)
    rw [hbody, hparse', Option.some.injEq] at hparse
    exact hparse.symm

/-- `{"created":1.5}`, which has a full stop of its own. -/
def sampleBody : String := "\x7b\"created\":1.5\x7d"

/-- The HMAC-SHA256 of that body, signed at 1 under the secret below. -/
def sampleDigest : List UInt8 :=
  [107, 67, 9, 54, 143, 149, 38, 141, 241, 138, 218, 32, 119, 132, 46, 192, 111, 124, 233, 31, 7,
    127, 67, 97, 175, 142, 212, 32, 105, 112, 203, 50]

def sampleClient : MockPSPClient := ⟨"test-psp-webhook-secret-32-chars"⟩

/-- Right for that secret and text, and elsewhere the text itself. -/
def sampleHmac (secret text : String) : List UInt8 :=
  if secret = sampleClient.webhookSecret ∧ text = "1." ++ sampleBody then sampleDigest
  else 0 :: text.toByteArray.data.toList

theorem sampleHmac_injective (secret : String) : Function.Injective (sampleHmac secret) := by
  intro text text' h
  unfold sampleHmac at h
  split at h <;> split at h
  · next htext htext' => rw [htext.2, htext'.2]
  · cases h
  · cases h
  · rw [List.cons.injEq, Array.toList_inj, ByteArray.ext_iff.symm, String.toByteArray_inj] at h
    exact h.2

theorem sampleHmac_ne_nil (secret text : String) : sampleHmac secret text ≠ [] := by
  unfold sampleHmac
  split
  · decide
  · exact List.cons_ne_nil _ _

def sampleEvent : Json.Value := .object [(created, .number ['1', '.', '5'])]

/-- The event signed in the documented format is returned, and whatever else is
    accepted with its digest is this event. -/
theorem sample_bound :
    constructEventFromWebhook sampleHmac sampleClient sampleBody
      ("t=1,v1=" ++ toHex sampleDigest) = .ok sampleEvent ∧
    ∀ body signature event,
      constructEventFromWebhook sampleHmac sampleClient body signature = .ok event →
      (parseSignature signature).v1.map bufferFromHex = some sampleDigest →
      event = sampleEvent := by
  have hbinds := signature_binds_event sampleHmac sampleClient (sampleHmac_injective _)
    (sampleHmac_ne_nil _)
  have hparse : Json.parse sampleBody.toList = some sampleEvent := rfl
  have hsigned := (hbinds.1 _ sampleEvent "1" (Json.parse_eq_some_iff.mp hparse) rfl
    (by decide) (by decide) (by decide) (by decide)).2
  have hdigest : sampleHmac sampleClient.webhookSecret ("1" ++ "." ++ sampleBody) = sampleDigest :=
    if_pos ⟨rfl, by decide⟩
  have hheader : parseSignature ("t=" ++ "1" ++ ",v1=" ++ toHex sampleDigest) =
      ⟨some "1", some (toHex sampleDigest)⟩ :=
    parseSignature_eq (by decide) (by decide) (by decide) (by decide) (by decide)
  rw [hdigest] at hsigned
  refine ⟨hsigned, fun body signature event haccepted hsame => ?_⟩
  refine hbinds.2 _ _ _ _ _ _ haccepted hsigned ?_
  rw [hsame, hheader, Option.map_some, bufferFromHex_toHex]

end SeatReservation
