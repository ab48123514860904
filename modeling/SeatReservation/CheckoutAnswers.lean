import SeatReservation.PaymentSafety

/-!
# What a checkout answers

A 200 answer of `checkout` shows an intent: the one just inserted, or the one an
earlier request stored under the same idempotency key.  Both lookups of the
handler select by the key alone, so the answer is about the request that first
used the key, which need not be the request being answered
(`checkout_answers`).  It never shows an intent stored under another key, and
no such intent has a part in it.
-/

namespace SeatReservation

open Relational TransitionSystem

/-- The intent was made for this request. -/
structure PaymentIntentRow.MadeFor (i : PaymentIntentRow) (r : CheckoutRequest) : Prop where
  userId : i.userId = r.userId
  seatId : i.seatId = r.dto.seatId
  holdId : i.holdId = r.dto.holdId
  idempotencyKey : i.idempotencyKey = r.dto.idempotencyKey.uuid

/-- The same user with the same body, up to the spelling of the key. -/
structure CheckoutRequest.SameAs (r r' : CheckoutRequest) : Prop where
  userId : r.userId = r'.userId
  seatId : r.dto.seatId = r'.dto.seatId
  holdId : r.dto.holdId = r'.dto.holdId
  idempotencyKey : r.dto.idempotencyKey.uuid = r'.dto.idempotencyKey.uuid

theorem PaymentIntentRow.MadeFor.of_same {i : PaymentIntentRow} {r r' : CheckoutRequest}
    (h : i.MadeFor r) (hsame : r.SameAs r') : i.MadeFor r' where
  userId := h.userId.trans hsame.userId
  seatId := h.seatId.trans hsame.seatId
  holdId := h.holdId.trans hsame.holdId
  idempotencyKey := h.idempotencyKey.trans hsame.idempotencyKey

/-- The answer has status 200. -/
def CheckoutResponse.isOk : CheckoutResponse → Bool
  | .ok .. => true
  | _ => false

/-- The answer shows an intent stored under the key of the request, and one made for
    the request itself when it says that the intent is new. -/
def CheckoutResponse.AnswersByKey (response : CheckoutResponse) (r : CheckoutRequest)
    (intents : List PaymentIntentRow) : Prop :=
  ∃ i ∈ intents, ∃ idempotent, response = .ofIntent i idempotent ∧
    i.idempotencyKey = r.dto.idempotencyKey.uuid ∧ (idempotent = false → i.MadeFor r)

/-! ### One step -/

theorem findByIdempotencyKey_eq_some {key : Uuid} {db : PaymentDb} {i : PaymentIntentRow}
    (h : findByIdempotencyKey key db = some i) : i ∈ db.intents ∧ i.idempotencyKey = key := by
  constructor
  · exact List.mem_of_find?_eq_some h
  · simpa using List.find?_some h

/-- A lookup by the key of the request finds what may be answered. -/
theorem AnswersByKey.of_find {r : CheckoutRequest} {db : PaymentDb} {i : PaymentIntentRow}
    (h : findByIdempotencyKey r.dto.idempotencyKey.uuid db = some i) :
    (CheckoutResponse.ofIntent i true).AnswersByKey r db.intents := by
  obtain ⟨hmem, hkey⟩ := findByIdempotencyKey_eq_some h
  exact ⟨i, hmem, true, rfl, hkey, by simp⟩

/-- How the step that answers a checkout comes to its answer. -/
inductive CheckoutAnswer (d : CheckoutDraw) (c : Checkout) (db : PaymentDb) :
    CheckoutResponse → PaymentDb → Prop where
  | found (i : PaymentIntentRow)
      (hfind : findByIdempotencyKey c.request.dto.idempotencyKey.uuid db = some i) :
      CheckoutAnswer d c db (.ofIntent i true) db
  | created (price : SeatPrice) (pspIntentId clientSecret : String)
      (hfree : intentViolation db.intents
        (newIntent c.request price pspIntentId clientSecret d.intentId) = none) :
      CheckoutAnswer d c db
        (.ofIntent (newIntent c.request price pspIntentId clientSecret d.intentId) false)
        { db with intents :=
            db.intents ++ [newIntent c.request price pspIntentId clientSecret d.intentId] }
  | refused (response : CheckoutResponse) (hrefused : response.isOk = false) :
      CheckoutAnswer d c db response db

theorem checkoutStep_answer {d : CheckoutDraw} {c : Checkout} {db : PaymentDb}
    {response : CheckoutResponse} (hopen : ∀ response, c.stage ≠ .done response)
    (hdone : (checkoutStep d c db).1.stage = .done response) :
    CheckoutAnswer d c db response (checkoutStep d c db).2 := by
  obtain ⟨request, stage⟩ := c
  unfold checkoutStep at hdone ⊢
  cases stage with
  | started =>
    dsimp only at hdone ⊢
    cases hfind : findByIdempotencyKey request.dto.idempotencyKey.uuid db with
    | none => rw [hfind] at hdone; cases hdone
    | some i =>
      rw [hfind] at hdone
      cases hdone
      exact .found i hfind
  | missed =>
    dsimp only at hdone ⊢
    split at hdone
    · cases hdone
    · cases hdone
      exact .refused _ rfl
  | priced price =>
    dsimp only at hdone ⊢
    split at hdone
    · cases hdone
    · rename_i hdown
      cases hdone
      rw [if_neg hdown]
      exact .refused _ rfl
  | pspCalled price pspIntentId clientSecret =>
    dsimp only at hdone ⊢
    unfold createIntent at hdone ⊢
    cases hviol : intentViolation db.intents
        (newIntent request price pspIntentId clientSecret d.intentId) with
    | none =>
      rw [hviol] at hdone
      cases hdone
      exact .created price pspIntentId clientSecret hviol
    | some err =>
      rw [hviol] at hdone
      dsimp only at hdone ⊢
      split at hdone
      · cases hdone
      · rename_i hcode
        cases hdone
        rw [if_neg hcode]
        exact .refused _ rfl
  | raced =>
    dsimp only at hdone ⊢
    cases hfind : findByIdempotencyKey request.dto.idempotencyKey.uuid db with
    | none =>
      rw [hfind] at hdone
      cases hdone
      exact .refused _ rfl
    | some i =>
      rw [hfind] at hdone
      cases hdone
      exact .found i hfind
  | done response' => exact absurd rfl (hopen response')

/-- A 200 answer shows an intent of the request's key. -/
theorem checkoutStep_answersByKey {d : CheckoutDraw} {c : Checkout} {db : PaymentDb}
    {response : CheckoutResponse} (hdone : (checkoutStep d c db).1.stage = .done response)
    (hok : response.isOk = true) :
    c.stage = .done response ∨
      response.AnswersByKey c.request (checkoutStep d c db).2.intents := by
  by_cases hopen : ∀ response, c.stage ≠ .done response
  · right
    have hanswer := checkoutStep_answer hopen hdone
    generalize (checkoutStep d c db).2 = db' at hanswer
    cases hanswer with
    | found i hfind => exact AnswersByKey.of_find hfind
    | created price pspIntentId clientSecret hfree =>
      refine ⟨newIntent c.request price pspIntentId clientSecret d.intentId, ?_, false, rfl,
        rfl, fun _ => ⟨rfl, rfl, rfl, rfl⟩⟩
      exact List.mem_append_right _ List.mem_cons_self
    | refused _ hrefused => rw [hrefused] at hok; cases hok
  · left
    push Not at hopen
    obtain ⟨response', hstage⟩ := hopen
    simpa only [checkoutStep, hstage] using hdone

/-- An intent after an action is still there, perhaps ended. -/
theorem IntentChange.persists {s : PaymentService} {intents : List PaymentIntentRow}
    (hchange : IntentChange s intents) {i : PaymentIntentRow} (hi : i ∈ s.db.intents) :
    i ∈ intents ∨ ∃ status now, i.close status now ∈ intents := by
  cases hchange with
  | closed p status now hpending hstatus =>
    by_cases hp : p i = true
    · exact Or.inr ⟨status, now, mem_update_of_mem hi hp⟩
    · exact Or.inl (mem_update.mpr (Or.inr ⟨hi, by simpa using hp⟩))
  | created c price pspIntentId clientSecret intentId hmem hstage hfree =>
    exact Or.inl (List.mem_append_left _ hi)

/-- Ending intents does not change what an answer says about them. -/
theorem CheckoutResponse.AnswersByKey.change {response : CheckoutResponse} {r : CheckoutRequest}
    {s : PaymentService} (h : response.AnswersByKey r s.db.intents)
    {intents : List PaymentIntentRow} (hchange : IntentChange s intents) :
    response.AnswersByKey r intents := by
  obtain ⟨i, hi, idempotent, hresponse, hkey, hown⟩ := h
  rcases hchange.persists hi with hi | ⟨status, now, hi⟩
  · exact ⟨i, hi, idempotent, hresponse, hkey, hown⟩
  · refine ⟨i.close status now, hi, idempotent, hresponse, hkey, ?_⟩
    intro hnew
    have hmade := hown hnew
    exact ⟨hmade.userId, hmade.seatId, hmade.holdId, hmade.idempotencyKey⟩

/-- Every intent was made for one of the requests `rs`, and every 200 answer is by key. -/
structure AnsweredByKey (rs : List CheckoutRequest) (s : PaymentService) : Prop
    extends RequestedBy rs s where
  madeFor : ∀ i ∈ s.db.intents, ∃ r ∈ rs, i.MadeFor r
  answers : ∀ c ∈ s.checkouts, ∀ response, c.stage = .done response → response.isOk = true →
    response.AnswersByKey c.request s.db.intents

theorem AnsweredByKey.step {rs : List CheckoutRequest} {env : PaymentEnv} {s : PaymentService}
    {a : PaymentAction} (h : AnsweredByKey rs s) (ha : ∀ r, a = .checkout r → r ∈ rs) :
    AnsweredByKey rs (paymentStep env s a) := by
  have hchange := (paymentStep_effect env s a).intentChange
  refine ⟨h.toRequestedBy.step ha, ?_, ?_⟩
  · apply hchange.forall_intents _ _ h.madeFor
    · rintro i status now ⟨r, hr, hmade⟩
      exact ⟨r, hr, hmade.userId, hmade.seatId, hmade.holdId, hmade.idempotencyKey⟩
    · intro c hc price pspIntentId clientSecret intentId hstage
      exact ⟨c.request, h.checkouts c hc, rfl, rfl, rfl, rfl⟩
  · intro c hc response hdone hok
    rcases mem_checkouts_step hc with hc | ⟨request, -, rfl⟩ | ⟨d, c₀, hc₀, rfl, hdb⟩
    · exact (h.answers c hc response hdone hok).change hchange
    · simp at hdone
    · rw [checkoutStep_request]
      rcases checkoutStep_answersByKey hdone hok with hbefore | hanswers
      · exact (h.answers c₀ hc₀ response hbefore hok).change hchange
      · rw [hdb]
        exact hanswers

theorem answeredByKey_exec {s : PaymentService} (hseed : s.Seeded) (env : PaymentEnv)
    (as : List PaymentAction) : AnsweredByKey (requestsOf as) (exec (paymentStep env) s as) := by
  apply exec_invariant (AnsweredByKey (requestsOf as)) _ _ (along_mem s (List.Subset.refl as))
  · intro s a h ha
    apply h.step
    rintro r rfl
    exact mem_requestsOf.mpr ha
  · refine ⟨hseed.requestedBy _, ?_, ?_⟩
    · intro i hi
      simp [hseed.intents] at hi
    · intro c hc
      simp [hseed.checkouts] at hc

/-! ### What other keys have to do with it -/

/-- The database as far as one key is concerned. -/
def PaymentDb.onlyKey (key : Uuid) (db : PaymentDb) : PaymentDb :=
  { db with intents := db.intents.filter fun i => i.idempotencyKey == key }

theorem findByIdempotencyKey_onlyKey (key : Uuid) (db : PaymentDb) :
    findByIdempotencyKey key (db.onlyKey key) = findByIdempotencyKey key db := by
  unfold findByIdempotencyKey PaymentDb.onlyKey
  rw [List.find?_filter]
  simp only [and_self, Bool.decide_eq_true]

theorem getSeatPrice_onlyKey (key seatId : Uuid) (db : PaymentDb) :
    getSeatPrice seatId (db.onlyKey key) = getSeatPrice seatId db := rfl

theorem intentViolation_onlyKey {key : Uuid} {db : PaymentDb} {row : PaymentIntentRow}
    (h : intentViolation db.intents row = none) :
    intentViolation (db.onlyKey key).intents row = none := by
  obtain ⟨hid, hkey⟩ := intentViolation_eq_none_iff.mp h
  apply intentViolation_eq_none_iff.mpr
  constructor
  · intro i hi
    exact hid i (List.mem_of_mem_filter hi)
  · intro i hi
    exact hkey i (List.mem_of_mem_filter hi)

/-- **A 200 answer depends on no intent stored under another key.** -/
theorem checkoutStep_onlyKey {d : CheckoutDraw} {c : Checkout} {db : PaymentDb}
    {response : CheckoutResponse} (hdone : (checkoutStep d c db).1.stage = .done response)
    (hok : response.isOk = true) :
    (checkoutStep d c (db.onlyKey c.request.dto.idempotencyKey.uuid)).1 =
      (checkoutStep d c db).1 := by
  obtain ⟨request, stage⟩ := c
  unfold checkoutStep at hdone ⊢
  cases stage with
  | started =>
    dsimp only
    rw [findByIdempotencyKey_onlyKey]
    split <;> rfl
  | missed =>
    dsimp only
    rw [getSeatPrice_onlyKey]
    split <;> rfl
  | priced price =>
    dsimp only
    split <;> rfl
  | pspCalled price pspIntentId clientSecret =>
    dsimp only at hdone ⊢
    unfold createIntent at hdone ⊢
    cases hviol : intentViolation db.intents
        (newIntent request price pspIntentId clientSecret d.intentId) with
    | none => rw [intentViolation_onlyKey hviol]
    | some err =>
      -- A failed insert is no 200 answer.
      rw [hviol] at hdone
      dsimp only at hdone
      split at hdone
      · simp at hdone
      · cases hdone
        cases hok
  | raced =>
    dsimp only
    rw [findByIdempotencyKey_onlyKey]
    split <;> rfl
  | done response' => rfl

/-! ### Every run -/

/-- **What a 200 answer shows.**  In every reachable state it is an intent stored under
    the key of the request, made for one of the requests received and, when it is
    answered as new, for this one.  So it is the caller's own for this body if every
    request with the key is the same request.  Intents under other keys have no part
    in it. -/
theorem checkout_answers {s : PaymentService} (hseed : s.Seeded) (env : PaymentEnv)
    (as : List PaymentAction) :
    (∀ c ∈ (exec (paymentStep env) s as).checkouts, ∀ response, c.stage = .done response →
      response.isOk = true → ∃ i ∈ (exec (paymentStep env) s as).db.intents, ∃ idempotent,
        response = .ofIntent i idempotent ∧
        i.idempotencyKey = c.request.dto.idempotencyKey.uuid ∧
        (∃ r ∈ requestsOf as, i.MadeFor r) ∧
        (idempotent = false → i.MadeFor c.request) ∧
        ((∀ r ∈ requestsOf as, r.dto.idempotencyKey.uuid = c.request.dto.idempotencyKey.uuid →
          r.SameAs c.request) → i.MadeFor c.request)) ∧
      ∀ c ∈ (exec (paymentStep env) s as).checkouts, ∀ d response,
        (checkoutStep d c (exec (paymentStep env) s as).db).1.stage = .done response →
        response.isOk = true →
        (checkoutStep d c ((exec (paymentStep env) s as).db.onlyKey
          c.request.dto.idempotencyKey.uuid)).1.stage = .done response := by
  have hanswered := answeredByKey_exec hseed env as
  constructor
  · intro c hc response hdone hok
    obtain ⟨i, hi, idempotent, hresponse, hkey, hown⟩ := hanswered.answers c hc response hdone hok
    obtain ⟨r, hr, hmade⟩ := hanswered.madeFor i hi
    refine ⟨i, hi, idempotent, hresponse, hkey, ⟨r, hr, hmade⟩, hown, ?_⟩
    intro hsame
    exact hmade.of_same (hsame r hr (hmade.idempotencyKey.symm.trans hkey))
  · intro c _ d response hdone hok
    rw [checkoutStep_onlyKey hdone hok]
    exact hdone

/-- User 102 sends the key of user 101 with a seat and a hold of his own. -/
def borrowedKey : List PaymentAction :=
  checkoutRun 0 ⟨⟨1, 201, firstKey⟩, 101⟩ 901 ++ checkoutRun 1 ⟨⟨3, 202, firstKey⟩, 102⟩ 902

/-- The answer to user 102 is the intent of user 101, with its client secret. -/
theorem borrowedKey_reveals :
    seedPrices.Seeded ∧
      (∃ c ∈ (exec (paymentStep defaultPaymentEnv) seedPrices borrowedKey).checkouts,
        c.request.userId = 102 ∧ c.request.dto.seatId = 3 ∧
        c.stage = .done (.ok 901
          (clientSecretOf "pi_mock_00000000-0000-0000-0000-0000000000a1" "") 1900 "USD" true)) ∧
      ∀ i ∈ (exec (paymentStep defaultPaymentEnv) seedPrices borrowedKey).db.intents,
        i.id = 901 → i.userId = 101 ∧ i.seatId = 1 ∧ i.holdId = 201 :=
  ⟨seedPrices_seeded, by decide +kernel, by decide +kernel⟩

/-- Two users with keys of their own are both answered with an intent made for them. -/
theorem ownKeys_answered :
    let s := exec (paymentStep defaultPaymentEnv) seedPrices twoIntents
    s.checkouts.map (·.stage) =
        [.done (.ok 901 (clientSecretOf "pi_mock_00000000-0000-0000-0000-0000000000a1" "") 1900
            "USD" false),
          .done (.ok 902 (clientSecretOf "pi_mock_00000000-0000-0000-0000-0000000000a2" "") 1900
            "USD" false)] ∧
      ∀ c ∈ s.checkouts, ∀ response, c.stage = .done response → response.isOk = true →
        ∃ i ∈ s.db.intents, ∃ idempotent, response = .ofIntent i idempotent ∧
          (idempotent = false → i.MadeFor c.request) := by
  refine ⟨by decide +kernel, ?_⟩
  intro c hc response hdone hok
  obtain ⟨i, hi, idempotent, hresponse, -, -, hown, -⟩ :=
    (checkout_answers seedPrices_seeded defaultPaymentEnv twoIntents).1 c hc response hdone hok
  exact ⟨i, hi, idempotent, hresponse, hown⟩

end SeatReservation
