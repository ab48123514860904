import SeatReservation.CheckoutAnswers

/-!
# Checkout is idempotent

Any number of checkout requests use one idempotency key, in any interleaving
with each other and with everything else the service does.  The unique index
lets one insert through; whoever loses the race looks the key up again.  So the
key has at most one row, every 200 answer given for it shows that row, and at
most one of them says that the intent is new (`checkout_idempotent`).  The
answers are those given in the course of the run, whether or not they arrive.
-/

namespace SeatReservation

open Relational TransitionSystem

/-! ### Answers given -/

/-- A request and the answer to it. -/
structure Reply where
  request : CheckoutRequest
  response : CheckoutResponse

/-- The idempotency key of the request. -/
def Reply.key (reply : Reply) : Uuid := reply.request.dto.idempotencyKey.uuid

/-- The answer an action gives, when a checkout comes to its end by it. -/
def replies (s : PaymentService) : PaymentAction → List Reply
  | .checkoutStep i d =>
      match s.checkouts[i]? with
      | some c =>
          match c.stage, (checkoutStep d c s.db).1.stage with
          | .done _, _ => []
          | _, .done response => [⟨c.request, response⟩]
          | _, _ => []
      | none => []
  | _ => []

/-- The answer says that the intent is new. -/
def CheckoutResponse.isNew : CheckoutResponse → Bool
  | .ok _ _ _ _ idempotent => !idempotent
  | _ => false

/-- The answer shows the intent. -/
def CheckoutResponse.Shows (response : CheckoutResponse) (i : PaymentIntentRow) : Prop :=
  ∃ idempotent, response = .ofIntent i idempotent

theorem CheckoutResponse.isOk_of_isNew {response : CheckoutResponse} (h : response.isNew = true) :
    response.isOk = true := by
  cases response with
  | ok intentId clientSecret amountCents currency idempotent => rfl
  | badRequest error => cases h
  | internalError => cases h

/-- What an answer comes from: a checkout in progress that takes its last step. -/
theorem mem_replies (env : PaymentEnv) {s : PaymentService} {a : PaymentAction} {reply : Reply}
    (h : reply ∈ replies s a) :
    ∃ d, ∃ c ∈ s.checkouts, c.request = reply.request ∧
      (∀ response, c.stage ≠ .done response) ∧
      (checkoutStep d c s.db).1.stage = .done reply.response ∧
      (paymentStep env s a).db = (checkoutStep d c s.db).2 := by
  unfold replies at h
  split at h
  · rename_i i d
    split at h
    · rename_i c hget
      have hdb : (paymentStep env s (.checkoutStep i d)).db = (checkoutStep d c s.db).2 := by
        simp only [paymentStep, hget]
      split at h
      · cases h
      · rename_i response hdone hopen
        obtain rfl := List.mem_singleton.mp h
        exact ⟨d, c, List.mem_of_getElem? hget, rfl, hopen, hdone, hdb⟩
      · cases h
    · cases h
  · cases h

/-- An answer that says the intent is new was given by the insert, so the key was free. -/
theorem checkoutStep_isNew {d : CheckoutDraw} {c : Checkout} {db : PaymentDb}
    {response : CheckoutResponse} (hopen : ∀ response, c.stage ≠ .done response)
    (hdone : (checkoutStep d c db).1.stage = .done response) (hnew : response.isNew = true) :
    ∀ i ∈ db.intents, i.idempotencyKey ≠ c.request.dto.idempotencyKey.uuid := by
  have hanswer := checkoutStep_answer hopen hdone
  generalize (checkoutStep d c db).2 = db' at hanswer
  cases hanswer with
  | found i hfind => cases hnew
  | created price pspIntentId clientSecret hfree =>
    exact (intentViolation_eq_none_iff.mp hfree).2
  | refused _ hrefused =>
    rw [CheckoutResponse.isOk_of_isNew hnew] at hrefused
    cases hrefused

/-! ### Every run -/

/-- What holds of the answers given so far. -/
structure Consistent (s : PaymentService) (given : List Reply) : Prop where
  wellFormed : s.WellFormed
  shown : ∀ reply ∈ given, reply.response.isOk = true →
    ∃ i ∈ s.db.intents, i.idempotencyKey = reply.key ∧ reply.response.Shows i
  new : ∀ key, given.countP (fun reply => reply.key == key && reply.response.isNew) ≤ 1

theorem length_replies_le (s : PaymentService) (a : PaymentAction) : (replies s a).length ≤ 1 := by
  unfold replies
  split
  · split
    · split
      · exact Nat.zero_le 1
      · exact Nat.le_refl 1
      · exact Nat.zero_le 1
    · exact Nat.zero_le 1
  · exact Nat.zero_le 1

/-- An intent shown goes on being shown, whatever becomes of it. -/
theorem IntentChange.shown {s : PaymentService} {intents : List PaymentIntentRow}
    (hchange : IntentChange s intents) {reply : Reply}
    (h : ∃ i ∈ s.db.intents, i.idempotencyKey = reply.key ∧ reply.response.Shows i) :
    ∃ i ∈ intents, i.idempotencyKey = reply.key ∧ reply.response.Shows i := by
  obtain ⟨i, hi, hkey, hshows⟩ := h
  rcases hchange.persists hi with hi | ⟨status, now, hi⟩
  · exact ⟨i, hi, hkey, hshows⟩
  · exact ⟨i.close status now, hi, hkey, hshows⟩

/-- A key that was free has not been answered for. -/
theorem Consistent.countP_eq_zero {s : PaymentService} {given : List Reply}
    (h : Consistent s given) {key : Uuid} (hfree : ∀ i ∈ s.db.intents, i.idempotencyKey ≠ key) :
    given.countP (fun reply => reply.key == key && reply.response.isNew) = 0 := by
  rw [List.countP_eq_zero]
  intro reply hreply hnew
  simp only [Bool.and_eq_true, beq_iff_eq] at hnew
  obtain ⟨i, hi, hkey, -⟩ := h.shown reply hreply (CheckoutResponse.isOk_of_isNew hnew.2)
  exact hfree i hi (hkey.trans hnew.1)

theorem Consistent.step {s : PaymentService} {given : List Reply} (h : Consistent s given)
    (env : PaymentEnv) (a : PaymentAction) :
    Consistent (paymentStep env s a) (given ++ replies s a) := by
  refine ⟨h.wellFormed.step env a, ?_, ?_⟩
  · intro reply hreply hok
    rcases List.mem_append.mp hreply with hreply | hreply
    · exact (paymentStep_effect env s a).intentChange.shown (h.shown reply hreply hok)
    · obtain ⟨d, c, hc, hrequest, hopen, hdone, hdb⟩ := mem_replies env hreply
      rcases checkoutStep_answersByKey hdone hok with hbefore | hanswers
      · exact absurd hbefore (hopen _)
      · obtain ⟨i, hi, idempotent, hshows, hkey, -⟩ := hanswers
        rw [← hdb] at hi
        rw [hrequest] at hkey
        exact ⟨i, hi, hkey, idempotent, hshows⟩
  · intro key
    rw [List.countP_append]
    have hlength := (List.countP_le_length (p := fun reply : Reply =>
      reply.key == key && reply.response.isNew)).trans (length_replies_le s a)
    by_cases hnone : (replies s a).countP
        (fun reply => reply.key == key && reply.response.isNew) = 0
    · rw [hnone]
      exact h.new key
    · -- The insert went through, so the key was free until now.
      obtain ⟨reply, hreply, hnew⟩ := List.countP_pos_iff.mp (Nat.pos_of_ne_zero hnone)
      simp only [Bool.and_eq_true, beq_iff_eq] at hnew
      obtain ⟨d, c, hc, hrequest, hopen, hdone, -⟩ := mem_replies env hreply
      have hfree := checkoutStep_isNew hopen hdone hnew.2
      have hnothing := h.countP_eq_zero hfree
      rw [hrequest, ← Reply.key, hnew.1] at hnothing
      rw [hnothing]
      omega

theorem consistent_exec {s : PaymentService} (hseed : s.Seeded) (env : PaymentEnv)
    (as : List PaymentAction) :
    Consistent (exec (paymentStep env) s as) (outputs (paymentStep env) replies s as) := by
  have hstart : Consistent s [] := ⟨hseed.wellFormed, by simp, by simp⟩
  have hrun := exec_outputs_invariant Consistent (fun s given a h _ => h.step env a) hstart
    (along_mem s (List.Subset.refl as))
  rwa [List.nil_append] at hrun

/-- **Checkout is idempotent.**  In every run a key has at most one row, every 200
    answer given for the key shows it, and at most one says that it is new. -/
theorem checkout_idempotent {s : PaymentService} (hseed : s.Seeded) (env : PaymentEnv)
    (as : List PaymentAction) (key : Uuid) :
    let intents := (exec (paymentStep env) s as).db.intents
    let given := (outputs (paymentStep env) replies s as).filter fun reply => reply.key == key
    (intents.filter fun i => i.idempotencyKey == key).length ≤ 1 ∧
      ((∃ reply ∈ given, reply.response.isOk = true) →
        ∃ i ∈ intents, i.idempotencyKey = key ∧
          ∀ reply ∈ given, reply.response.isOk = true → reply.response.Shows i) ∧
      given.countP (fun reply => reply.response.isNew) ≤ 1 := by
  intro intents given
  have hconsistent := consistent_exec hseed env as
  have hkeys := hconsistent.wellFormed.idempotencyKeys
  have hgiven : ∀ reply ∈ given, reply ∈ outputs (paymentStep env) replies s as ∧
      reply.key = key := by
    intro reply hreply
    simpa [given] using hreply
  refine ⟨?_, ?_, ?_⟩
  · exact hkeys.length_filter_le_one key
  · rintro ⟨reply, hreply, hok⟩
    obtain ⟨hmem, hkey⟩ := hgiven reply hreply
    obtain ⟨i, hi, hikey, -⟩ := hconsistent.shown reply hmem hok
    refine ⟨i, hi, hikey.trans hkey, ?_⟩
    intro reply' hreply' hok'
    obtain ⟨hmem', hkey'⟩ := hgiven reply' hreply'
    obtain ⟨i', hi', hikey', hshows⟩ := hconsistent.shown reply' hmem' hok'
    have hsame : i' = i := by
      apply hkeys.eq_of_mem hi' hi
      rw [hikey', hkey', hikey, hkey]
    rwa [← hsame]
  · have hnew := hconsistent.new key
    rw [List.countP_filter]
    simpa [Bool.and_comm] using hnew

/-- Two requests with one key race to the insert; the second of them loses. -/
def racingCheckouts : List PaymentAction :=
  [.checkout ⟨⟨1, 201, firstKey⟩, 101⟩, .checkout ⟨⟨1, 201, firstKey⟩, 101⟩] ++
    List.replicate 3 (.checkoutStep 0 ⟨901, "x", true⟩) ++
    List.replicate 4 (.checkoutStep 1 ⟨902, "y", true⟩) ++
    List.replicate 2 (.checkoutStep 0 ⟨901, "x", true⟩)

theorem racingCheckouts_idempotent :
    let s := exec (paymentStep defaultPaymentEnv) seedPrices racingCheckouts
    let given := (outputs (paymentStep defaultPaymentEnv) replies seedPrices racingCheckouts).filter
      fun reply => reply.key == firstKey.uuid
    given.map (fun reply => reply.response.isNew) = [true, false] ∧
      ∃ i ∈ s.db.intents, i.idempotencyKey = firstKey.uuid ∧
        ∀ reply ∈ given, reply.response.isOk = true → reply.response.Shows i :=
  ⟨by decide +kernel,
    (checkout_idempotent seedPrices_seeded defaultPaymentEnv racingCheckouts firstKey.uuid).2.1
      (by decide +kernel)⟩

end SeatReservation
