import SeatReservation.WebhookEndpoint
import SeatReservation.ReservationSafety

/-!
# Payments and what the PSP has signed

The combined system with the PSP as a party of its own, which signs bodies, and a
webhook endpoint that anybody can post to.  Nothing but the signature says where
an event comes from, and after the endpoint nothing asks again: the inbox, the
tasks and the batches of the reprocessor carry it on.  `Attested` follows what is
true of every accepted event into the intents it completes, and `ReservedPaid`
from there to the hold.
-/

namespace SeatReservation

open Relational TransitionSystem

/-! ### The machine -/

structure PspEnv where
  hmacSha256 : String → String → List UInt8
  psp : MockPSPClient
  /-- What the endpoint does with a signed body that is no event. -/
  offInterface : Json.Value → Option String → Uuid → Nat → PaymentService →
    WebhookResponse × PaymentService
  system : SystemEnv

/-- `signed` lists what the PSP has signed so far: the `t` of the header and the body. -/
structure PspSystem where
  system : System
  signed : List (String × String)

def SystemAction.isWebhook : SystemAction → Bool
  | .payment (.webhook ..) _ => true
  | _ => false

inductive PspAction where
  | sign (t body : String)
  | webhook (rawBody signature header : Option String) (traceDraw : Uuid) (now : Nat)
  | system (a : SystemAction) (other : a.isWebhook = false)

def PspEnv.request (env : PspEnv) (s : PspSystem) (rawBody signature header : Option String)
    (traceDraw : Uuid) (now : Nat) : WebhookResponse × PaymentService :=
  webhookRequest env.hmacSha256 env.psp env.offInterface env.system.payment rawBody signature header
    traceDraw now s.system.payment

def pspStep (env : PspEnv) (s : PspSystem) : PspAction → PspSystem
  | .sign t body => { s with signed := s.signed ++ [(t, body)] }
  | .webhook rawBody signature header traceDraw now =>
      { s with system := { s.system with
          payment := (env.request s rawBody signature header traceDraw now).2 } }
  | .system a _ => { s with system := systemStep env.system s.system a }

structure PspSystem.Seeded (s : PspSystem) : Prop where
  system : s.system.Seeded
  signed : s.signed = []

/-- This text has been signed. -/
def PspSystem.hasSigned (s : PspSystem) (text : String) : Bool :=
  s.signed.any fun b => b.1 ++ "." ++ b.2 == text

/-- The PSP signs events, and a digest that verifies is one of a text it has signed. -/
def Genuine (env : PspEnv) (s : PspSystem) : PspAction → Prop
  | .sign _ body => (eventOf body).isSome = true
  | .webhook (some body) (some signature) _ _ _ =>
      ∀ t ∈ (parseSignature signature).t, ∀ v1 ∈ (parseSignature signature).v1,
        bufferFromHex v1 = env.hmacSha256 env.psp.webhookSecret (t ++ "." ++ body) →
          s.hasSigned (t ++ "." ++ body) = true
  | _ => True

instance (env : PspEnv) (s : PspSystem) : DecidablePred (Genuine env s)
  | .sign _ body => inferInstanceAs (Decidable ((eventOf body).isSome = true))
  | .webhook (some body) (some signature) _ _ _ => inferInstanceAs (Decidable
      (∀ t ∈ (parseSignature signature).t, ∀ v1 ∈ (parseSignature signature).v1,
        bufferFromHex v1 = env.hmacSha256 env.psp.webhookSecret (t ++ "." ++ body) →
          s.hasSigned (t ++ "." ++ body) = true))
  | .webhook none _ _ _ _ | .webhook (some _) none _ _ _ | .system .. =>
    inferInstanceAs (Decidable True)

/-- The events the PSP has signed. -/
def PspSystem.Signed (s : PspSystem) (event : PSPWebhookEvent) : Prop :=
  ∃ b ∈ s.signed, eventOf b.2 = some event

/-! ### What is true of every accepted event -/

/-- `P` holds of every event on its way through the payment service, and of a success event for
    every COMPLETED intent. -/
structure Attested (P : PSPWebhookEvent → Prop) (s : PaymentService) : Prop where
  inbox : ∀ r ∈ s.db.inbox, r.type = r.payload.type ∧ P r.payload
  tasks : ∀ t ∈ s.tasks, P t.event
  batches : ∀ q ∈ s.reprocessings, ∀ row ∈ q.rows, row.type = row.payload.type ∧ P row.payload
  completed : ∀ i ∈ s.db.intents, i.status = .completed →
    ∃ event, P event ∧ isSuccessFor i.pspIntentId event.type event.objectId = true

theorem Attested.mono {P Q : PSPWebhookEvent → Prop} {s : PaymentService} (h : Attested P s)
    (hPQ : ∀ event, P event → Q event) : Attested Q s where
  inbox r hr := (h.inbox r hr).imp_right (hPQ _)
  tasks t ht := hPQ _ (h.tasks t ht)
  batches q hq row hrow := (h.batches q hq row hrow).imp_right (hPQ _)
  completed i hi hcompleted := by
    obtain ⟨event, hevent, hsuccess⟩ := h.completed i hi hcompleted
    exact ⟨event, hPQ event hevent, hsuccess⟩

theorem PaymentService.Seeded.attested {s : PaymentService} (h : s.Seeded)
    (P : PSPWebhookEvent → Prop) : Attested P s where
  inbox := by simp [h.inbox]
  tasks := by simp [h.tasks]
  batches := by simp [h.reprocessings]
  completed := by simp [h.intents]

/-- Handling an event completes only the intent the event is a success event for. -/
theorem handleEvent_completed {type : String} {objectId : ObjectId} {traceId : String} {d : Draw}
    {db db' : PaymentDb} (h : handleEvent type objectId traceId d db = some db')
    {i : PaymentIntentRow} (hi : i ∈ db'.intents) (hcompleted : i.status = .completed) :
    i ∈ db.intents ∨ isSuccessFor i.pspIntentId type objectId = true := by
  unfold handleEvent at h
  split at h
  · rename_i htype
    cases objectId with
    | unreadable => cases h
    | absent =>
      cases h
      exact .inl hi
    | text p =>
      cases h
      rw [markCompleted, closeIntents_intents] at hi
      rcases mem_update.mp hi with ⟨i₀, -, hpending, rfl⟩ | ⟨hi, -⟩
      · right
        obtain ⟨hpsp, -⟩ := isPendingPsp_iff.mp hpending
        simp [isSuccessFor, successType, htype, PaymentIntentRow.close, hpsp]
      · exact .inl hi
  · split at h
    · cases objectId with
      | unreadable => cases h
      | absent =>
        cases h
        exact .inl hi
      | text p =>
        cases h
        rw [markFailed, closeIntents_intents] at hi
        rcases mem_update.mp hi with ⟨i₀, -, -, rfl⟩ | ⟨hi, -⟩
        · cases hcompleted
        · exact .inl hi
    · cases h
      exact .inl hi

/-- A checkout inserts PENDING intents only. -/
theorem checkoutStep_completed {d : CheckoutDraw} {c : Checkout} {db : PaymentDb}
    {i : PaymentIntentRow} (hi : i ∈ (checkoutStep d c db).2.intents)
    (hcompleted : i.status = .completed) : i ∈ db.intents := by
  have heffect := (checkoutStep_cases d c db).2
  generalize (checkoutStep d c db).1.stage = stage at heffect
  generalize (checkoutStep d c db).2 = db' at heffect hi
  cases heffect with
  | created price pspIntentId clientSecret response hstage hfree =>
    rcases List.mem_append.mp hi with hi | hi
    · exact hi
    · rw [List.mem_singleton.mp hi] at hcompleted
      cases hcompleted
  | _ => exact hi

/-- Marking rows processed changes neither what they say nor where they came from. -/
theorem forall_inbox_mark {P : String → PSPWebhookEvent → Prop} {db : PaymentDb}
    (h : ∀ r ∈ db.inbox, P r.type r.payload) (id : String) (now : Nat) :
    ∀ r ∈ (markWebhookProcessed id now db).inbox, P r.type r.payload := by
  intro r hr
  rcases mem_update.mp hr with ⟨r₀, hr₀, -, rfl⟩ | ⟨hr, -⟩
  · exact h r₀ hr₀
  · exact h r hr

theorem Attested.webhook {P : PSPWebhookEvent → Prop} {s : PaymentService} (h : Attested P s)
    {event : PSPWebhookEvent} (hevent : P event) (env : PaymentEnv) (header : Option String)
    (traceDraw : Uuid) (now : Nat) : Attested P (webhook env event header traceDraw now s) := by
  unfold SeatReservation.webhook insertWebhookInbox
  split
  · exact h
  · split
    · exact h
    · rename_i db hinsert
      split at hinsert
      · cases hinsert
      · cases hinsert
        refine ⟨?_, ?_, h.batches, h.completed⟩
        · intro r hr
          rcases List.mem_append.mp hr with hr | hr
          · exact h.inbox r hr
          · rw [List.mem_singleton.mp hr]
            exact ⟨rfl, hevent⟩
        · intro t ht
          rcases List.mem_append.mp ht with ht | ht
          · exact h.tasks t ht
          · rw [List.mem_singleton.mp ht]
            exact hevent

theorem Attested.processEvent {P : PSPWebhookEvent → Prop} {s s' : PaymentService}
    (h : Attested P s) {i : Nat} {d : Draw} (htask : TaskEffect s i d s') : Attested P s' := by
  cases htask with
  | missing hget => exact h
  | marked t hget hhandled =>
    exact ⟨forall_inbox_mark (P := fun type payload => type = payload.type ∧ P payload) h.inbox _ _,
      fun t' ht' => h.tasks t' (List.mem_of_mem_eraseIdx ht'), h.batches, h.completed⟩
  | handled t db hget hhandled hev =>
    have ht := h.tasks t (List.mem_of_getElem? hget)
    refine ⟨?_, ?_, h.batches, ?_⟩
    · rw [handleEvent_inbox hev]
      exact h.inbox
    · intro t' ht'
      rcases List.mem_or_eq_of_mem_set ht' with ht' | rfl
      · exact h.tasks t' ht'
      · exact ht
    · intro intent hintent hcompleted
      rcases handleEvent_completed hev hintent hcompleted with hintent | hsuccess
      · exact h.completed intent hintent hcompleted
      · exact ⟨t.event, ht, hsuccess⟩
  | thrown t hget hhandled hev =>
    exact ⟨h.inbox, fun t' ht' => h.tasks t' (List.mem_of_mem_eraseIdx ht'), h.batches,
      h.completed⟩

theorem Attested.reprocess {P : PSPWebhookEvent → Prop} {s s' : PaymentService}
    (h : Attested P s) {i : Nat} {traceDraw : Uuid} {d : Draw}
    (hbatch : BatchEffect s i traceDraw d s') : Attested P s' := by
  have hset : ∀ q' : Reprocessing,
      (∀ row ∈ q'.rows, row.type = row.payload.type ∧ P row.payload) →
      ∀ q ∈ s.reprocessings.set i q', ∀ row ∈ q.rows,
        row.type = row.payload.type ∧ P row.payload := by
    intro q' hq' q hq
    rcases List.mem_or_eq_of_mem_set hq with hq | rfl
    · exact h.batches q hq
    · exact hq'
  cases hbatch with
  | missing hget => exact h
  | finished q hget hrows =>
    exact ⟨h.inbox, h.tasks, hset q (h.batches q (List.mem_of_getElem? hget)), h.completed⟩
  | marked row rest hget =>
    have hrows := h.batches _ (List.mem_of_getElem? hget)
    exact ⟨forall_inbox_mark (P := fun type payload => type = payload.type ∧ P payload) h.inbox _ _,
      h.tasks, hset _ fun r hr => hrows r (List.mem_cons_of_mem _ hr), h.completed⟩
  | handled row rest db hget hev =>
    have hrows := h.batches _ (List.mem_of_getElem? hget)
    refine ⟨?_, h.tasks, hset _ hrows, ?_⟩
    · rw [handleEvent_inbox hev]
      exact h.inbox
    · intro intent hintent hcompleted
      rcases handleEvent_completed hev hintent hcompleted with hintent | hsuccess
      · exact h.completed intent hintent hcompleted
      · obtain ⟨htype, hrow⟩ := hrows row List.mem_cons_self
        rw [htype] at hsuccess
        exact ⟨row.payload, hrow, hsuccess⟩
  | thrown row rest hget hev =>
    have hrows := h.batches _ (List.mem_of_getElem? hget)
    exact ⟨h.inbox, h.tasks, hset _ fun r hr => hrows r (List.mem_cons_of_mem _ hr), h.completed⟩

/-- **No step makes an event up.** -/
theorem Attested.step {P : PSPWebhookEvent → Prop} {s : PaymentService} (h : Attested P s)
    (env : PaymentEnv) {a : PaymentAction}
    (hevent : ∀ event header traceDraw now, a = .webhook event header traceDraw now → P event) :
    Attested P (paymentStep env s a) := by
  cases a with
  | webhook event header traceDraw now => exact h.webhook (hevent _ _ _ _ rfl) env _ _ _
  | processEvent i d => exact h.processEvent (processEvent_cases env s i d)
  | reprocess i traceDraw d => exact h.reprocess (reprocess_cases env s i traceDraw d)
  | checkoutStep i d =>
    simp only [paymentStep]
    split
    · refine ⟨?_, h.tasks, h.batches, ?_⟩
      · dsimp only
        rw [(checkoutStep_cases ..).2.inbox]
        exact h.inbox
      · intro intent hintent hcompleted
        exact h.completed intent (checkoutStep_completed hintent hcompleted) hcompleted
    · exact h
  | reprocessTick =>
    refine ⟨h.inbox, h.tasks, ?_, h.completed⟩
    intro q hq row hrow
    rcases List.mem_append.mp hq with hq | hq
    · exact h.batches q hq row hrow
    · rw [List.mem_singleton.mp hq] at hrow
      have hmem := (List.mem_insertionSort _).mp (List.mem_of_mem_take hrow)
      exact h.inbox row (List.mem_of_mem_filter hmem)
  | reprocessSkip i =>
    refine ⟨h.inbox, h.tasks, ?_, h.completed⟩
    intro q hq row hrow
    rcases mem_modify hq with hq | ⟨q₀, hq₀, rfl⟩
    · exact h.batches q hq row hrow
    · exact h.batches q₀ hq₀ row (List.mem_of_mem_tail hrow)
  | processEventLost i =>
    exact ⟨h.inbox, fun t ht => h.tasks t (List.mem_of_mem_eraseIdx ht), h.batches, h.completed⟩
  | reprocessLost i =>
    exact ⟨h.inbox, h.tasks, fun q hq => h.batches q (List.mem_of_mem_eraseIdx hq), h.completed⟩
  | checkout request => exact ⟨h.inbox, h.tasks, h.batches, h.completed⟩
  | checkoutLost i => exact ⟨h.inbox, h.tasks, h.batches, h.completed⟩
  | seatReleased seatId traceId d =>
    refine ⟨by rw [paymentStep, markFailedBySeatId, closeIntents_inbox]; exact h.inbox, h.tasks,
      h.batches, ?_⟩
    intro intent hintent hcompleted
    rw [paymentStep, markFailedBySeatId, closeIntents_intents] at hintent
    rcases mem_update.mp hintent with ⟨i₀, -, -, rfl⟩ | ⟨hintent, -⟩
    · cases hcompleted
    · exact h.completed intent hintent hcompleted

/-! ### One step of the machine -/

/-- What the webhook endpoint does is an action of the system, or nothing. -/
theorem request_cases (env : PspEnv) (s : PspSystem) (rawBody signature header : Option String)
    (traceDraw : Uuid) (now : Nat)
    (hevents : InterfaceOnly env.hmacSha256 env.psp rawBody signature) :
    (∃ event body t v1, Verified env.hmacSha256 env.psp env.system.payment rawBody signature now
        event body t v1 ∧
      pspStep env s (.webhook rawBody signature header traceDraw now) = { s with
        system := systemStep env.system s.system
          (.payment (.webhook event header traceDraw now) rfl) }) ∨
    pspStep env s (.webhook rawBody signature header traceDraw now) = s := by
  rcases webhookRequest_cases env.system.payment rawBody signature header traceDraw now
      s.system.payment hevents with ⟨event, body, t, v1, hverified, -, hrequest, -⟩ | ⟨hsame, -⟩
  · left
    refine ⟨event, body, t, v1, hverified, ?_⟩
    rw [pspStep, PspEnv.request, hrequest]
    rfl
  · right
    rw [pspStep, PspEnv.request, hsame]

/-- An object whose digest verifies was signed as it is, since a signed text has one division
    into `t` and an object. -/
theorem signed_of_digest {env : PspEnv} {s : PspSystem} {body signature : String}
    {header : Option String} {traceDraw : Uuid} {now : Nat} {t v1 : String}
    {members : List (Json.Units × Json.Value)}
    (hsigned : ∀ b ∈ s.signed, (eventOf b.2).isSome = true)
    (hgenuine : Genuine env s (.webhook (some body) (some signature) header traceDraw now))
    (hparse : parseSignature signature = ⟨some t, some v1⟩)
    (hdigest : bufferFromHex v1 = env.hmacSha256 env.psp.webhookSecret (t ++ "." ++ body))
    (hderives : Json.Derives (.element (.object members)) body.toList) :
    ∃ b ∈ s.signed, b.2 = body := by
  simp only [Genuine, hparse, Option.mem_def, Option.some.injEq, forall_eq'] at hgenuine
  obtain ⟨b, hb, htext⟩ := List.any_eq_true.mp (hgenuine hdigest)
  obtain ⟨event', hevent'⟩ := Option.isSome_iff_exists.mp (hsigned b hb)
  obtain ⟨members', hderives'⟩ := derives_of_eventOf hevent'
  exact ⟨b, hb, body_eq_of_signed_eq hderives' hderives (beq_iff_eq.mp htext)⟩

/-- **A verified event was signed by the PSP.** -/
theorem signed_of_verified {env : PspEnv} {s : PspSystem} {rawBody signature header : Option String}
    {traceDraw : Uuid} {now : Nat} {event : PSPWebhookEvent} {body t v1 : String}
    (hsigned : ∀ b ∈ s.signed, (eventOf b.2).isSome = true)
    (hgenuine : Genuine env s (.webhook rawBody signature header traceDraw now))
    (h : Verified env.hmacSha256 env.psp env.system.payment rawBody signature now event body t v1) :
    s.Signed event := by
  obtain ⟨rfl, hheader, hdigest, hreads, -⟩ := h
  obtain ⟨signature, rfl, hparse⟩ := Option.map_eq_some_iff.mp hheader
  obtain ⟨members, hderives⟩ := derives_of_eventOf hreads
  obtain ⟨b, hb, hbody⟩ := signed_of_digest hsigned hgenuine hparse hdigest hderives
  exact ⟨b, hb, by rw [hbody, hreads]⟩

/-- The PSP signs events only, so nothing else verifies. -/
theorem Genuine.interfaceOnly {env : PspEnv} {s : PspSystem}
    {rawBody signature header : Option String} {traceDraw : Uuid} {now : Nat}
    (hgenuine : Genuine env s (.webhook rawBody signature header traceDraw now))
    (hsigned : ∀ b ∈ s.signed, (eventOf b.2).isSome = true) :
    InterfaceOnly env.hmacSha256 env.psp rawBody signature := by
  rintro body rfl signature rfl value hvalue
  have hok : constructEventFromWebhook env.hmacSha256 env.psp body signature = .ok value := by
    cases hresult : constructEventFromWebhook env.hmacSha256 env.psp body signature with
    | error e => simp [hresult, Except.toOption] at hvalue
    | ok v => simpa [hresult, Except.toOption] using hvalue
  obtain ⟨t, v1, hheader, -, -, hdigest, hparse, hcreated⟩ := constructEventFromWebhook_eq_ok.mp hok
  obtain ⟨members, rfl⟩ := exists_members_of_hasNumericCreated hcreated
  obtain ⟨b, hb, rfl⟩ :=
    signed_of_digest hsigned hgenuine hheader hdigest (Json.parse_eq_some_iff.mp hparse)
  simpa [eventOf, hparse] using hsigned b hb

theorem PspSystem.Signed.mono {s s' : PspSystem} {event : PSPWebhookEvent} (h : s.Signed event)
    (hsub : s.signed ⊆ s'.signed) : s'.Signed event := by
  obtain ⟨b, hb, hevent⟩ := h
  exact ⟨b, hsub hb, hevent⟩

structure PspSystem.Honest (s : PspSystem) : Prop where
  signed : ∀ b ∈ s.signed, (eventOf b.2).isSome = true
  attested : Attested s.Signed s.system.payment
  reserved : ReservedPaid s.system

/-- Only the endpoint brings events in; the outbox worker changes nothing else. -/
theorem Attested.systemStep {P : PSPWebhookEvent → Prop} {s : System} (h : Attested P s.payment)
    (env : SystemEnv) {a : SystemAction}
    (hevent : ∀ event header traceDraw now,
      a = .payment (.webhook event header traceDraw now) rfl → P event) :
    Attested P (systemStep env s a).payment := by
  rcases systemStep_payment env s a with ⟨c, hcall, heq⟩ | ⟨-, heq⟩ | ⟨w, -, heq⟩
  · rw [heq]
    apply h.step env.payment
    rintro event header traceDraw now rfl
    cases paymentCall_cases hcall with
    | own c hlocal => exact hevent event header traceDraw now rfl
  · rw [heq]
    exact h
  · rw [heq]
    exact ⟨h.inbox, h.tasks, h.batches, h.completed⟩

theorem PspSystem.Honest.step {env : PspEnv} {s : PspSystem} (h : s.Honest) {a : PspAction}
    (hgenuine : Genuine env s a) : (pspStep env s a).Honest := by
  cases a with
  | sign t body =>
    have hgrow : s.signed ⊆ s.signed ++ [(t, body)] := List.subset_append_left ..
    refine ⟨?_, h.attested.mono fun event he => he.mono hgrow, h.reserved⟩
    intro b hb
    rcases List.mem_append.mp hb with hb | hb
    · exact h.signed b hb
    · rw [List.mem_singleton.mp hb]
      exact hgenuine
  | webhook rawBody signature header traceDraw now =>
    rcases request_cases env s rawBody signature header traceDraw now
        (hgenuine.interfaceOnly h.signed) with ⟨event, body, t, v1, hverified, heq⟩ | heq
    · rw [heq]
      refine ⟨h.signed, ?_, h.reserved.step env.system
        (.payment (.webhook event header traceDraw now) rfl)⟩
      apply h.attested.systemStep env.system
      intro event' header' traceDraw' now' ha
      cases ha
      exact signed_of_verified h.signed hgenuine hverified
    · rw [heq]
      exact h
  | system a hother =>
    refine ⟨h.signed, ?_, h.reserved.step env.system a⟩
    apply h.attested.systemStep env.system
    rintro event header traceDraw now rfl
    cases hother

theorem PspSystem.Seeded.honest {s : PspSystem} (h : s.Seeded) : s.Honest where
  signed := by simp [h.signed]
  attested := h.system.payment.attested _
  reserved := ⟨h.system.reachable, by simp [h.system.seat.holds]⟩

/-- **A seat is sold only against a payment the PSP has signed.**  However holds, checkouts,
    webhooks from anybody, reprocessors, outbox workers, deliveries and sweeps interleave, each
    RESERVED hold is the hold of a COMPLETED intent, and the PSP has signed a success event for
    that intent. -/
theorem reservation_signed {env : PspEnv} {s : PspSystem} (hseed : s.Seeded)
    {as : List PspAction} (hgenuine : Along (pspStep env) (Genuine env) s as) :
    ∀ h ∈ (exec (pspStep env) s as).system.seat.holds, h.status = .reserved →
      ∃ i ∈ (exec (pspStep env) s as).system.payment.db.intents,
        i.holdId = h.id ∧ i.status = .completed ∧
        ∃ b ∈ (exec (pspStep env) s as).signed, ∃ event, eventOf b.2 = some event ∧
          event.type = "payment_intent.succeeded" ∧ event.objectId = .text i.pspIntentId := by
  have hend : (exec (pspStep env) s as).Honest :=
    exec_invariant PspSystem.Honest (fun _ _ h hok => h.step hok) hseed.honest hgenuine
  intro h hmem hreserved
  obtain ⟨i, hi, hhold, hcompleted⟩ := hend.reserved.paid h hmem hreserved
  obtain ⟨event, ⟨b, hb, hevent⟩, hsuccess⟩ := hend.attested.completed i hi hcompleted
  simp only [isSuccessFor, Bool.and_eq_true, beq_iff_eq] at hsuccess
  exact ⟨i, hi, hhold, hcompleted, b, hb, event, hevent, hsuccess.1, hsuccess.2⟩

/-- The body of a success event for the intent of `firstKey`. -/
def paidBody : String :=
  "\x7b\"id\":\"evt_1\",\"type\":\"payment_intent.succeeded\",\"created\":1,\"data\":" ++
    "\x7b\"object\":\x7b\"id\":\"pi_mock_00000000-0000-0000-0000-0000000000a1\"\x7d\x7d\x7d"

/-- The HMAC-SHA256 of that body, signed at 1 under the secret of `sampleClient`. -/
def paidDigest : List UInt8 :=
  [84, 163, 41, 90, 198, 249, 89, 147, 196, 83, 47, 68, 5, 145, 83, 141, 28, 172, 117, 162, 231,
    210, 121, 103, 236, 34, 35, 3, 125, 30, 161, 222]

def paidEnv : PspEnv where
  hmacSha256 secret text :=
    if secret = sampleClient.webhookSecret ∧ text = "1." ++ paidBody then paidDigest else []
  psp := sampleClient
  offInterface _ _ _ _ s := (.internalError, s)
  system := defaultSystemEnv

def ofSystem (as : List SystemAction) : List PspAction :=
  as.filterMap fun a => if h : a.isWebhook = false then some (.system a h) else none

/-- Hold 201 is checked out, the PSP signs and the event is posted and processed. -/
def signedRun : List PspAction :=
  ofSystem (holdSeat seatA1 :: localRun (checkoutRun 0 ⟨⟨1, 201, firstKey⟩, 101⟩ 901)) ++
    [.sign "1" paidBody,
     .webhook (some paidBody) (some ("t=1,v1=" ++ toHex paidDigest)) none 801 2000] ++
    ofSystem (localRun [.processEvent 0 ⟨501, 3000, 3000⟩, .processEvent 0 ⟨0, 3000, 3000⟩] ++
      publishPayment 4000 ++ [deliverPayment])

/-- The run keeps to what was signed, and sells the seat. -/
theorem signedRun_sells :
    Along (pspStep paidEnv) (Genuine paidEnv) ⟨seedSystem, []⟩ signedRun ∧
      ⟨201, 1, 101, .reserved, 121000, none, some 5000⟩ ∈
        (exec (pspStep paidEnv) ⟨seedSystem, []⟩ signedRun).system.seat.holds := by
  decide +kernel

theorem reservation_signed_once :
    ∃ i ∈ (exec (pspStep paidEnv) ⟨seedSystem, []⟩ signedRun).system.payment.db.intents,
      i.holdId = 201 ∧ i.status = .completed ∧
        ∃ b ∈ (exec (pspStep paidEnv) ⟨seedSystem, []⟩ signedRun).signed, ∃ event,
          eventOf b.2 = some event ∧ event.type = "payment_intent.succeeded" ∧
            event.objectId = .text i.pspIntentId :=
  reservation_signed ⟨seedSystem_seeded, rfl⟩ signedRun_sells.1 _ signedRun_sells.2 rfl

/-! ### The inbox -/

/-- A row as it was inserted. -/
def InboxRow.receipt (r : InboxRow) : InboxRow := { r with processedAt := none }

/-- The request posts nothing that verifies but events of the interface. -/
def PostsEvents (env : PspEnv) : PspAction → Prop
  | .webhook rawBody signature _ _ _ => InterfaceOnly env.hmacSha256 env.psp rawBody signature
  | .sign .. | .system .. => True

instance (env : PspEnv) : DecidablePred (PostsEvents env)
  | .webhook rawBody signature _ _ _ =>
    inferInstanceAs (Decidable (InterfaceOnly env.hmacSha256 env.psp rawBody signature))
  | .sign .. | .system .. => inferInstanceAs (Decidable True)

/-- The event a request is told is new, as the row it should have in the inbox. -/
def acknowledged (env : PspEnv) (s : PspSystem) : PspAction → List InboxRow
  | .webhook rawBody signature header traceDraw now =>
      if (env.request s rawBody signature header traceDraw now).1 = .received false then
        (rawBody.bind eventOf).toList.map fun event => ⟨event.id, event.type, event, now, none⟩
      else []
  | .sign .. | .system .. => []

theorem PaymentEffect.receipts {s : PaymentService} {a : PaymentAction} {db : PaymentDb}
    (h : PaymentEffect s a db)
    (hother : ∀ event header traceDraw now, a ≠ .webhook event header traceDraw now) :
    db.inbox.map InboxRow.receipt = s.db.inbox.map InboxRow.receipt := by
  cases h with
  | nothing => rfl
  | created => rfl
  | settled => rw [closeIntents_inbox]
  | cancelled => rw [markFailedBySeatId, closeIntents_inbox]
  | received event header traceDraw now => exact absurd rfl (hother event header traceDraw now)
  | processed a stripeEventId now =>
    rw [markWebhookProcessed, map_update]
    intro r _
    rfl

theorem systemStep_receipts (env : SystemEnv) (s : System) {a : SystemAction}
    (hother : a.isWebhook = false) :
    (systemStep env s a).payment.db.inbox.map InboxRow.receipt =
      s.payment.db.inbox.map InboxRow.receipt := by
  rcases systemStep_payment env s a with ⟨c, hcall, heq⟩ | ⟨-, heq⟩ | ⟨w, -, heq⟩
  · rw [heq]
    apply (paymentStep_effect env.payment s.payment c).receipts
    rintro event header traceDraw now rfl
    cases paymentCall_cases hcall with
    | own c hlocal => cases hother
  · rw [heq]
  · rw [heq]

/-- The inbox holds these rows, up to what has become of them. -/
structure InboxIs (env : PspEnv) (s : PspSystem) (rows : List InboxRow) : Prop where
  wellFormed : s.system.WellFormed
  inbox : s.system.payment.db.inbox.map InboxRow.receipt = rows
  fresh : ∀ r ∈ rows, (r.receivedAt : Int) - r.payload.created * 1000 ≤
    env.system.payment.webhookToleranceMs

theorem InboxIs.step {env : PspEnv} {s : PspSystem} {rows : List InboxRow} (h : InboxIs env s rows)
    {a : PspAction} (hevents : PostsEvents env a) :
    InboxIs env (pspStep env s a) (rows ++ acknowledged env s a) := by
  cases a with
  | sign t body =>
    rw [acknowledged, List.append_nil]
    exact ⟨h.wellFormed, h.inbox, h.fresh⟩
  | webhook rawBody signature header traceDraw now =>
    have hwf :
        (pspStep env s (.webhook rawBody signature header traceDraw now)).system.WellFormed := by
      rcases request_cases env s rawBody signature header traceDraw now hevents with
        ⟨event, body, t, v1, -, heq⟩ | heq
      · rw [heq]
        exact h.wellFormed.step env.system (.payment (.webhook event header traceDraw now) rfl)
      · rw [heq]
        exact h.wellFormed
    rcases webhookRequest_cases env.system.payment rawBody signature header traceDraw now
        s.system.payment hevents with
      ⟨event, body, t, v1, hverified, -, hrequest, hinbox⟩ | ⟨hsame, hnot⟩
    · have hack : acknowledged env s (.webhook rawBody signature header traceDraw now) =
          [⟨event.id, event.type, event, now, none⟩] := by
        rw [acknowledged, PspEnv.request, hrequest, if_pos rfl, hverified.raw, Option.bind_some,
          hverified.reads]
        rfl
      rw [hack]
      refine ⟨hwf, ?_, ?_⟩
      · rw [pspStep, PspEnv.request, hrequest]
        dsimp only
        rw [hinbox, List.map_append, h.inbox]
        rfl
      · intro r hr
        rcases List.mem_append.mp hr with hr | hr
        · exact h.fresh r hr
        · rw [List.mem_singleton.mp hr]
          exact hverified.fresh
    · have hack : acknowledged env s (.webhook rawBody signature header traceDraw now) = [] :=
        if_neg hnot
      rw [hack, List.append_nil]
      refine ⟨hwf, ?_, h.fresh⟩
      rw [pspStep, PspEnv.request, hsame]
      exact h.inbox
  | system a hother =>
    rw [acknowledged, List.append_nil]
    exact ⟨h.wellFormed.step env.system a,
      (systemStep_receipts env.system s.system hother).trans h.inbox, h.fresh⟩

/-- **The inbox is what was acknowledged as new.**  In every run in which nothing but events of
    the interface verifies, whoever posts and whatever else happens, the rows of the inbox are
    the events answered with `deduplicated: false`, in the order of their answers; no id is
    among them twice, and none was older than the tolerance. -/
theorem inbox_acknowledged {s : PspSystem} (hseed : s.Seeded) (env : PspEnv) (as : List PspAction)
    (hevents : ∀ a ∈ as, PostsEvents env a) :
    (exec (pspStep env) s as).system.payment.db.inbox.map InboxRow.receipt =
        outputs (pspStep env) (acknowledged env) s as ∧
      ((outputs (pspStep env) (acknowledged env) s as).map InboxRow.stripeEventId).Nodup ∧
      ∀ r ∈ outputs (pspStep env) (acknowledged env) s as,
        (r.receivedAt : Int) - r.payload.created * 1000 ≤
          env.system.payment.webhookToleranceMs := by
  have hstart : InboxIs env s [] :=
    ⟨hseed.system.wellFormed, by simp [hseed.system.payment.inbox], by simp⟩
  have hend := exec_outputs_invariant (InboxIs env) (fun _ _ a h ha => h.step (hevents a ha))
    hstart (along_mem s (List.Subset.refl as))
  rw [List.nil_append] at hend
  refine ⟨hend.inbox, ?_, hend.fresh⟩
  rw [← hend.inbox, List.map_map]
  exact hend.wellFormed.payment.inboxKeys

theorem inbox_acknowledged_once :
    (exec (pspStep paidEnv) ⟨seedSystem, []⟩ signedRun).system.payment.db.inbox.map
        InboxRow.receipt =
      outputs (pspStep paidEnv) (acknowledged paidEnv) ⟨seedSystem, []⟩ signedRun :=
  (inbox_acknowledged ⟨seedSystem_seeded, rfl⟩ paidEnv signedRun (by decide +kernel)).1

end SeatReservation
