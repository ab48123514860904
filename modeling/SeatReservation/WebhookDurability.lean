import SeatReservation.PaymentSafety

/-!
# When a processed success webhook has completed its intent

A success event is taken off the inbox by `markWebhookProcessed`, whatever
`markCompleted` found.  If the row of the intent is already FAILED, is only
inserted afterwards, or never is because the checkout has given up, the event is
gone and the intent never completes.  In a run where each success event for a psp
id that is handled finds its intent, a processed one always has a COMPLETED intent
(`success_kept`), through crashes, repeated deliveries and any number of
reprocessors.

The invariant follows the event through its three carriers: the task in memory,
the batch of a reprocessor, and the row of the inbox.
-/

namespace SeatReservation

open Relational TransitionSystem

def successType : String := "payment_intent.succeeded"

def isSuccessFor (pspIntentId type : String) (objectId : ObjectId) : Bool :=
  type == successType && objectId == .text pspIntentId

/-- The event an action hands to `markCompleted` or `markFailed`. -/
def handledEvent (s : PaymentService) : PaymentAction → Option (String × ObjectId)
  | .processEvent i _ =>
      match s.tasks[i]? with
      | some t => if t.handled then none else some (t.event.type, t.event.objectId)
      | none => none
  | .reprocess i _ _ =>
      match s.reprocessings[i]? with
      | some ⟨row :: _, false⟩ => some (row.type, row.payload.objectId)
      | _ => none
  | _ => none

/-- A success event for the psp id is handled only while its intent is there, and not FAILED. -/
def SuccessInTime (p : String) (s : PaymentService) (a : PaymentAction) : Prop :=
  ∀ e ∈ handledEvent s a, isSuccessFor p e.1 e.2 = true →
    ∃ i ∈ s.db.intents, i.pspIntentId = p ∧ i.status ≠ .failed

/-- A processed success event for the psp id has its intent, and the intent is COMPLETED. -/
def SuccessKept (p : String) (db : PaymentDb) : Prop :=
  ∀ r ∈ db.inbox, r.processedAt.isSome = true →
    isSuccessFor p r.type r.payload.objectId = true →
      (∃ i ∈ db.intents, i.pspIntentId = p) ∧
        ∀ i ∈ db.intents, i.pspIntentId = p → i.status = .completed

/-! ### What the actions keep -/

/-- If this is a success event for the psp id, its intent is there and COMPLETED. -/
def Paid (p type : String) (objectId : ObjectId) (db : PaymentDb) : Prop :=
  isSuccessFor p type objectId = true →
    ∃ i ∈ db.intents, i.pspIntentId = p ∧ i.status = .completed

def Recorded (id type : String) (payload : PSPWebhookEvent) (db : PaymentDb) : Prop :=
  ∃ r ∈ db.inbox, r.stripeEventId = id ∧ r.type = type ∧ r.payload = payload

section Durable

variable {p : String}

theorem PaymentEffect.recorded {s : PaymentService} {a : PaymentAction} {db : PaymentDb}
    (heffect : PaymentEffect s a db) {id type : String} {payload : PSPWebhookEvent}
    (h : Recorded id type payload s.db) : Recorded id type payload db := by
  obtain ⟨r, hr, hid, htype, hpayload⟩ := h
  cases heffect with
  | nothing => exact ⟨r, hr, hid, htype, hpayload⟩
  | created => exact ⟨r, hr, hid, htype, hpayload⟩
  | settled =>
    refine ⟨r, ?_, hid, htype, hpayload⟩
    rw [closeIntents_inbox]
    exact hr
  | cancelled =>
    refine ⟨r, ?_, hid, htype, hpayload⟩
    rw [markFailedBySeatId, closeIntents_inbox]
    exact hr
  | received event header traceDraw now hnew =>
    exact ⟨r, List.mem_append_left _ hr, hid, htype, hpayload⟩
  | processed a stripeEventId now =>
    by_cases hsame : r.stripeEventId = stripeEventId
    · refine ⟨{ r with processedAt := some now }, ?_, hid, htype, hpayload⟩
      exact mem_update_of_mem hr (by simp [hsame])
    · refine ⟨r, ?_, hid, htype, hpayload⟩
      exact mem_update.mpr (Or.inr ⟨hr, by simp [hsame]⟩)

/-- Ending PENDING intents leaves a COMPLETED one alone. -/
theorem Paid.close {type : String} {objectId : ObjectId} {db db' : PaymentDb}
    (h : Paid p type objectId db) {closes : PaymentIntentRow → Bool} {status : IntentStatus}
    {now : Nat} (hpending : ∀ i, closes i = true → i.status = .pending)
    (hintents : db'.intents = update closes (PaymentIntentRow.close status now) db.intents) :
    Paid p type objectId db' := by
  intro hsuccess
  obtain ⟨i, hi, hpsp, hcompleted⟩ := h hsuccess
  have hkept : closes i = false := by
    rw [Bool.eq_false_iff]
    intro hp
    rw [hpending i hp] at hcompleted
    simp at hcompleted
  refine ⟨i, ?_, hpsp, hcompleted⟩
  rw [hintents]
  exact mem_update.mpr (Or.inr ⟨hi, hkept⟩)

/-- **A COMPLETED intent stays.** -/
theorem PaymentEffect.paid {s : PaymentService} {a : PaymentAction} {db : PaymentDb}
    (heffect : PaymentEffect s a db) {type : String} {objectId : ObjectId}
    (h : Paid p type objectId s.db) : Paid p type objectId db := by
  cases heffect with
  | nothing => exact h
  | created i d c price pspIntentId clientSecret hget hstage hfree =>
    intro hsuccess
    obtain ⟨i', hi', hpsp, hcompleted⟩ := h hsuccess
    exact ⟨i', List.mem_append_left _ hi', hpsp, hcompleted⟩
  | settled a status eventType event pspIntentId traceId d hdraw hkind =>
    exact h.close (fun i hi => (isPendingPsp_iff.mp hi).2) (closeIntents_intents ..)
  | cancelled seatId traceId d =>
    exact h.close (fun i hi => (isPendingOnSeat_iff.mp hi).2) (closeIntents_intents ..)
  | received event header traceDraw now hnew => exact h
  | processed a stripeEventId now => exact h

/-! ### The three carriers of an event -/

def InboxPaid (p : String) (db : PaymentDb) : Prop :=
  ∀ r ∈ db.inbox, r.processedAt.isSome = true → Paid p r.type r.payload.objectId db

def TaskOk (p : String) (db : PaymentDb) (t : WebhookTask) : Prop :=
  Recorded t.event.id t.event.type t.event db ∧
    (t.handled = true → Paid p t.event.type t.event.objectId db)

def BatchOk (p : String) (db : PaymentDb) (q : Reprocessing) : Prop :=
  (∀ row ∈ q.rows, Recorded row.stripeEventId row.type row.payload db) ∧
    (q.handled = true → ∀ row ∈ q.rows.head?, Paid p row.type row.payload.objectId db)

/-- The rest of a batch, after its first row is done with. -/
theorem BatchOk.tail {db : PaymentDb} {q : Reprocessing} (hq : BatchOk p db q) :
    BatchOk p db ⟨q.rows.tail, false⟩ :=
  ⟨fun row hrow => hq.1 row (List.mem_of_mem_tail hrow), by simp⟩

structure Durable (p : String) (s : PaymentService) : Prop extends s.WellFormed where
  inbox : InboxPaid p s.db
  tasks : ∀ t ∈ s.tasks, TaskOk p s.db t
  batches : ∀ q ∈ s.reprocessings, BatchOk p s.db q

theorem Durable.successKept {s : PaymentService} (h : Durable p s) : SuccessKept p s.db := by
  intro r hr hprocessed hsuccess
  obtain ⟨i, hi, hpsp, hcompleted⟩ := h.inbox r hr hprocessed hsuccess
  refine ⟨⟨i, hi, hpsp⟩, ?_⟩
  intro j hj hjpsp
  rw [h.toWellFormed.eq_of_pspIntentId hj hi (hjpsp.trans hpsp.symm)]
  exact hcompleted

theorem PaymentService.Seeded.durable {s : PaymentService} (h : s.Seeded) (p : String) :
    Durable p s where
  toWellFormed := h.wellFormed
  inbox := by intro r hr; simp [h.inbox] at hr
  tasks := by intro t ht; simp [h.tasks] at ht
  batches := by intro q hq; simp [h.reprocessings] at hq

/-- The carriers of `s`, seen from the database after an action. -/
theorem Durable.carriers {s : PaymentService} (h : Durable p s) (env : PaymentEnv)
    (a : PaymentAction) :
    (∀ r ∈ s.db.inbox, r.processedAt.isSome = true →
      Paid p r.type r.payload.objectId (paymentStep env s a).db) ∧
    (∀ t ∈ s.tasks, TaskOk p (paymentStep env s a).db t) ∧
    ∀ q ∈ s.reprocessings, BatchOk p (paymentStep env s a).db q := by
  have heffect := paymentStep_effect env s a
  refine ⟨?_, ?_, ?_⟩
  · intro r hr hprocessed
    exact heffect.paid (h.inbox r hr hprocessed)
  · intro t ht
    obtain ⟨hrec, hpaid⟩ := h.tasks t ht
    exact ⟨heffect.recorded hrec, fun hhandled => heffect.paid (hpaid hhandled)⟩
  · intro q hq
    obtain ⟨hrec, hpaid⟩ := h.batches q hq
    refine ⟨fun row hrow => heffect.recorded (hrec row hrow), ?_⟩
    intro hhandled head hhead
    exact heffect.paid (hpaid hhandled head hhead)

/-- Marking an event processed is sound once it is paid. -/
theorem InboxPaid.mark {db : PaymentDb} (hkeys : KeyedBy InboxRow.stripeEventId db.inbox)
    (hinbox : InboxPaid p db) {id type : String} {payload : PSPWebhookEvent} (now : Nat)
    (hrec : Recorded id type payload db) (hpaid : Paid p type payload.objectId db) :
    InboxPaid p (markWebhookProcessed id now db) := by
  obtain ⟨r₀, hr₀, hid₀, htype₀, hpayload₀⟩ := hrec
  intro r hr hprocessed
  rcases mem_update.mp hr with ⟨r₁, hr₁, hsame, rfl⟩ | ⟨hr, -⟩
  · have heq : r₁ = r₀ := hkeys.eq_of_mem hr₁ hr₀ ((by simpa using hsame : _ = id).trans hid₀.symm)
    rw [heq]
    change Paid p r₀.type r₀.payload.objectId db
    rw [htype₀, hpayload₀]
    exact hpaid
  · exact hinbox r hr hprocessed

/-! ### Handling an event -/

theorem handleEvent_inbox {type : String} {objectId : ObjectId} {traceId : String} {d : Draw}
    {db db' : PaymentDb} (h : handleEvent type objectId traceId d db = some db') :
    db'.inbox = db.inbox := by
  unfold handleEvent at h
  split at h
  · cases objectId with
    | unreadable => simp at h
    | absent => cases h; rfl
    | text p =>
      cases h
      exact closeIntents_inbox ..
  · split at h
    · cases objectId with
      | unreadable => simp at h
      | absent => cases h; rfl
      | text p =>
        cases h
        exact closeIntents_inbox ..
    · cases h; rfl

/-- Handling a success event completes its intent, if it is there and not FAILED. -/
theorem handleEvent_paid {type : String} {objectId : ObjectId} {traceId : String} {d : Draw}
    {db db' : PaymentDb} (h : handleEvent type objectId traceId d db = some db')
    (hthere : isSuccessFor p type objectId = true →
      ∃ i ∈ db.intents, i.pspIntentId = p ∧ i.status ≠ .failed) :
    Paid p type objectId db' := by
  intro hsuccess
  obtain ⟨i, hi, rfl, hnot⟩ := hthere hsuccess
  simp only [isSuccessFor, Bool.and_eq_true, beq_iff_eq] at hsuccess
  obtain ⟨rfl, rfl⟩ := hsuccess
  simp only [handleEvent, successType, if_true] at h
  obtain rfl := Option.some.inj h
  unfold markCompleted
  rw [closeIntents_intents]
  cases hstatus : i.status with
  | pending =>
    exact ⟨_, mem_update_of_mem hi (isPendingPsp_iff.mpr ⟨rfl, hstatus⟩), rfl, rfl⟩
  | completed =>
    refine ⟨i, mem_update.mpr (Or.inr ⟨hi, ?_⟩), rfl, hstatus⟩
    rw [Bool.eq_false_iff]
    intro hpending
    rw [(isPendingPsp_iff.mp hpending).2] at hstatus
    simp at hstatus
  | failed => exact absurd hstatus hnot

/-! ### One step -/

/-- An action that leaves the inbox alone and adds no carrier keeps the invariant. -/
theorem Durable.frame {env : PaymentEnv} {s : PaymentService} {a : PaymentAction} (h : Durable p s)
    (hinbox : (paymentStep env s a).db.inbox = s.db.inbox)
    (htasks : (paymentStep env s a).tasks ⊆ s.tasks)
    (hbatches : (paymentStep env s a).reprocessings ⊆ s.reprocessings) :
    Durable p (paymentStep env s a) := by
  obtain ⟨hrows, htasks', hbatches'⟩ := h.carriers env a
  refine ⟨h.toWellFormed.step env a, ?_, ?_, ?_⟩
  · intro r hr
    rw [hinbox] at hr
    exact hrows r hr
  · intro t ht
    exact htasks' t (htasks ht)
  · intro q hq
    exact hbatches' q (hbatches hq)

theorem Durable.webhook {s : PaymentService} (h : Durable p s) (env : PaymentEnv)
    (event : PSPWebhookEvent) (header : Option String) (traceDraw : Uuid) (now : Nat) :
    Durable p (paymentStep env s (.webhook event header traceDraw now)) := by
  have hwf := h.toWellFormed.step env (.webhook event header traceDraw now)
  obtain ⟨hrows, htasks, hbatches⟩ := h.carriers env (.webhook event header traceDraw now)
  simp only [paymentStep, SeatReservation.webhook, insertWebhookInbox]
    at hwf hrows htasks hbatches ⊢
  by_cases hstale : (now : Int) - event.created * 1000 > env.webhookToleranceMs
  · simp only [if_pos hstale]
    exact h
  · simp only [if_neg hstale] at hwf hrows htasks hbatches ⊢
    by_cases hdup : (s.db.inbox.any fun r => r.stripeEventId == event.id) = true
    · simp only [if_pos hdup]
      exact h
    · simp only [if_neg hdup] at hwf hrows htasks hbatches ⊢
      refine ⟨hwf, ?_, ?_, hbatches⟩
      · intro r hr hprocessed
        rcases List.mem_append.mp hr with hr | hr
        · exact hrows r hr hprocessed
        · rw [List.mem_singleton.mp hr] at hprocessed
          simp at hprocessed
      · intro t ht
        rcases List.mem_append.mp ht with ht | ht
        · exact htasks t ht
        · rw [List.mem_singleton.mp ht]
          refine ⟨⟨⟨event.id, event.type, event, now, none⟩, ?_, rfl, rfl, rfl⟩, by simp⟩
          exact List.mem_append_right _ List.mem_cons_self

theorem Durable.processEvent {env : PaymentEnv} {s : PaymentService} (h : Durable p s) {i : Nat}
    {d : Draw} (hok : SuccessInTime p s (.processEvent i d)) :
    Durable p (paymentStep env s (.processEvent i d)) := by
  have hwf := h.toWellFormed.step env (.processEvent i d)
  have hcarriers := h.carriers env (.processEvent i d)
  have htask := processEvent_cases env s i d
  generalize paymentStep env s (.processEvent i d) = s' at htask hwf hcarriers ⊢
  obtain ⟨hrows, htasks, hbatches⟩ := hcarriers
  cases htask with
  | missing hget => exact h
  | marked t hget hhandled =>
    -- The event was handled before, so it may be marked now.
    have ht := h.tasks t (List.mem_of_getElem? hget)
    refine ⟨hwf, h.inbox.mark h.inboxKeys d.now ht.1 (ht.2 hhandled), ?_, hbatches⟩
    intro t' ht'
    exact htasks t' (List.mem_of_mem_eraseIdx ht')
  | handled t db hget hhandled hev =>
    have hevent : handledEvent s (.processEvent i d) = some (t.event.type, t.event.objectId) := by
      simp [handledEvent, hget, hhandled]
    refine ⟨hwf, ?_, ?_, hbatches⟩
    · intro r hr
      rw [handleEvent_inbox hev] at hr
      exact hrows r hr
    · intro t' ht'
      rcases List.mem_or_eq_of_mem_set ht' with ht' | rfl
      · exact htasks t' ht'
      · refine ⟨(htasks t (List.mem_of_getElem? hget)).1, fun _ => handleEvent_paid hev ?_⟩
        exact hok _ hevent
  | thrown t hget hhandled hev =>
    refine ⟨hwf, h.inbox, ?_, h.batches⟩
    intro t' ht'
    exact h.tasks t' (List.mem_of_mem_eraseIdx ht')

theorem Durable.reprocess {env : PaymentEnv} {s : PaymentService} (h : Durable p s) {i : Nat}
    {traceDraw : Uuid} {d : Draw} (hok : SuccessInTime p s (.reprocess i traceDraw d)) :
    Durable p (paymentStep env s (.reprocess i traceDraw d)) := by
  have hwf := h.toWellFormed.step env (.reprocess i traceDraw d)
  have hcarriers := h.carriers env (.reprocess i traceDraw d)
  have hbatch := reprocess_cases env s i traceDraw d
  generalize paymentStep env s (.reprocess i traceDraw d) = s' at hbatch hwf hcarriers ⊢
  obtain ⟨hrows, htasks, hbatches⟩ := hcarriers
  -- Whatever becomes of the batch, the other carriers are as before.
  have hothers : ∀ {db : PaymentDb} {q' : Reprocessing}, (∀ r ∈ s.reprocessings, BatchOk p db r) →
      BatchOk p db q' → ∀ r ∈ s.reprocessings.set i q', BatchOk p db r := by
    intro db q' hbatches hq' r hr
    rcases List.mem_or_eq_of_mem_set hr with hr | rfl
    · exact hbatches r hr
    · exact hq'
  cases hbatch with
  | missing hget => exact h
  | finished q hget hrows =>
    have hq := h.batches q (List.mem_of_getElem? hget)
    exact ⟨hwf, h.inbox, h.tasks, hothers h.batches hq⟩
  | marked row rest hget =>
    have hmem := List.mem_of_getElem? hget
    have hq := h.batches _ hmem
    have hrow := hq.1 row List.mem_cons_self
    exact ⟨hwf, h.inbox.mark h.inboxKeys d.now hrow (hq.2 rfl row rfl), htasks,
      hothers hbatches (hbatches _ hmem).tail⟩
  | handled row rest db hget hev =>
    have hevent : handledEvent s (.reprocess i traceDraw d) =
        some (row.type, row.payload.objectId) := by
      simp [handledEvent, hget]
    refine ⟨hwf, ?_, htasks, hothers hbatches ?_⟩
    · intro r hr
      rw [handleEvent_inbox hev] at hr
      exact hrows r hr
    · refine ⟨(hbatches _ (List.mem_of_getElem? hget)).1, ?_⟩
      intro _ r hr
      obtain rfl := Option.some.inj hr
      exact handleEvent_paid hev (hok _ hevent)
  | thrown row rest hget hev =>
    have hq := h.batches _ (List.mem_of_getElem? hget)
    exact ⟨hwf, h.inbox, h.tasks, hothers h.batches hq.tail⟩

theorem Durable.step {env : PaymentEnv} {s : PaymentService} {a : PaymentAction} (h : Durable p s)
    (hok : SuccessInTime p s a) : Durable p (paymentStep env s a) := by
  cases a with
  | webhook event header traceDraw now => exact h.webhook env event header traceDraw now
  | processEvent i d => exact h.processEvent hok
  | reprocess i traceDraw d => exact h.reprocess hok
  | reprocessTick =>
    refine ⟨h.toWellFormed.step env .reprocessTick, h.inbox, h.tasks, ?_⟩
    intro q hq
    rcases List.mem_append.mp hq with hq | hq
    · exact h.batches q hq
    · rw [List.mem_singleton.mp hq]
      refine ⟨?_, by simp⟩
      intro row hrow
      have hmem := (List.mem_insertionSort _).mp (List.mem_of_mem_take hrow)
      exact ⟨row, List.mem_of_mem_filter hmem, rfl, rfl, rfl⟩
  | reprocessSkip i =>
    refine ⟨h.toWellFormed.step env (.reprocessSkip i), h.inbox, h.tasks, ?_⟩
    intro q hq
    rcases mem_modify hq with hq | ⟨q₀, hq₀, rfl⟩
    · exact h.batches q hq
    · exact (h.batches q₀ hq₀).tail
  | checkout request => exact h.frame rfl (List.Subset.refl _) (List.Subset.refl _)
  | checkoutStep i d =>
    apply h.frame
    · simp only [paymentStep]
      split
      · exact (checkoutStep_cases ..).2.inbox
      · rfl
    · simp only [paymentStep]
      split
      · exact List.Subset.refl _
      · exact List.Subset.refl _
    · simp only [paymentStep]
      split
      · exact List.Subset.refl _
      · exact List.Subset.refl _
  | checkoutLost i => exact h.frame rfl (List.Subset.refl _) (List.Subset.refl _)
  | processEventLost i => exact h.frame rfl List.eraseIdx_subset (List.Subset.refl _)
  | reprocessLost i => exact h.frame rfl (List.Subset.refl _) List.eraseIdx_subset
  | seatReleased seatId traceId d =>
    exact h.frame (closeIntents_inbox ..) (List.Subset.refl _) (List.Subset.refl _)

end Durable

/-- **If each success event for a psp id finds, when it is handled, the intent of the id, and finds
    it not FAILED, then in every state of the run each processed success event for the id has its
    intent COMPLETED**, whatever has become of the checkout that called the PSP. -/
theorem success_kept {s : PaymentService} (hseed : s.Seeded) (env : PaymentEnv) (p : String)
    (as : List PaymentAction) (hok : Along (paymentStep env) (SuccessInTime p) s as) :
    Along (paymentStep env) (fun s a => SuccessKept p (paymentStep env s a).db) s as := by
  apply along_of_invariant (Durable p) _ _ _ hok
  · intro s a h hok
    exact h.step hok
  · intro s a h hok
    exact (h.step hok).successKept
  · exact hseed.durable p

instance (p : String) (s : PaymentService) (a : PaymentAction) : Decidable (SuccessInTime p s a) :=
  inferInstanceAs (Decidable (∀ e ∈ handledEvent s a, isSuccessFor p e.1 e.2 = true →
    ∃ i ∈ s.db.intents, i.pspIntentId = p ∧ i.status ≠ .failed))

/-- The PSP reports success after it has answered and before the INSERT. -/
def earlyWebhook : List PaymentAction :=
  (checkoutRun 0 ⟨⟨1, 201, firstKey⟩, 101⟩ 901).take 4 ++ succeededRun "evt_1" firstKey 501 ++
    [.checkoutStep 0 ⟨901, "", true⟩]

/-- The PSP has taken the call, but the checkout has given up waiting for the answer. -/
def unansweredCheckout : List PaymentAction :=
  (checkoutRun 0 ⟨⟨1, 201, firstKey⟩, 101⟩ 901).take 3 ++ [.checkoutStep 0 ⟨901, "", false⟩] ++
    succeededRun "evt_1" firstKey 501

/-- The checkout has answered and the event is marked processed, but the intent, inserted too
    late, is PENDING; after a timeout there is no intent at all. -/
theorem earlyWebhook_swallowed :
    seedPrices.Seeded ∧
      (let s := exec (paymentStep defaultPaymentEnv) seedPrices earlyWebhook
      (∃ c ∈ s.checkouts, c.stage = .done (.ok 901 (clientSecretOf (pspIntentIdOf firstKey.text) "")
        1900 "USD" false)) ∧
      ∃ r ∈ s.db.inbox, r.type = successType ∧ r.processedAt ≠ none ∧
        ∃ i ∈ s.db.intents, r.payload.objectId = .text i.pspIntentId ∧ i.status = .pending) ∧
      (let s := exec (paymentStep defaultPaymentEnv) seedPrices unansweredCheckout
      (∃ c ∈ s.checkouts, c.request.dto.idempotencyKey.text = firstKey.text ∧
        c.stage = .done (.badRequest "psp_unavailable")) ∧
      (∃ r ∈ s.db.inbox, r.type = successType ∧ r.processedAt ≠ none ∧
        r.payload.objectId = .text (pspIntentIdOf firstKey.text)) ∧
      s.db.intents = []) :=
  ⟨seedPrices_seeded, by decide +kernel, by decide +kernel⟩

/-- After the INSERT the same webhook completes the intent. -/
theorem lateWebhook_kept :
    Along (paymentStep defaultPaymentEnv)
      (fun s a => SuccessKept (pspIntentIdOf firstKey.text) (paymentStep defaultPaymentEnv s a).db)
      seedPrices
      (checkoutRun 0 ⟨⟨1, 201, firstKey⟩, 101⟩ 901 ++ succeededRun "evt_1" firstKey 501) :=
  success_kept seedPrices_seeded defaultPaymentEnv _ _ (by decide +kernel)

end SeatReservation
