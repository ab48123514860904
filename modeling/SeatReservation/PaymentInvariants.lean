import SeatReservation.PaymentService

/-!
# Invariants of the payment service

What an action can do to `payment_db` (`PaymentEffect`), and the invariants that
hold in every reachable state: the unique keys of the schema, and the fact that
the PSP id of an intent is determined by the idempotency key its client wrote.
The second one makes PSP ids pairwise distinct, so that a webhook ends at most
one intent.
-/

namespace SeatReservation

open Relational TransitionSystem

/-! ### What an action can do to the database -/

/-- What an action draws for the event it may append. -/
def PaymentAction.eventDraw : PaymentAction → Option Draw
  | .processEvent _ d => some d
  | .reprocess _ _ d => some d
  | .seatReleased _ _ d => some d
  | _ => none

inductive PaymentEffect (s : PaymentService) : PaymentAction → PaymentDb → Prop where
  | nothing (a : PaymentAction) : PaymentEffect s a s.db
  /-- The INSERT of a checkout that has called the PSP. -/
  | created (i : Nat) (d : CheckoutDraw) (c : Checkout) (price : SeatPrice)
      (pspIntentId clientSecret : String) (hget : s.checkouts[i]? = some c)
      (hstage : c.stage = .pspCalled price pspIntentId clientSecret)
      (hfree : intentViolation s.db.intents
        (newIntent c.request price pspIntentId clientSecret d.intentId) = none) :
      PaymentEffect s (.checkoutStep i d)
        { s.db with intents :=
            s.db.intents ++ [newIntent c.request price pspIntentId clientSecret d.intentId] }
  /-- `markCompleted` or `markFailed` for the PSP id a webhook event names. -/
  | settled (a : PaymentAction) (status : IntentStatus) (eventType : String)
      (event : PaymentIntentRow → Event) (pspIntentId traceId : String) (d : Draw)
      (hdraw : a.eventDraw = some d)
      (hkind : (status = .completed ∧ eventType = "payment.succeeded.v1" ∧
          event = paymentSucceededEvent traceId d) ∨
        (status = .failed ∧ eventType = "payment.failed.v1" ∧
          event = paymentFailedEvent "payment_failed" traceId d)) :
      PaymentEffect s a
        (closeIntents (isPendingPsp pspIntentId) status eventType event traceId d.now s.db).2
  | cancelled (seatId : Uuid) (traceId : String) (d : Draw) :
      PaymentEffect s (.seatReleased seatId traceId d)
        (markFailedBySeatId seatId "seat_released" traceId d s.db).2
  | received (event : PSPWebhookEvent) (header : Option String) (traceDraw : Uuid) (now : Nat)
      (hnew : ∀ r ∈ s.db.inbox, r.stripeEventId ≠ event.id) :
      PaymentEffect s (.webhook event header traceDraw now)
        { s.db with inbox := s.db.inbox ++ [⟨event.id, event.type, event, now, none⟩] }
  | processed (a : PaymentAction) (stripeEventId : String) (now : Nat) :
      PaymentEffect s a (markWebhookProcessed stripeEventId now s.db)

/-- The possible outcomes of handling one event. -/
theorem handleEvent_effect {s : PaymentService} {a : PaymentAction} {type : String}
    {objectId : ObjectId} {traceId : String} {d : Draw} {db : PaymentDb}
    (hdraw : a.eventDraw = some d) (h : handleEvent type objectId traceId d s.db = some db) :
    PaymentEffect s a db := by
  unfold handleEvent at h
  split at h
  · cases objectId with
    | unreadable => simp at h
    | absent =>
      cases h
      exact .nothing a
    | text p =>
      cases h
      exact .settled a .completed _ _ p traceId d hdraw (Or.inl ⟨rfl, rfl, rfl⟩)
  · split at h
    · cases objectId with
      | unreadable => simp at h
      | absent =>
        cases h
        exact .nothing a
      | text p =>
        cases h
        exact .settled a .failed _ _ p traceId d hdraw (Or.inr ⟨rfl, rfl, rfl⟩)
    · cases h
      exact .nothing a

/-- What one statement of a checkout does: the stage it leads to, and the database. -/
inductive CheckoutEffect (d : CheckoutDraw) (c : Checkout) (db : PaymentDb) :
    CheckoutStage → PaymentDb → Prop where
  | priced (price : SeatPrice) (hprice : getSeatPrice c.request.dto.seatId db = some price) :
      CheckoutEffect d c db (.priced price) db
  | pspCalled (price : SeatPrice) (clientSecret : String) (hstage : c.stage = .priced price) :
      CheckoutEffect d c db
        (.pspCalled price (pspIntentIdOf c.request.dto.idempotencyKey.text) clientSecret) db
  | created (price : SeatPrice) (pspIntentId clientSecret : String) (response : CheckoutResponse)
      (hstage : c.stage = .pspCalled price pspIntentId clientSecret)
      (hfree : intentViolation db.intents
        (newIntent c.request price pspIntentId clientSecret d.intentId) = none) :
      CheckoutEffect d c db (.done response)
        { db with intents :=
            db.intents ++ [newIntent c.request price pspIntentId clientSecret d.intentId] }
  | missed : CheckoutEffect d c db .missed db
  | raced : CheckoutEffect d c db .raced db
  | done (response : CheckoutResponse) : CheckoutEffect d c db (.done response) db

theorem checkoutStep_cases (d : CheckoutDraw) (c : Checkout) (db : PaymentDb) :
    (checkoutStep d c db).1.request = c.request ∧
      CheckoutEffect d c db (checkoutStep d c db).1.stage (checkoutStep d c db).2 := by
  obtain ⟨request, stage⟩ := c
  unfold checkoutStep
  cases stage with
  | started =>
    dsimp only
    split
    · exact ⟨rfl, .done _⟩
    · exact ⟨rfl, .missed⟩
  | missed =>
    dsimp only
    split
    · rename_i price hprice
      exact ⟨rfl, .priced price hprice⟩
    · exact ⟨rfl, .done _⟩
  | priced price =>
    dsimp only
    split
    · exact ⟨rfl, .pspCalled price _ rfl⟩
    · exact ⟨rfl, .done _⟩
  | pspCalled price pspIntentId clientSecret =>
    dsimp only
    unfold createIntent
    cases hviol : intentViolation db.intents
        (newIntent request price pspIntentId clientSecret d.intentId) with
    | none => exact ⟨rfl, .created price pspIntentId clientSecret _ rfl hviol⟩
    | some err =>
      dsimp only
      split
      · exact ⟨rfl, .raced⟩
      · exact ⟨rfl, .done _⟩
  | raced =>
    dsimp only
    split
    · exact ⟨rfl, .done _⟩
    · exact ⟨rfl, .done _⟩
  | done response => exact ⟨rfl, .done response⟩

theorem checkoutStep_effect {s : PaymentService} {i : Nat} {c : Checkout} (d : CheckoutDraw)
    (hget : s.checkouts[i]? = some c) :
    PaymentEffect s (.checkoutStep i d) (checkoutStep d c s.db).2 := by
  have heffect := (checkoutStep_cases d c s.db).2
  generalize (checkoutStep d c s.db).1.stage = stage at heffect
  generalize (checkoutStep d c s.db).2 = db at heffect
  cases heffect with
  | created price pspIntentId clientSecret response hstage hfree =>
    exact .created i d c price pspIntentId clientSecret hget hstage hfree
  | _ => exact .nothing _

/-- What a transaction of `processEvent` does: the event is handled, or marked
    processed once it has been; an exception ends the task. -/
inductive TaskEffect (s : PaymentService) (i : Nat) (d : Draw) : PaymentService → Prop where
  | missing (hget : s.tasks[i]? = none) : TaskEffect s i d s
  | marked (t : WebhookTask) (hget : s.tasks[i]? = some t) (hhandled : t.handled = true) :
      TaskEffect s i d
        { s with db := markWebhookProcessed t.event.id d.now s.db, tasks := s.tasks.eraseIdx i }
  | handled (t : WebhookTask) (db : PaymentDb) (hget : s.tasks[i]? = some t)
      (hhandled : t.handled = false)
      (hev : handleEvent t.event.type t.event.objectId t.traceId d s.db = some db) :
      TaskEffect s i d { s with db := db, tasks := s.tasks.set i { t with handled := true } }
  | thrown (t : WebhookTask) (hget : s.tasks[i]? = some t) (hhandled : t.handled = false)
      (hev : handleEvent t.event.type t.event.objectId t.traceId d s.db = none) :
      TaskEffect s i d { s with tasks := s.tasks.eraseIdx i }

theorem processEvent_cases (env : PaymentEnv) (s : PaymentService) (i : Nat) (d : Draw) :
    TaskEffect s i d (paymentStep env s (.processEvent i d)) := by
  simp only [paymentStep]
  cases hget : s.tasks[i]? with
  | none => exact .missing hget
  | some t =>
    dsimp only
    unfold processEventStep
    cases hhandled : t.handled with
    | true => exact .marked t hget hhandled
    | false =>
      simp only [Bool.false_eq_true, if_false]
      cases hev : handleEvent t.event.type t.event.objectId t.traceId d s.db with
      | none => exact .thrown t hget hhandled hev
      | some db => exact .handled t db hget hhandled hev

/-- What a transaction of `reprocess` does to its batch, whose first row is the
    current one. -/
inductive BatchEffect (s : PaymentService) (i : Nat) (traceDraw : Uuid) (d : Draw) :
    PaymentService → Prop where
  | missing (hget : s.reprocessings[i]? = none) : BatchEffect s i traceDraw d s
  | finished (q : Reprocessing) (hget : s.reprocessings[i]? = some q) (hrows : q.rows = []) :
      BatchEffect s i traceDraw d { s with reprocessings := s.reprocessings.set i q }
  | marked (row : InboxRow) (rest : List InboxRow)
      (hget : s.reprocessings[i]? = some ⟨row :: rest, true⟩) :
      BatchEffect s i traceDraw d
        { s with
          db := markWebhookProcessed row.stripeEventId d.now s.db
          reprocessings := s.reprocessings.set i ⟨rest, false⟩ }
  | handled (row : InboxRow) (rest : List InboxRow) (db : PaymentDb)
      (hget : s.reprocessings[i]? = some ⟨row :: rest, false⟩)
      (hev : handleEvent row.type row.payload.objectId (reprocessTraceId traceDraw) d s.db =
        some db) :
      BatchEffect s i traceDraw d
        { s with db := db, reprocessings := s.reprocessings.set i ⟨row :: rest, true⟩ }
  | thrown (row : InboxRow) (rest : List InboxRow)
      (hget : s.reprocessings[i]? = some ⟨row :: rest, false⟩)
      (hev : handleEvent row.type row.payload.objectId (reprocessTraceId traceDraw) d s.db =
        none) :
      BatchEffect s i traceDraw d { s with reprocessings := s.reprocessings.set i ⟨rest, false⟩ }

theorem reprocess_cases (env : PaymentEnv) (s : PaymentService) (i : Nat) (traceDraw : Uuid)
    (d : Draw) :
    BatchEffect s i traceDraw d (paymentStep env s (.reprocess i traceDraw d)) := by
  simp only [paymentStep]
  cases hget : s.reprocessings[i]? with
  | none => exact .missing hget
  | some q =>
    obtain ⟨rows, handled⟩ := q
    unfold reprocessStep
    cases rows with
    | nil => exact .finished ⟨[], handled⟩ hget rfl
    | cons row rest =>
      cases handled with
      | true => exact .marked row rest hget
      | false =>
        simp only [Bool.false_eq_true, if_false]
        cases hev : handleEvent row.type row.payload.objectId (reprocessTraceId traceDraw) d
            s.db with
        | none => exact .thrown row rest hget hev
        | some db => exact .handled row rest db hget hev

/-- **Everything an action of the payment service can do to its database.** -/
theorem paymentStep_effect (env : PaymentEnv) (s : PaymentService) (a : PaymentAction) :
    PaymentEffect s a (paymentStep env s a).db := by
  cases a with
  | checkoutStep i d =>
    simp only [paymentStep]
    cases hget : s.checkouts[i]? with
    | none => exact .nothing _
    | some c => exact checkoutStep_effect d hget
  | webhook event header traceDraw now =>
    simp only [paymentStep, webhook]
    split
    · exact .nothing _
    · unfold insertWebhookInbox
      split
      · rename_i heq
        split at heq
        · exact .nothing _
        · simp at heq
      · rename_i db heq
        split at heq
        · simp at heq
        · rename_i hnew
          cases heq
          exact .received event header traceDraw now (by simpa using hnew)
  | processEvent i d =>
    have htask := processEvent_cases env s i d
    generalize paymentStep env s (.processEvent i d) = s' at htask ⊢
    cases htask with
    | missing hget => exact .nothing _
    | marked t hget hhandled => exact .processed _ t.event.id d.now
    | handled t db hget hhandled hev => exact handleEvent_effect rfl hev
    | thrown t hget hhandled hev => exact .nothing _
  | reprocess i traceDraw d =>
    have hbatch := reprocess_cases env s i traceDraw d
    generalize paymentStep env s (.reprocess i traceDraw d) = s' at hbatch ⊢
    cases hbatch with
    | missing hget => exact .nothing _
    | finished q hget hrows => exact .nothing _
    | marked row rest hget => exact .processed _ row.stripeEventId d.now
    | handled row rest db hget hev => exact handleEvent_effect rfl hev
    | thrown row rest hget hev => exact .nothing _
  | seatReleased seatId traceId d => exact .cancelled seatId traceId d
  | checkout request => exact .nothing _
  | checkoutLost i => exact .nothing _
  | processEventLost i => exact .nothing _
  | reprocessTick => exact .nothing _
  | reprocessSkip i => exact .nothing _
  | reprocessLost i => exact .nothing _

/-- The outcomes of ending PENDING intents: no row matches, or all that match are
    updated and the first one is announced. -/
theorem closeIntents_cases (p : PaymentIntentRow → Bool) (status : IntentStatus)
    (eventType : String) (event : PaymentIntentRow → Event) (traceId : String) (now : Nat)
    (db : PaymentDb) :
    ((∀ i ∈ db.intents, p i = false) ∧
      (closeIntents p status eventType event traceId now db).2 = db) ∨
    ∃ first rest, db.intents.filter p = first :: rest ∧
      (closeIntents p status eventType event traceId now db).2 =
        { db with
          intents := update p (PaymentIntentRow.close status now) db.intents
          outbox := db.outbox.insert first.id eventType (event (first.close status now))
            [("traceId", traceId), ("userId", first.userId.toString)] now } := by
  unfold closeIntents
  cases hsel : db.intents.filter p with
  | nil =>
    left
    have hnone : returning p (PaymentIntentRow.close status now) db.intents = [] := by
      simp [returning, hsel]
    rw [hnone]
    exact ⟨returning_eq_nil_iff.mp hnone, rfl⟩
  | cons first rest =>
    right
    have hsome : returning p (PaymentIntentRow.close status now) db.intents =
        first.close status now :: rest.map (PaymentIntentRow.close status now) := by
      simp [returning, hsel]
    rw [hsome]
    exact ⟨first, rest, rfl, rfl⟩

@[simp] theorem closeIntents_intents (p : PaymentIntentRow → Bool) (status : IntentStatus)
    (eventType : String) (event : PaymentIntentRow → Event) (traceId : String) (now : Nat)
    (db : PaymentDb) :
    (closeIntents p status eventType event traceId now db).2.intents =
      update p (PaymentIntentRow.close status now) db.intents := by
  rcases closeIntents_cases p status eventType event traceId now db with
    ⟨hnone, heq⟩ | ⟨first, rest, -, heq⟩
  · rw [heq, update_eq_self hnone]
  · rw [heq]

@[simp] theorem closeIntents_inbox (p : PaymentIntentRow → Bool) (status : IntentStatus)
    (eventType : String) (event : PaymentIntentRow → Event) (traceId : String) (now : Nat)
    (db : PaymentDb) :
    (closeIntents p status eventType event traceId now db).2.inbox = db.inbox := by
  rcases closeIntents_cases p status eventType event traceId now db with
    ⟨-, heq⟩ | ⟨first, rest, -, heq⟩
  · rw [heq]
  · rw [heq]

@[simp] theorem closeIntents_seatPrices (p : PaymentIntentRow → Bool) (status : IntentStatus)
    (eventType : String) (event : PaymentIntentRow → Event) (traceId : String) (now : Nat)
    (db : PaymentDb) :
    (closeIntents p status eventType event traceId now db).2.seatPrices = db.seatPrices := by
  rcases closeIntents_cases p status eventType event traceId now db with
    ⟨-, heq⟩ | ⟨first, rest, -, heq⟩
  · rw [heq]
  · rw [heq]

/-! ### Rows before and after -/

@[simp] theorem PaymentIntentRow.close_id (status : IntentStatus) (now : Nat)
    (i : PaymentIntentRow) : (i.close status now).id = i.id := rfl
@[simp] theorem PaymentIntentRow.close_seatId (status : IntentStatus) (now : Nat)
    (i : PaymentIntentRow) : (i.close status now).seatId = i.seatId := rfl
@[simp] theorem PaymentIntentRow.close_userId (status : IntentStatus) (now : Nat)
    (i : PaymentIntentRow) : (i.close status now).userId = i.userId := rfl
@[simp] theorem PaymentIntentRow.close_holdId (status : IntentStatus) (now : Nat)
    (i : PaymentIntentRow) : (i.close status now).holdId = i.holdId := rfl
@[simp] theorem PaymentIntentRow.close_pspIntentId (status : IntentStatus) (now : Nat)
    (i : PaymentIntentRow) : (i.close status now).pspIntentId = i.pspIntentId := rfl
@[simp] theorem PaymentIntentRow.close_idempotencyKey (status : IntentStatus) (now : Nat)
    (i : PaymentIntentRow) : (i.close status now).idempotencyKey = i.idempotencyKey := rfl
@[simp] theorem PaymentIntentRow.close_status (status : IntentStatus) (now : Nat)
    (i : PaymentIntentRow) : (i.close status now).status = status := rfl

theorem isPendingPsp_iff {pspIntentId : String} {i : PaymentIntentRow} :
    isPendingPsp pspIntentId i = true ↔ i.pspIntentId = pspIntentId ∧ i.status = .pending := by
  simp [isPendingPsp]

theorem isPendingOnSeat_iff {seatId : Uuid} {i : PaymentIntentRow} :
    isPendingOnSeat seatId i = true ↔ i.seatId = seatId ∧ i.status = .pending := by
  simp [isPendingOnSeat]

/-- What an action does to the intents: it ends PENDING rows, or inserts the row of
    a checkout that has called the PSP. -/
inductive IntentChange (s : PaymentService) : List PaymentIntentRow → Prop where
  | closed (p : PaymentIntentRow → Bool) (status : IntentStatus) (now : Nat)
      (hpending : ∀ i, p i = true → i.status = .pending) (hstatus : status ≠ .pending) :
      IntentChange s (update p (PaymentIntentRow.close status now) s.db.intents)
  | created (c : Checkout) (price : SeatPrice) (pspIntentId clientSecret : String)
      (intentId : Uuid) (hmem : c ∈ s.checkouts)
      (hstage : c.stage = .pspCalled price pspIntentId clientSecret)
      (hfree : intentViolation s.db.intents
        (newIntent c.request price pspIntentId clientSecret intentId) = none) :
      IntentChange s
        (s.db.intents ++ [newIntent c.request price pspIntentId clientSecret intentId])

/-- A property of intents that ending one keeps, and that the row of a checkout has,
    passes from all intents before an action to all intents after it. -/
theorem IntentChange.forall_intents {s : PaymentService} {intents : List PaymentIntentRow}
    (hchange : IntentChange s intents) {P : PaymentIntentRow → Prop}
    (hclose : ∀ i status now, P i → P (i.close status now))
    (hnew : ∀ c ∈ s.checkouts, ∀ price pspIntentId clientSecret intentId,
      c.stage = .pspCalled price pspIntentId clientSecret →
        P (newIntent c.request price pspIntentId clientSecret intentId))
    (h : ∀ i ∈ s.db.intents, P i) : ∀ i ∈ intents, P i := by
  intro i hi
  cases hchange with
  | closed p status now hpending hstatus =>
    rcases mem_update.mp hi with ⟨i₀, hi₀, -, rfl⟩ | ⟨hi, -⟩
    · exact hclose i₀ status now (h i₀ hi₀)
    · exact h i hi
  | created c price pspIntentId clientSecret intentId hmem hstage hfree =>
    rcases List.mem_append.mp hi with hi | hi
    · exact h i hi
    · rw [List.mem_singleton.mp hi]
      exact hnew c hmem price pspIntentId clientSecret intentId hstage

theorem IntentChange.none (s : PaymentService) : IntentChange s s.db.intents := by
  have h := @IntentChange.closed s (fun _ => false) .failed 0 (by simp) (by simp)
  rwa [update_eq_self (by simp)] at h

theorem PaymentEffect.intentChange {s : PaymentService} {a : PaymentAction} {db : PaymentDb}
    (h : PaymentEffect s a db) : IntentChange s db.intents := by
  cases h with
  | nothing => exact .none s
  | created i d c price pspIntentId clientSecret hget hstage hfree =>
    exact .created c price pspIntentId clientSecret d.intentId (List.mem_of_getElem? hget) hstage
      hfree
  | settled a status eventType event pspIntentId traceId d hdraw hkind =>
    rw [closeIntents_intents]
    refine .closed _ status d.now (fun i hi => (isPendingPsp_iff.mp hi).2) ?_
    rcases hkind with ⟨rfl, -, -⟩ | ⟨rfl, -, -⟩
    · simp
    · simp
  | cancelled seatId traceId d =>
    unfold markFailedBySeatId
    rw [closeIntents_intents]
    exact .closed _ .failed d.now (fun i hi => (isPendingOnSeat_iff.mp hi).2) (by simp)
  | received event header traceDraw now hnew => exact .none s
  | processed stripeEventId now => exact .none s

theorem intentViolation_eq_none_iff {intents : List PaymentIntentRow} {row : PaymentIntentRow} :
    intentViolation intents row = none ↔
      (∀ i ∈ intents, i.id ≠ row.id) ∧ ∀ i ∈ intents, i.idempotencyKey ≠ row.idempotencyKey := by
  unfold intentViolation
  split
  · rename_i hid
    simp only [List.any_eq_true, beq_iff_eq] at hid
    obtain ⟨i, hmem, heq⟩ := hid
    simp only [reduceCtorEq, false_iff, not_and]
    intro hfree
    exact absurd heq (hfree i hmem)
  · rename_i hid
    have hid' : ∀ i ∈ intents, i.id ≠ row.id := by simpa using hid
    split
    · rename_i hkey
      simp only [List.any_eq_true, beq_iff_eq] at hkey
      obtain ⟨i, hmem, heq⟩ := hkey
      simp only [reduceCtorEq, false_iff, not_and]
      intro _ hfree
      exact absurd heq (hfree i hmem)
    · rename_i hkey
      exact iff_of_true rfl ⟨hid', by simpa using hkey⟩

/-! ### Checkouts in progress -/

theorem checkoutStep_request (d : CheckoutDraw) (c : Checkout) (db : PaymentDb) :
    (checkoutStep d c db).1.request = c.request := (checkoutStep_cases d c db).1

theorem CheckoutEffect.inbox {d : CheckoutDraw} {c : Checkout} {db db' : PaymentDb}
    {stage : CheckoutStage} (heffect : CheckoutEffect d c db stage db') : db'.inbox = db.inbox := by
  cases heffect <;> rfl

/-- A checkout after an action: one from before, a new one, or one that made the step. -/
theorem mem_checkouts_step {env : PaymentEnv} {s : PaymentService} {a : PaymentAction}
    {c' : Checkout} (h : c' ∈ (paymentStep env s a).checkouts) :
    c' ∈ s.checkouts ∨ (∃ request, a = .checkout request ∧ c' = ⟨request, .started⟩) ∨
      ∃ d, ∃ c ∈ s.checkouts, c' = (checkoutStep d c s.db).1 ∧
        (paymentStep env s a).db = (checkoutStep d c s.db).2 := by
  cases a with
  | checkout request =>
    rcases List.mem_append.mp h with h | h
    · exact Or.inl h
    · exact Or.inr (Or.inl ⟨request, rfl, List.mem_singleton.mp h⟩)
  | checkoutStep i d =>
    simp only [paymentStep] at h ⊢
    cases hget : s.checkouts[i]? with
    | none => rw [hget] at h; exact Or.inl h
    | some c =>
      rw [hget] at h
      rcases List.mem_or_eq_of_mem_set h with h | h
      · exact Or.inl h
      · exact Or.inr (Or.inr ⟨d, c, List.mem_of_getElem? hget, h, rfl⟩)
  | checkoutLost i => exact Or.inl (List.mem_of_mem_eraseIdx h)
  | webhook event header traceDraw now =>
    simp only [paymentStep, webhook] at h
    split at h
    · exact Or.inl h
    · split at h
      · exact Or.inl h
      · exact Or.inl h
  | processEvent i d =>
    simp only [paymentStep] at h
    split at h
    · split at h
      · exact Or.inl h
      · exact Or.inl h
    · exact Or.inl h
  | processEventLost i => exact Or.inl h
  | reprocessTick => exact Or.inl h
  | reprocess i traceDraw d =>
    simp only [paymentStep] at h
    split at h
    · exact Or.inl h
    · exact Or.inl h
  | reprocessSkip i => exact Or.inl h
  | reprocessLost i => exact Or.inl h
  | seatReleased seatId traceId d => exact Or.inl h

/-- How a checkout comes to have called the PSP. -/
theorem checkoutStep_pspCalled {d : CheckoutDraw} {c : Checkout} {db : PaymentDb}
    {price : SeatPrice} {pspIntentId clientSecret : String}
    (h : (checkoutStep d c db).1.stage = .pspCalled price pspIntentId clientSecret) :
    c.stage = .priced price ∧ pspIntentId = pspIntentIdOf c.request.dto.idempotencyKey.text := by
  have heffect := (checkoutStep_cases d c db).2
  rw [h] at heffect
  generalize (checkoutStep d c db).2 = db' at heffect
  cases heffect with
  | pspCalled price clientSecret hstage => exact ⟨hstage, rfl⟩

theorem checkoutStep_priced {d : CheckoutDraw} {c : Checkout} {db : PaymentDb} {price : SeatPrice}
    (h : (checkoutStep d c db).1.stage = .priced price) :
    getSeatPrice c.request.dto.seatId db = some price := by
  have heffect := (checkoutStep_cases d c db).2
  rw [h] at heffect
  generalize (checkoutStep d c db).2 = db' at heffect
  cases heffect with
  | priced price hprice => exact hprice

/-! ### Keys and PSP ids -/

structure PaymentService.WellFormed (s : PaymentService) : Prop where
  intentKeys : KeyedBy PaymentIntentRow.id s.db.intents
  idempotencyKeys : KeyedBy PaymentIntentRow.idempotencyKey s.db.intents
  inboxKeys : KeyedBy InboxRow.stripeEventId s.db.inbox
  pspIds : ∀ i ∈ s.db.intents, ∃ key : UuidText,
    i.pspIntentId = pspIntentIdOf key.text ∧ i.idempotencyKey = key.uuid
  called : ∀ c ∈ s.checkouts, ∀ price pspIntentId clientSecret,
    c.stage = .pspCalled price pspIntentId clientSecret →
      pspIntentId = pspIntentIdOf c.request.dto.idempotencyKey.text

theorem PaymentService.Seeded.wellFormed {s : PaymentService} (h : s.Seeded) : s.WellFormed where
  intentKeys := by simp [h.intents, KeyedBy]
  idempotencyKeys := by simp [h.intents, KeyedBy]
  inboxKeys := by simp [h.inbox, KeyedBy]
  pspIds := by intro i hi; simp [h.intents] at hi
  called := by intro c hc; simp [h.checkouts] at hc

/-- **PSP ids are pairwise distinct.** -/
theorem PaymentService.WellFormed.eq_of_pspIntentId {s : PaymentService} (h : s.WellFormed)
    {i j : PaymentIntentRow} (hi : i ∈ s.db.intents) (hj : j ∈ s.db.intents)
    (heq : i.pspIntentId = j.pspIntentId) : i = j := by
  obtain ⟨ki, hpi, hki⟩ := h.pspIds i hi
  obtain ⟨kj, hpj, hkj⟩ := h.pspIds j hj
  have htext : ki.text = kj.text := by
    have happ : ("pi_mock_" ++ ki.text).toList = ("pi_mock_" ++ kj.text).toList :=
      congrArg String.toList (hpi.symm.trans (heq.trans hpj))
    rw [String.toList_append, String.toList_append] at happ
    exact String.toList_inj.mp (List.append_cancel_left happ)
  have huuid : ki.uuid = kj.uuid := by
    have hread := ki.reads
    rw [htext, kj.reads] at hread
    exact (Option.some.inj hread).symm
  exact h.idempotencyKeys.eq_of_mem hi hj (by rw [hki, hkj, huuid])

theorem PaymentEffect.inboxKeys {s : PaymentService} {a : PaymentAction} {db : PaymentDb}
    (heffect : PaymentEffect s a db) (h : KeyedBy InboxRow.stripeEventId s.db.inbox) :
    KeyedBy InboxRow.stripeEventId db.inbox := by
  cases heffect with
  | nothing => exact h
  | created => exact h
  | settled => rw [closeIntents_inbox]; exact h
  | cancelled => unfold markFailedBySeatId; rw [closeIntents_inbox]; exact h
  | received event header traceDraw now hnew => exact h.insert hnew
  | processed stripeEventId now => exact h.update fun _ _ => rfl

theorem IntentChange.intentKeys {s : PaymentService} {intents : List PaymentIntentRow}
    (hchange : IntentChange s intents) (h : s.WellFormed) :
    KeyedBy PaymentIntentRow.id intents := by
  cases hchange with
  | closed p status now hpending hstatus => exact h.intentKeys.update fun _ _ => rfl
  | created c price pspIntentId clientSecret intentId hmem hstage hfree =>
    exact h.intentKeys.insert (intentViolation_eq_none_iff.mp hfree).1

theorem IntentChange.idempotencyKeys {s : PaymentService} {intents : List PaymentIntentRow}
    (hchange : IntentChange s intents) (h : s.WellFormed) :
    KeyedBy PaymentIntentRow.idempotencyKey intents := by
  cases hchange with
  | closed p status now hpending hstatus => exact h.idempotencyKeys.update fun _ _ => rfl
  | created c price pspIntentId clientSecret intentId hmem hstage hfree =>
    exact h.idempotencyKeys.insert (intentViolation_eq_none_iff.mp hfree).2

theorem IntentChange.pspIds {s : PaymentService} {intents : List PaymentIntentRow}
    (hchange : IntentChange s intents) (h : s.WellFormed) :
    ∀ i ∈ intents, ∃ key : UuidText,
      i.pspIntentId = pspIntentIdOf key.text ∧ i.idempotencyKey = key.uuid := by
  apply hchange.forall_intents _ _ h.pspIds
  · intro i status now hi
    exact hi
  · intro c hc price pspIntentId clientSecret intentId hstage
    exact ⟨c.request.dto.idempotencyKey, h.called c hc price pspIntentId clientSecret hstage, rfl⟩

theorem PaymentService.WellFormed.step {s : PaymentService} (h : s.WellFormed) (env : PaymentEnv)
    (a : PaymentAction) : (paymentStep env s a).WellFormed := by
  have heffect := paymentStep_effect env s a
  refine ⟨heffect.intentChange.intentKeys h, heffect.intentChange.idempotencyKeys h,
    heffect.inboxKeys h.inboxKeys, heffect.intentChange.pspIds h, ?_⟩
  intro c hc price pspIntentId clientSecret hstage
  rcases mem_checkouts_step hc with hc | ⟨request, -, rfl⟩ | ⟨d, c₀, -, rfl, -⟩
  · exact h.called c hc price pspIntentId clientSecret hstage
  · simp at hstage
  · rw [checkoutStep_request]
    exact (checkoutStep_pspCalled hstage).2

theorem PaymentService.Seeded.wellFormed_exec {s : PaymentService} (h : s.Seeded)
    (env : PaymentEnv) (as : List PaymentAction) : (exec (paymentStep env) s as).WellFormed :=
  exec_invariant' PaymentService.WellFormed (fun _ a hwf => hwf.step env a) h.wellFormed as

/-! ### What the history says about the intents -/

/-- An intent that is not PENDING never changes again. -/
theorem IntentChange.frozen {s : PaymentService} {intents : List PaymentIntentRow}
    (hchange : IntentChange s intents) {i : PaymentIntentRow} (hi : i ∈ s.db.intents)
    (hstatus : i.status ≠ .pending) : i ∈ intents := by
  cases hchange with
  | closed p status now hpending hne =>
    refine mem_update.mpr (Or.inr ⟨hi, ?_⟩)
    rw [Bool.eq_false_iff]
    intro hp
    exact hstatus (hpending i hp)
  | created c price pspIntentId clientSecret intentId hmem hstage hfree =>
    exact List.mem_append_left _ hi

/-- The event is the terminal event of the intent. -/
def Event.closes : Event → PaymentIntentRow → Prop
  | .paymentSucceeded e, i =>
      i.status = .completed ∧ e.paymentIntentId = i.id ∧ e.seatId = i.seatId ∧
        e.userId = i.userId ∧ e.holdId = i.holdId ∧ e.amountCents = i.amountCents
  | .paymentFailed e, i =>
      i.status = .failed ∧ e.paymentIntentId = i.id ∧ e.seatId = i.seatId ∧
        e.userId = i.userId ∧ e.holdId = i.holdId
  | _, _ => False

theorem Event.closes.not_pending {e : Event} {i : PaymentIntentRow} (h : e.closes i) :
    i.status ≠ .pending := by
  intro hpending
  cases e with
  | paymentSucceeded e => rw [h.1] at hpending; cases hpending
  | paymentFailed e => rw [h.1] at hpending; cases hpending
  | seatHeld e => exact h
  | seatReleased e => exact h
  | seatReserved e => exact h

/-- Every row is the terminal event of an intent. -/
def PaymentHistory (rows : List OutboxRow) (intents : List PaymentIntentRow) : Prop :=
  ∀ r ∈ rows, r.eventType = r.payload.schema ∧ ∃ i ∈ intents, r.payload.closes i

theorem closeIntents_appends {p : PaymentIntentRow → Bool} {status : IntentStatus}
    {eventType : String} {event : PaymentIntentRow → Event} {traceId : String} {now : Nat}
    (db : PaymentDb) (htype : ∀ i, (event i).schema = eventType)
    (hcloses : ∀ i : PaymentIntentRow, (event (i.close status now)).closes (i.close status now)) :
    ∃ new, db.outbox.Appends (closeIntents p status eventType event traceId now db).2.outbox new ∧
      PaymentHistory new (closeIntents p status eventType event traceId now db).2.intents := by
  rcases closeIntents_cases p status eventType event traceId now db with
    ⟨-, heq⟩ | ⟨first, rest, hsel, heq⟩
  · rw [heq]
    exact ⟨[], Outbox.Appends.refl _, by intro r hr; cases hr⟩
  · rw [heq]
    refine ⟨_, Outbox.Appends.insert .., ?_⟩
    intro r hr
    rw [List.mem_singleton.mp hr]
    have hfirst : first ∈ db.intents ∧ p first = true := by
      have hmem : first ∈ db.intents.filter p := by rw [hsel]; exact List.mem_cons_self
      exact List.mem_filter.mp hmem
    refine ⟨(htype _).symm, first.close status now, ?_, hcloses first⟩
    exact mem_update_of_mem hfirst.1 hfirst.2

/-- The rows an action appends are terminal events of the intents after it. -/
theorem PaymentEffect.appends {s : PaymentService} {a : PaymentAction} {db : PaymentDb}
    (heffect : PaymentEffect s a db) :
    ∃ new, s.db.outbox.Appends db.outbox new ∧ PaymentHistory new db.intents := by
  cases heffect with
  | nothing => exact ⟨[], Outbox.Appends.refl _, by intro r hr; cases hr⟩
  | created => exact ⟨[], Outbox.Appends.refl _, by intro r hr; cases hr⟩
  | settled a status eventType event pspIntentId traceId d hdraw hkind =>
    apply closeIntents_appends s.db
    · intro i
      rcases hkind with ⟨-, rfl, rfl⟩ | ⟨-, rfl, rfl⟩
      · rfl
      · rfl
    · intro i
      rcases hkind with ⟨rfl, -, rfl⟩ | ⟨rfl, -, rfl⟩
      · exact ⟨rfl, rfl, rfl, rfl, rfl, rfl⟩
      · exact ⟨rfl, rfl, rfl, rfl, rfl⟩
  | cancelled seatId traceId d =>
    apply closeIntents_appends s.db
    · intro i
      rfl
    · intro i
      exact ⟨rfl, rfl, rfl, rfl, rfl⟩
  | received => exact ⟨[], Outbox.Appends.refl _, by intro r hr; cases hr⟩
  | processed => exact ⟨[], Outbox.Appends.refl _, by intro r hr; cases hr⟩

theorem PaymentHistory.step {env : PaymentEnv} {s : PaymentService}
    (h : PaymentHistory s.db.outbox.history s.db.intents) (a : PaymentAction) :
    PaymentHistory (paymentStep env s a).db.outbox.history (paymentStep env s a).db.intents := by
  have heffect := paymentStep_effect env s a
  obtain ⟨new, happ, hnew⟩ := heffect.appends
  intro r hr
  rw [happ.2] at hr
  rcases List.mem_append.mp hr with hr | hr
  · obtain ⟨htype, i, hi, hcloses⟩ := h r hr
    exact ⟨htype, i, heffect.intentChange.frozen hi hcloses.not_pending, hcloses⟩
  · exact hnew r hr

/-- An action that draws nothing for an event appends none. -/
theorem PaymentEffect.outbox_eq {s : PaymentService} {a : PaymentAction} {db : PaymentDb}
    (heffect : PaymentEffect s a db) (hdraw : a.eventDraw = none) : db.outbox = s.db.outbox := by
  cases heffect with
  | nothing => rfl
  | created => rfl
  | settled a status eventType event pspIntentId traceId d hsome hkind =>
    rw [hdraw] at hsome
    cases hsome
  | cancelled seatId traceId d => cases hdraw
  | received => rfl
  | processed => rfl

/-- An action appends one event at most, under the id it drew. -/
theorem PaymentEffect.appended_eventId {s : PaymentService} {a : PaymentAction} {db : PaymentDb}
    (heffect : PaymentEffect s a db) :
    ∃ new, s.db.outbox.Appends db.outbox new ∧ (new = [] ∨
      ∃ r d, new = [r] ∧ a.eventDraw = some d ∧ r.payload.eventId = d.eventId) := by
  have hnone : ∃ new, s.db.outbox.Appends s.db.outbox new ∧ (new = [] ∨
      ∃ r d, new = [r] ∧ a.eventDraw = some d ∧ r.payload.eventId = d.eventId) :=
    ⟨[], Outbox.Appends.refl _, Or.inl rfl⟩
  cases heffect with
  | nothing => exact hnone
  | created => exact hnone
  | settled a status eventType event pspIntentId traceId d hdraw hkind =>
    rcases closeIntents_cases (isPendingPsp pspIntentId) status eventType event traceId d.now s.db
      with ⟨-, heq⟩ | ⟨first, rest, -, heq⟩
    · rw [heq]
      exact hnone
    · rw [heq]
      refine ⟨_, Outbox.Appends.insert .., Or.inr ⟨_, d, rfl, hdraw, ?_⟩⟩
      rcases hkind with ⟨-, -, rfl⟩ | ⟨-, -, rfl⟩
      · rfl
      · rfl
  | cancelled seatId traceId d =>
    unfold markFailedBySeatId
    rcases closeIntents_cases (isPendingOnSeat seatId) .failed "payment.failed.v1"
        (paymentFailedEvent "seat_released" traceId d) traceId d.now s.db with
      ⟨-, heq⟩ | ⟨first, rest, -, heq⟩
    · rw [heq]
      exact hnone
    · rw [heq]
      exact ⟨_, Outbox.Appends.insert .., Or.inr ⟨_, d, rfl, rfl, rfl⟩⟩
  | received => exact hnone
  | processed => exact hnone

/-! ### Prices -/

theorem PaymentEffect.seatPrices {s : PaymentService} {a : PaymentAction} {db : PaymentDb}
    (heffect : PaymentEffect s a db) : db.seatPrices = s.db.seatPrices := by
  cases heffect with
  | nothing => rfl
  | created => rfl
  | settled => rw [closeIntents_seatPrices]
  | cancelled => rw [markFailedBySeatId, closeIntents_seatPrices]
  | received => rfl
  | processed => rfl

/-- Checkouts and intents carry the price of their own seat. -/
structure PaymentService.Priced (s : PaymentService) : Prop where
  priced : ∀ c ∈ s.checkouts, ∀ price, c.stage = .priced price →
    getSeatPrice c.request.dto.seatId s.db = some price
  called : ∀ c ∈ s.checkouts, ∀ price pspIntentId clientSecret,
    c.stage = .pspCalled price pspIntentId clientSecret →
      getSeatPrice c.request.dto.seatId s.db = some price
  intents : ∀ i ∈ s.db.intents, ∃ price, getSeatPrice i.seatId s.db = some price ∧
    i.amountCents = price.priceCents ∧ i.currency = price.currency

theorem PaymentService.Seeded.priced {s : PaymentService} (h : s.Seeded) : s.Priced where
  priced := by intro c hc; simp [h.checkouts] at hc
  called := by intro c hc; simp [h.checkouts] at hc
  intents := by intro i hi; simp [h.intents] at hi

theorem PaymentService.Priced.step {s : PaymentService} (h : s.Priced) (env : PaymentEnv)
    (a : PaymentAction) : (paymentStep env s a).Priced := by
  have heffect := paymentStep_effect env s a
  have hprices : ∀ seatId,
      getSeatPrice seatId (paymentStep env s a).db = getSeatPrice seatId s.db := by
    intro seatId
    unfold getSeatPrice
    rw [heffect.seatPrices]
  refine ⟨?_, ?_, ?_⟩
  · intro c hc price hstage
    rw [hprices]
    rcases mem_checkouts_step hc with hc | ⟨request, -, rfl⟩ | ⟨d, c₀, hc₀, rfl, -⟩
    · exact h.priced c hc price hstage
    · simp at hstage
    · rw [checkoutStep_request]
      exact checkoutStep_priced hstage
  · intro c hc price pspIntentId clientSecret hstage
    rw [hprices]
    rcases mem_checkouts_step hc with hc | ⟨request, -, rfl⟩ | ⟨d, c₀, hc₀, rfl, -⟩
    · exact h.called c hc price pspIntentId clientSecret hstage
    · simp at hstage
    · rw [checkoutStep_request]
      exact h.priced c₀ hc₀ price (checkoutStep_pspCalled hstage).1
  · have hkept : ∀ i ∈ s.db.intents, ∃ price,
        getSeatPrice i.seatId (paymentStep env s a).db = some price ∧
          i.amountCents = price.priceCents ∧ i.currency = price.currency := by
      intro i hi
      rw [hprices]
      exact h.intents i hi
    apply heffect.intentChange.forall_intents _ _ hkept
    · intro i status now hi
      exact hi
    · intro c hc price pspIntentId clientSecret intentId hstage
      refine ⟨price, ?_, rfl, rfl⟩
      rw [hprices]
      exact h.called c hc price pspIntentId clientSecret hstage

end SeatReservation
