import SeatReservation.BatchQueue
import SeatReservation.WebhookDurability

/-!
# How far the webhook reprocessor gets

A tick takes the fifty oldest unprocessed rows.  A row whose processing throws
stays unprocessed, keeps its place and is taken again by the next tick: the
inbox is a queue served in batches (`queue_tick`), and a row is reached iff
fewer than fifty throwing rows are ahead of it (`reprocessor_progress_iff`).
-/

namespace SeatReservation

open Relational TransitionSystem BatchQueue

namespace WebhookReprocessor

/-- What a call of `reprocess` draws: the trace id, the draws of the transaction and the
    `NOW()` of `markWebhookProcessed`. -/
structure RowDraw where
  trace : Uuid
  draw : Draw
  processedAt : Nat

/-- `reprocess`, when the database reports no error. -/
def reprocess (d : RowDraw) (row : InboxRow) (db : PaymentDb) : PaymentDb :=
  match handleEvent row.type row.payload.objectId (reprocessTraceId d.trace) d.draw db with
  | some db' => markWebhookProcessed row.stripeEventId d.processedAt db'
  | none => db

/-- `tick`; the draws are those of each row. -/
def tick (draws : String → RowDraw) (db : PaymentDb) : PaymentDb :=
  (unprocessed db).foldl (fun db row => reprocess (draws row.stripeEventId) row db) db

/-- One tick after the other, with no arrivals in between. -/
def ticks (draws : List (String → RowDraw)) (db : PaymentDb) : PaymentDb :=
  draws.foldl (fun db draws => tick draws db) db

end WebhookReprocessor

/-! ### Rows that throw -/

/-- The type is one of the two that read `data.object.id`, and reading it throws. -/
def InboxRow.throws (r : InboxRow) : Bool :=
  (r.type == "payment_intent.succeeded" || r.type == "payment_intent.payment_failed") &&
    r.payload.objectId == .unreadable

theorem handleEvent_eq_none_iff {row : InboxRow} {traceId : String} {d : Draw} {db : PaymentDb} :
    handleEvent row.type row.payload.objectId traceId d db = none ↔ row.throws = true := by
  unfold handleEvent InboxRow.throws
  split
  · rename_i htype
    cases row.payload.objectId <;> simp [htype]
  · rename_i hnot
    split
    · rename_i htype
      cases row.payload.objectId <;> simp [htype]
    · rename_i hneither
      simp [hnot, hneither]

/-! ### A tick, step by step -/

/-- The transactions of one row: the event, and for a row that does not throw the mark. -/
def rowActions (i : Nat) (d : WebhookReprocessor.RowDraw) (row : InboxRow) : List PaymentAction :=
  if row.throws then [.reprocess i d.trace d.draw]
  else [.reprocess i d.trace d.draw, .reprocess i d.trace { d.draw with now := d.processedAt }]

theorem exec_rowActions (env : PaymentEnv) {s : PaymentService} {i : Nat} {row : InboxRow}
    {rest : List InboxRow} (hget : s.reprocessings[i]? = some ⟨row :: rest, false⟩)
    (d : WebhookReprocessor.RowDraw) :
    (exec (paymentStep env) s (rowActions i d row)).db =
        WebhookReprocessor.reprocess d row s.db ∧
      (exec (paymentStep env) s (rowActions i d row)).reprocessings[i]? = some ⟨rest, false⟩ := by
  obtain ⟨hlt, heq⟩ := List.getElem?_eq_some_iff.mp hget
  unfold rowActions WebhookReprocessor.reprocess
  cases hhandled : handleEvent row.type row.payload.objectId (reprocessTraceId d.trace) d.draw s.db
    with
  | none =>
    rw [if_pos (handleEvent_eq_none_iff.mp hhandled)]
    simp [paymentStep, heq, reprocessStep, hhandled, hlt]
  | some db' =>
    have hcalm : ¬ row.throws = true := by
      intro hthrows
      rw [handleEvent_eq_none_iff.mpr hthrows] at hhandled
      cases hhandled
    rw [if_neg hcalm]
    simp [paymentStep, heq, reprocessStep, hhandled, hlt]

/-- The steps of a tick do what `tick` does at once. -/
theorem exec_tick (env : PaymentEnv) (s : PaymentService)
    (draws : String → WebhookReprocessor.RowDraw) :
    (exec (paymentStep env) s (.reprocessTick :: (unprocessed s.db).flatMap fun row =>
      rowActions s.reprocessings.length (draws row.stripeEventId) row)).db =
        WebhookReprocessor.tick draws s.db := by
  have hrows : ∀ (rows : List InboxRow) (s : PaymentService) (i : Nat),
      s.reprocessings[i]? = some ⟨rows, false⟩ →
      (exec (paymentStep env) s (rows.flatMap fun row =>
        rowActions i (draws row.stripeEventId) row)).db =
      rows.foldl (fun db row => WebhookReprocessor.reprocess (draws row.stripeEventId) row db)
        s.db := by
    intro rows
    induction rows with
    | nil => intro s i _; rfl
    | cons row rest ih =>
      intro s i hget
      obtain ⟨hdb, hnext⟩ := exec_rowActions env hget (draws row.stripeEventId)
      rw [List.flatMap_cons, exec_append, ih _ i hnext, hdb, List.foldl_cons]
  rw [exec_cons, hrows (unprocessed s.db) _ _ (by simp [paymentStep])]
  rfl

/-! ### The queue of the reprocessor -/

/-- The unprocessed rows, the oldest first. -/
def inboxQueue (db : PaymentDb) : List InboxRow :=
  (db.inbox.filter fun r => r.processedAt.isNone).insertionSort
    fun r r' => r.receivedAt ≤ r'.receivedAt

instance : Std.Total fun r r' : InboxRow => r.receivedAt ≤ r'.receivedAt :=
  ⟨fun r r' => Nat.le_total r.receivedAt r'.receivedAt⟩

instance : IsTrans InboxRow fun r r' => r.receivedAt ≤ r'.receivedAt :=
  ⟨fun _ _ _ => Nat.le_trans⟩

theorem unprocessed_eq (db : PaymentDb) : unprocessed db = (inboxQueue db).take 50 := rfl

theorem mem_inboxQueue {db : PaymentDb} {r : InboxRow} :
    r ∈ inboxQueue db ↔ r ∈ db.inbox ∧ r.processedAt = none := by
  rw [inboxQueue, List.mem_insertionSort, List.mem_filter, Option.isNone_iff_eq_none]

/-- The row with `processed_at` set. -/
def InboxRow.markedAt (now : Nat) (r : InboxRow) : InboxRow := { r with processedAt := some now }

@[simp] theorem InboxRow.markedAt_stripeEventId (now : Nat) (r : InboxRow) :
    (r.markedAt now).stripeEventId = r.stripeEventId := rfl

@[simp] theorem InboxRow.markedAt_processedAt (now : Nat) (r : InboxRow) :
    (r.markedAt now).processedAt = some now := rfl

theorem InboxRow.markedAt_markedAt (now now' : Nat) (r : InboxRow) :
    (r.markedAt now).markedAt now' = r.markedAt now' := rfl

/-- One of the rows has this id, and processing it does not throw. -/
def marks (rows : List InboxRow) (id : String) : Bool :=
  rows.any fun row => !row.throws && row.stripeEventId == id

theorem reprocess_inbox (d : WebhookReprocessor.RowDraw) (row : InboxRow) (db : PaymentDb) :
    (WebhookReprocessor.reprocess d row db).inbox =
      update (fun r => !row.throws && row.stripeEventId == r.stripeEventId)
        (InboxRow.markedAt d.processedAt) db.inbox := by
  unfold WebhookReprocessor.reprocess
  cases hhandled : handleEvent row.type row.payload.objectId (reprocessTraceId d.trace) d.draw db
    with
  | none =>
    have hthrows := handleEvent_eq_none_iff.mp hhandled
    exact (update_eq_self fun r _ => by simp [hthrows]).symm
  | some db' =>
    have hcalm : row.throws = false := by
      rw [Bool.eq_false_iff]
      intro hthrows
      rw [handleEvent_eq_none_iff.mpr hthrows] at hhandled
      cases hhandled
    simp only [markWebhookProcessed, handleEvent_inbox hhandled, hcalm, Bool.not_false,
      Bool.true_and]
    congr 1
    funext r
    exact Bool.beq_comm

/-- The loop of a tick marks the rows that do not throw and leaves the others alone. -/
theorem foldl_reprocess_inbox (draws : String → WebhookReprocessor.RowDraw) (rows : List InboxRow)
    (db : PaymentDb) :
    (rows.foldl (fun db row => WebhookReprocessor.reprocess (draws row.stripeEventId) row db)
        db).inbox =
      db.inbox.map fun r =>
        if marks rows r.stripeEventId then r.markedAt (draws r.stripeEventId).processedAt
        else r := by
  induction rows generalizing db with
  | nil => simp [marks]
  | cons row rows ih =>
    rw [List.foldl_cons, ih, reprocess_inbox, update, List.map_map]
    apply List.map_congr_left
    intro r _
    by_cases hrow : (!row.throws && row.stripeEventId == r.stripeEventId) = true
    · have hid : row.stripeEventId = r.stripeEventId := by
        simp only [Bool.and_eq_true, beq_iff_eq] at hrow
        exact hrow.2
      have hmarked : marks (row :: rows) r.stripeEventId = true := by simp [marks, hrow]
      rw [Function.comp_apply, if_pos hrow, if_pos hmarked, hid, InboxRow.markedAt_stripeEventId,
        InboxRow.markedAt_markedAt, ite_self]
    · have hsame : marks (row :: rows) r.stripeEventId = marks rows r.stripeEventId := by
        rw [marks, List.any_cons, Bool.eq_false_iff.mpr hrow, Bool.false_or, marks]
      rw [Function.comp_apply, if_neg hrow, hsame]

theorem keyedBy_inboxQueue {db : PaymentDb} (h : KeyedBy InboxRow.stripeEventId db.inbox) :
    KeyedBy InboxRow.stripeEventId (inboxQueue db) :=
  (h.sublist List.filter_sublist).perm (List.perm_insertionSort _ _).symm

/-- What is unprocessed after a tick: what was, without the marked rows. -/
theorem unprocessed_tick (draws : String → WebhookReprocessor.RowDraw) (db : PaymentDb) :
    ((WebhookReprocessor.tick draws db).inbox.filter fun r => r.processedAt.isNone) =
      (db.inbox.filter fun r => r.processedAt.isNone).filter
        fun r => !marks (unprocessed db) r.stripeEventId := by
  rw [WebhookReprocessor.tick, foldl_reprocess_inbox]
  induction db.inbox with
  | nil => rfl
  | cons r inbox ih =>
    by_cases hmarked : marks (unprocessed db) r.stripeEventId = true
    · by_cases hnone : r.processedAt.isNone = true
      · simp [hmarked, hnone, ih]
      · simp [hmarked, hnone, ih]
    · by_cases hnone : r.processedAt.isNone = true
      · simp [hmarked, hnone, ih]
      · simp [hmarked, hnone, ih]

/-- **A tick serves one batch of the queue.** -/
theorem inboxQueue_tick {db : PaymentDb} (h : KeyedBy InboxRow.stripeEventId db.inbox)
    (draws : String → WebhookReprocessor.RowDraw) :
    inboxQueue (WebhookReprocessor.tick draws db) = serve 50 InboxRow.throws (inboxQueue db) := by
  have hkeys := keyedBy_inboxQueue h
  rw [inboxQueue, unprocessed_tick, ← filter_insertionSort, ← inboxQueue, serve, unprocessed_eq]
  conv_lhs => arg 2; rw [← List.take_append_drop 50 (inboxQueue db)]
  rw [List.filter_append]
  congr 1
  · -- Within the batch a row is marked unless it throws.
    apply List.filter_congr
    intro r hr
    apply Bool.eq_iff_iff.mpr
    simp only [marks, Bool.not_eq_true', List.any_eq_false, Bool.and_eq_true, Bool.not_eq_true',
      beq_iff_eq, not_and]
    constructor
    · intro hnone
      by_contra hcalm
      exact hnone r hr (by simpa using hcalm) rfl
    · intro hthrows row hrow hcalm hid
      have heq : row = r := hkeys.eq_of_mem (List.mem_of_mem_take hrow) (List.mem_of_mem_take hr) hid
      rw [heq, hthrows] at hcalm
      cases hcalm
  · -- A row behind the batch shares its id with none in it.
    apply List.filter_eq_self.mpr
    intro r hr
    simp only [marks, Bool.not_eq_true', List.any_eq_false, Bool.and_eq_true, beq_iff_eq, not_and]
    intro row hrow _ hid
    have hsplit := hkeys
    rw [KeyedBy, ← List.take_append_drop 50 (inboxQueue db), List.map_append] at hsplit
    exact (List.nodup_append.mp hsplit).2.2 _ (List.mem_map_of_mem hrow) _
      (List.mem_map_of_mem hr) hid

/-! ### Progress -/

theorem tick_inbox_keys {db : PaymentDb} (h : KeyedBy InboxRow.stripeEventId db.inbox)
    (draws : String → WebhookReprocessor.RowDraw) :
    KeyedBy InboxRow.stripeEventId (WebhookReprocessor.tick draws db).inbox := by
  rw [KeyedBy, WebhookReprocessor.tick, foldl_reprocess_inbox, List.map_map]
  have hids : ((fun r : InboxRow => r.stripeEventId) ∘ fun r =>
      if marks (unprocessed db) r.stripeEventId then
        r.markedAt (draws r.stripeEventId).processedAt else r) = InboxRow.stripeEventId := by
    funext r
    rw [Function.comp_apply]
    split <;> rfl
  rw [hids]
  exact h

/-- A row keeps its place in the table, and what a tick does to it is to mark it. -/
theorem tick_keeps {db : PaymentDb} (draws : String → WebhookReprocessor.RowDraw) {r : InboxRow}
    (hr : r ∈ db.inbox) : r ∈ (WebhookReprocessor.tick draws db).inbox ∨
      ∃ r' ∈ (WebhookReprocessor.tick draws db).inbox, r'.stripeEventId = r.stripeEventId ∧
        r'.processedAt.isSome = true := by
  rw [WebhookReprocessor.tick, foldl_reprocess_inbox]
  by_cases hmarked : marks (unprocessed db) r.stripeEventId = true
  · refine Or.inr ⟨_, List.mem_map_of_mem hr, ?_⟩
    rw [if_pos hmarked]
    exact ⟨rfl, rfl⟩
  · refine Or.inl (List.mem_map.mpr ⟨r, hr, ?_⟩)
    rw [if_neg hmarked]

/-- The row with this id has been processed. -/
def ProcessedIn (db : PaymentDb) (id : String) : Prop :=
  ∃ r ∈ db.inbox, r.stripeEventId = id ∧ r.processedAt.isSome = true

theorem inboxQueue_ticks {db : PaymentDb} (h : KeyedBy InboxRow.stripeEventId db.inbox)
    (draws : List (String → WebhookReprocessor.RowDraw)) :
    KeyedBy InboxRow.stripeEventId (WebhookReprocessor.ticks draws db).inbox ∧
      inboxQueue (WebhookReprocessor.ticks draws db) =
        rounds 50 InboxRow.throws draws.length (inboxQueue db) := by
  induction draws generalizing db with
  | nil => exact ⟨h, rfl⟩
  | cons d draws ih =>
    obtain ⟨hkeys, hqueue⟩ := ih (tick_inbox_keys h d)
    refine ⟨hkeys, ?_⟩
    rw [inboxQueue_tick h d] at hqueue
    exact hqueue

theorem ticks_keeps {db : PaymentDb} (draws : List (String → WebhookReprocessor.RowDraw))
    {r : InboxRow} (hr : r ∈ db.inbox) : r ∈ (WebhookReprocessor.ticks draws db).inbox ∨
      ProcessedIn (WebhookReprocessor.ticks draws db) r.stripeEventId := by
  induction draws generalizing db r with
  | nil => exact Or.inl hr
  | cons d draws ih =>
    rcases tick_keeps d hr with hr | ⟨r', hr', hid, hprocessed⟩
    · exact ih hr
    · rw [← hid]
      exact Or.inr ((ih hr').elim (fun hin => ⟨r', hin, rfl, hprocessed⟩) id)

/-- An unprocessed row has been processed once it is not in the queue any more. -/
theorem processedIn_ticks_iff {db : PaymentDb} (h : KeyedBy InboxRow.stripeEventId db.inbox)
    (draws : List (String → WebhookReprocessor.RowDraw)) {r : InboxRow} (hr : r ∈ inboxQueue db) :
    ProcessedIn (WebhookReprocessor.ticks draws db) r.stripeEventId ↔
      r ∉ rounds 50 InboxRow.throws draws.length (inboxQueue db) := by
  obtain ⟨hr, hnone⟩ := mem_inboxQueue.mp hr
  obtain ⟨hkeys, hqueue⟩ := inboxQueue_ticks h draws
  rw [← hqueue, mem_inboxQueue]
  constructor
  · rintro ⟨r', hr', hid, hprocessed⟩ ⟨hin, -⟩
    rw [hkeys.eq_of_mem hr' hin hid, hnone] at hprocessed
    cases hprocessed
  · intro hout
    rcases ticks_keeps draws hr with hin | hprocessed
    · exact absurd ⟨hin, hnone⟩ hout
    · exact hprocessed

/-- The unprocessed rows the reprocessor takes before `r`. -/
def aheadOf (db : PaymentDb) (r : InboxRow) : List InboxRow :=
  (inboxQueue db).takeWhile fun x => x != r

theorem inboxQueue_split {db : PaymentDb} {r : InboxRow} (hr : r ∈ inboxQueue db) :
    ∃ rest, inboxQueue db = aheadOf db r ++ r :: rest := by
  obtain ⟨ahead, rest, hsplit, hnot⟩ := List.eq_append_cons_of_mem hr
  refine ⟨rest, ?_⟩
  have hahead : aheadOf db r = ahead := by
    rw [aheadOf, hsplit, List.takeWhile_append_of_pos]
    · simp
    · intro x hx
      rw [bne_iff_ne]
      rintro rfl
      exact hnot hx
  rw [hahead, hsplit]

theorem processedIn_iff {db : PaymentDb} (h : KeyedBy InboxRow.stripeEventId db.inbox)
    {r : InboxRow} (hr : r ∈ inboxQueue db) (hcalm : r.throws = false)
    {draws : List (String → WebhookReprocessor.RowDraw)}
    (hmany : (inboxQueue db).length ≤ draws.length) :
    ProcessedIn (WebhookReprocessor.ticks draws db) r.stripeEventId ↔
      (aheadOf db r).countP InboxRow.throws < 50 := by
  obtain ⟨rest, hsplit⟩ := inboxQueue_split hr
  have hnodup : (inboxQueue db).Nodup := (keyedBy_inboxQueue h).of_map
  rw [processedIn_ticks_iff h draws hr]
  rw [hsplit] at hnodup hmany ⊢
  exact leaves_iff hnodup hcalm hmany

/-- **The reprocessor reaches a row iff fewer than fifty throwing rows are ahead of it.**
    In every reachable state, after at least as many ticks as there are unprocessed rows,
    an unprocessed row whose `data.object.id` can be read has been processed iff fewer
    than fifty unprocessed rows whose processing throws are taken before it. -/
theorem reprocessor_progress_iff {s : PaymentService} (hs : s.Seeded) (env : PaymentEnv)
    (as : List PaymentAction) {draws : List (String → WebhookReprocessor.RowDraw)}
    (hmany : ((exec (paymentStep env) s as).db.inbox.countP fun r => r.processedAt.isNone) ≤
      draws.length)
    {r : InboxRow} (hr : r ∈ (exec (paymentStep env) s as).db.inbox) (hnone : r.processedAt = none)
    {id : String} (hid : r.payload.objectId = .text id) :
    ProcessedIn (WebhookReprocessor.ticks draws (exec (paymentStep env) s as).db)
        r.stripeEventId ↔
      (aheadOf (exec (paymentStep env) s as).db r).countP InboxRow.throws < 50 := by
  have hkeys := (hs.wellFormed_exec env as).inboxKeys
  apply processedIn_iff hkeys (mem_inboxQueue.mpr ⟨hr, hnone⟩)
  · simp [InboxRow.throws, hid]
  · rwa [inboxQueue, List.length_insertionSort, ← List.countP_eq_length_filter]

/-- A signed body with a numeric `created` and no `data`. -/
def poisonEvent (i : Nat) : PSPWebhookEvent :=
  ⟨"evt_" ++ toString i, "payment_intent.succeeded", 0, .unreadable⟩

def paidWebhook : PSPWebhookEvent := ⟨"evt_paid", "payment_intent.succeeded", 0, .text "pi_mock_1"⟩

def received (event : PSPWebhookEvent) (now : Nat) : PaymentAction := .webhook event none 1 now

def twoTicks : List (String → WebhookReprocessor.RowDraw) :=
  [fun _ => ⟨901, ⟨801, 100, 100⟩, 100⟩, fun _ => ⟨902, ⟨802, 10100, 10100⟩, 10100⟩]

/-- Two ticks reach a row behind one that throws. -/
theorem paidWebhook_reached :
    ProcessedIn (WebhookReprocessor.ticks twoTicks (exec (paymentStep defaultPaymentEnv)
      seedPrices [received (poisonEvent 0) 0, received paidWebhook 60]).db) "evt_paid" :=
  (@reprocessor_progress_iff _ seedPrices_seeded defaultPaymentEnv
    [received (poisonEvent 0) 0, received paidWebhook 60] twoTicks (by decide +kernel)
    ⟨"evt_paid", "payment_intent.succeeded", paidWebhook, 60, none⟩ (by decide +kernel) rfl
    "pi_mock_1" rfl).mpr (by decide +kernel)

/-- Fifty bodies that throw, and then a proper one. -/
def poisonedArrivals : List PaymentAction :=
  ((List.range 50).map fun i => received (poisonEvent i) i) ++ [received paidWebhook 60]

def poisonedInbox : PaymentDb := (exec (paymentStep defaultPaymentEnv) seedPrices poisonedArrivals).db

/-- The proper one is never reached. -/
theorem paidWebhook_starves :
    seedPrices.Seeded ∧ ∃ r ∈ poisonedInbox.inbox, r.processedAt = none ∧
      r.payload.objectId = .text "pi_mock_1" ∧
        ∀ draws, ¬ ProcessedIn (WebhookReprocessor.ticks draws poisonedInbox) r.stripeEventId := by
  have hkeys : KeyedBy InboxRow.stripeEventId poisonedInbox.inbox := by
    unfold poisonedInbox
    exact (seedPrices_seeded.wellFormed_exec defaultPaymentEnv poisonedArrivals).inboxKeys
  let r : InboxRow := ⟨"evt_paid", "payment_intent.succeeded", paidWebhook, 60, none⟩
  have hr : r ∈ inboxQueue poisonedInbox := by decide +kernel
  have hmany : 50 ≤ (aheadOf poisonedInbox r).countP InboxRow.throws := by decide +kernel
  obtain ⟨rest, hsplit⟩ := inboxQueue_split hr
  refine ⟨seedPrices_seeded, r, (mem_inboxQueue.mp hr).1, rfl, rfl, fun draws => ?_⟩
  rw [processedIn_ticks_iff hkeys draws hr, not_not, hsplit]
  exact blocked hmany draws.length r rest

end SeatReservation
