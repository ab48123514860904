import SeatReservation.OutboxReplicas
import SeatReservation.SystemInvariants

/-!
# Handing events over

A row of an outbox is handed over when it is published and its copy deleted,
possibly by several replicas and several times.  `Kept` says, for any notion of
arrival, that each row ever inserted is in the table until it has arrived.  The
ids of the rows carry it: a replica that has published its copy deletes by id,
and all rows and copies of one id say the same.  Of the broker it is assumed that
it confirms only what it has taken.
-/

namespace SeatReservation

open Relational TransitionSystem

/-! ### Rows are only ever inserted -/

/-- The second outbox is the first one after some inserts. -/
inductive Outbox.Grows (o : Outbox) : Outbox → Prop where
  | refl : o.Grows o
  | insert {o' : Outbox} (h : o.Grows o') (aggregateId : Uuid) (eventType : String)
      (payload : Event) (headers : List (String × String)) (now : Nat) :
      o.Grows (o'.insert aggregateId eventType payload headers now)

theorem Outbox.Grows.one (o : Outbox) (aggregateId : Uuid) (eventType : String) (payload : Event)
    (headers : List (String × String)) (now : Nat) :
    o.Grows (o.insert aggregateId eventType payload headers now) :=
  .insert .refl aggregateId eventType payload headers now

theorem insertHoldTx_grows (env : SeatEnv) (seatId : String) (userId : Uuid) (traceId : String)
    (d : HoldDraw) (db : SeatDb) :
    db.outbox.Grows (insertHoldTx env seatId userId traceId d db).2.outbox := by
  by_cases hgoes : ∃ seat, Uuid.ofText seatId = some seat ∧
      holdViolation db.seats (lazyCleanup seat d.now db.holds) (newHold env seat userId d) = none
  · obtain ⟨seat, hseat, hfree⟩ := hgoes
    rw [insertHoldTx_eq_commit traceId hseat hfree]
    exact .one ..
  · rw [insertHoldTx_eq_self fun seat hseat hfree => hgoes ⟨seat, hseat, hfree⟩]
    exact .refl

theorem releaseHold_grows (holdId : Uuid) (reason traceId : String) (d : Draw) (db : SeatDb) :
    db.outbox.Grows (releaseHold holdId reason traceId d db).2.outbox := by
  unfold releaseHold
  split
  · exact .refl
  · exact .one ..

theorem reserveHold_grows (holdId eventId : Uuid) (consumerGroup traceId : String) (d : Draw)
    (db : SeatDb) :
    db.outbox.Grows (reserveHold holdId eventId consumerGroup traceId d db).2.outbox := by
  unfold reserveHold
  split
  · exact .refl
  · split
    · exact .refl
    · exact .one ..

theorem sweepRows_grows {o : Outbox} (traceId : String) (now : Nat) (draw : Uuid → Uuid × Nat)
    (rows : List HoldRow) {db : SeatDb} (h : o.Grows db.outbox) :
    o.Grows (rows.foldl (sweepRow traceId now draw) db).outbox := by
  induction rows generalizing db with
  | nil => exact h
  | cons r rows ih => exact ih (.insert h _ _ _ _ _)

theorem seatStep_grows (env : SeatEnv) (db : SeatDb) (a : SeatAction) :
    db.outbox.Grows (seatStep env db a).outbox := by
  cases a with
  | insertHoldTx seatId userId traceId d => exact insertHoldTx_grows ..
  | releaseHold holdId reason traceId d => exact releaseHold_grows ..
  | reserveHold holdId eventId consumerGroup traceId d => exact reserveHold_grows ..
  | tick scan traceId now draw => exact sweepRows_grows _ _ _ _ .refl

theorem closeIntents_grows (p : PaymentIntentRow → Bool) (status : IntentStatus)
    (eventType : String) (event : PaymentIntentRow → Event) (traceId : String) (now : Nat)
    (db : PaymentDb) :
    db.outbox.Grows (closeIntents p status eventType event traceId now db).2.outbox := by
  rcases closeIntents_cases p status eventType event traceId now db with
    ⟨-, heq⟩ | ⟨first, rest, -, heq⟩
  · rw [heq]
    exact .refl
  · rw [heq]
    exact .one ..

theorem paymentStep_grows (env : PaymentEnv) (s : PaymentService) (a : PaymentAction) :
    s.db.outbox.Grows (paymentStep env s a).db.outbox := by
  have heffect := paymentStep_effect env s a
  generalize (paymentStep env s a).db = db at heffect ⊢
  cases heffect with
  | nothing => exact .refl
  | created => exact .refl
  | settled => exact closeIntents_grows ..
  | cancelled => exact closeIntents_grows ..
  | received => exact .refl
  | processed => exact .refl

/-! ### In the table until it has arrived -/

/-- Every row is in the table or has arrived, and the copies can be told by their ids. -/
structure Kept (Arrived : OutboxRow → Prop) (o : Outbox) (claims : List Claim) : Prop where
  fresh : ∀ e ∈ o.history, e.id ≤ o.history.length
  ids : KeyedBy (·.id) o.history
  rows : ∀ r ∈ o.rows, ∃ e ∈ o.history, e.content = r.content
  copies : ∀ c ∈ claims, ∃ e ∈ o.history, e.content = c.row.content
  published : ∀ c ∈ claims, c.published = some true →
    ∀ e, e.content = c.row.content → Arrived e
  kept : ∀ e ∈ o.history, (∃ r ∈ o.rows, r.content = e.content) ∨ Arrived e

variable {Arrived Arrived' : OutboxRow → Prop} {o o' : Outbox} {claims : List Claim}

theorem kept_empty : Kept Arrived Outbox.empty [] := by
  constructor <;> simp [Outbox.empty, KeyedBy]

theorem Kept.mono (h : Kept Arrived o claims) (hmono : ∀ e, Arrived e → Arrived' e) :
    Kept Arrived' o claims where
  fresh := h.fresh
  ids := h.ids
  rows := h.rows
  copies := h.copies
  published c hc hpublished e he := hmono e (h.published c hc hpublished e he)
  kept e he := (h.kept e he).imp_right (hmono e)

theorem Kept.insert (h : Kept Arrived o claims) (aggregateId : Uuid) (eventType : String)
    (payload : Event) (headers : List (String × String)) (now : Nat) :
    Kept Arrived (o.insert aggregateId eventType payload headers now) claims where
  fresh := by
    intro e he
    simp only [Outbox.insert_history, List.length_append, List.length_singleton]
    rcases List.mem_append.mp he with he | he
    · have hle := h.fresh e he
      omega
    · rw [List.mem_singleton.mp he, Outbox.newRow_id]
  ids := by
    apply h.ids.insert
    intro e he
    exact Nat.ne_of_lt (Nat.lt_succ_of_le (h.fresh e he))
  rows := by
    intro r hr
    rcases List.mem_append.mp hr with hr | hr
    · obtain ⟨e, he, hcontent⟩ := h.rows r hr
      exact ⟨e, List.mem_append_left _ he, hcontent⟩
    · exact ⟨r, List.mem_append_right _ hr, rfl⟩
  copies := by
    intro c hc
    obtain ⟨e, he, hcontent⟩ := h.copies c hc
    exact ⟨e, List.mem_append_left _ he, hcontent⟩
  published := h.published
  kept := by
    intro e he
    rcases List.mem_append.mp he with he | he
    · rcases h.kept e he with ⟨r, hr, hcontent⟩ | harrived
      · exact Or.inl ⟨r, List.mem_append_left _ hr, hcontent⟩
      · exact Or.inr harrived
    · exact Or.inl ⟨e, List.mem_append_right _ he, rfl⟩

theorem Kept.grows (h : Kept Arrived o claims) (hgrows : o.Grows o') : Kept Arrived o' claims := by
  induction hgrows with
  | refl => exact h
  | insert _ aggregateId eventType payload headers now ih =>
    exact ih.insert aggregateId eventType payload headers now

/-- A statement that keeps what each row says. -/
theorem Kept.update (h : Kept Arrived o claims) {p : OutboxRow → Bool}
    {f : OutboxRow → OutboxRow} (hf : ∀ r, (f r).content = r.content) :
    Kept Arrived { o with rows := update p f o.rows } claims where
  fresh := h.fresh
  ids := h.ids
  rows := by
    intro r hr
    obtain ⟨r₀, hr₀, hcontent⟩ := content_of_mem_update hf hr
    obtain ⟨e, he, hsays⟩ := h.rows r₀ hr₀
    exact ⟨e, he, hsays.trans hcontent⟩
  copies := h.copies
  published := h.published
  kept := by
    intro e he
    rcases h.kept e he with ⟨r, hr, hcontent⟩ | harrived
    · obtain ⟨r', hr', hsays⟩ := exists_content_update (p := p) hf hr
      exact Or.inl ⟨r', hr', hsays.trans hcontent⟩
    · exact Or.inr harrived

/-- A row is deleted after what it says has arrived. -/
theorem Kept.delete (h : Kept Arrived o claims) {c : Claim} (hc : c ∈ claims)
    (hpublished : c.published = some true) (now : Nat) :
    Kept Arrived (o.settle now c.row true) claims where
  fresh := h.fresh
  ids := h.ids
  rows r hr := h.rows r (List.mem_of_mem_filter hr)
  copies := h.copies
  published := h.published
  kept := by
    intro e he
    rcases h.kept e he with ⟨r, hr, hcontent⟩ | harrived
    · by_cases hid : r.id = c.row.id
      · -- The row and the copy are of one id, so they say the same.
        obtain ⟨e', he', hcopy⟩ := h.copies c hc
        have hsame : e = e' := by
          apply h.ids.eq_of_mem he he'
          rw [OutboxRow.id_eq_of_content hcopy, ← hid, OutboxRow.id_eq_of_content hcontent]
        rw [← hsame] at hcopy
        exact Or.inr (h.published c hc hpublished e hcopy)
      · refine Or.inl ⟨r, ?_, hcontent⟩
        rw [Outbox.settle_true, List.mem_filter]
        simp [hr, hid]
    · exact Or.inr harrived

/-- Fewer copies. -/
theorem Kept.copies_subset (h : Kept Arrived o claims) {claims' : List Claim}
    (hsub : claims' ⊆ claims) : Kept Arrived o claims' where
  fresh := h.fresh
  ids := h.ids
  rows := h.rows
  copies c hc := h.copies c (hsub hc)
  published c hc := h.published c (hsub hc)
  kept := h.kept

/-- Copies of rows of the table. -/
theorem Kept.claim (h : Kept Arrived o claims) (now : Nat) (locked : List Nat) :
    Kept Arrived o (claims ++ (o.due now locked).map fun r => ⟨r, none⟩) where
  fresh := h.fresh
  ids := h.ids
  rows := h.rows
  copies := by
    intro c hc
    rcases List.mem_append.mp hc with hc | hc
    · exact h.copies c hc
    · obtain ⟨r, hr, rfl⟩ := List.mem_map.mp hc
      exact h.rows r (o.due_subset now locked hr)
  published := by
    intro c hc hpublished
    rcases List.mem_append.mp hc with hc | hc
    · exact h.published c hc hpublished
    · obtain ⟨r, hr, rfl⟩ := List.mem_map.mp hc
      cases hpublished
  kept := h.kept

/-- A publish and how it ended. -/
theorem Kept.publish (h : Kept Arrived o claims) (i : Nat) {ok : Bool}
    (harrives : ok = true → ∀ c, claims[i]? = some c →
      ∀ e, e.content = c.row.content → Arrived e) :
    Kept Arrived o (claims.modify i fun c => { c with published := some ok }) where
  fresh := h.fresh
  ids := h.ids
  rows := h.rows
  copies := by
    intro c hc
    rcases mem_modify hc with hc | ⟨c₀, hc₀, rfl⟩
    · exact h.copies c hc
    · exact h.copies c₀ hc₀
  published := by
    intro c hc hpublished
    rcases mem_modify_getElem? hc with hc | ⟨c₀, hget, rfl⟩
    · exact h.published c hc hpublished
    · exact harrives (Option.some.inj hpublished) c₀ hget
  kept := h.kept

/-- The broker confirms only what it has taken. -/
def WorkerAction.Honest : WorkerAction → Prop
  | .publish _ enqueued ok => ok = true → enqueued = true
  | _ => True

/-- **No step of a worker loses a row**, if what it puts into the broker arrives. -/
theorem Kept.workerStep (h : Kept Arrived o claims) {a : WorkerAction} (hhonest : a.Honest)
    (harrives : ∀ row, publishedRow claims a = some row →
      ∀ e, e.content = row.content → Arrived e) :
    Kept Arrived (workerStep o claims a).1 (workerStep o claims a).2 := by
  cases a with
  | recover now => exact h.update fun r => by rfl
  | claim now locked => exact (h.claim now locked).update fun r => by rfl
  | publish i enqueued ok =>
    apply h.publish
    intro hok c hget
    have henqueued : enqueued = true := hhonest hok
    exact harrives c.row (by simp [publishedRow, henqueued, hget])
  | settle i now =>
    simp only [SeatReservation.workerStep]
    split
    · rename_i row ok hget
      have hc : (⟨row, some ok⟩ : Claim) ∈ claims := List.mem_of_getElem? hget
      refine Kept.copies_subset ?_ List.eraseIdx_subset
      cases ok with
      | true => exact h.delete hc rfl now
      | false =>
        rw [Outbox.settle_false]
        exact h.update (OutboxRow.retried_content now row.attempts)
    · exact h
  | crash i => exact h.copies_subset List.eraseIdx_subset

end SeatReservation
