import SeatReservation.OutboxLeases

/-!
# Retry accounting

`processRow` computes `attempts` from the copy it read when it claimed the row
and writes it back by id alone.  As long as the row is still as its claim left
it, the write-back adds one to the value in the table, and the number of failed
publishes of a row is its `attempts` plus the failures not yet written back
(`Counted`).  A replica that writes back a row which has moved on undoes the
failures counted since and revives a DEAD row.
-/

namespace SeatReservation

open Relational TransitionSystem

/-- `attempts` never goes down, a DEAD row stays DEAD, and no row is handed to
    `publish` once it has failed as often as is allowed. -/
def KeepsAccount (service : Service) (s : Fleet) (a : FleetAction) : Prop :=
  (∀ r ∈ s.outbox.rows, ∀ r' ∈ (fleetStep service s a).outbox.rows, r'.id = r.id →
      r.attempts ≤ r'.attempts) ∧
    (∀ r ∈ s.outbox.rows, r.state = .dead →
      ∃ r' ∈ (fleetStep service s a).outbox.rows, r'.id = r.id ∧ r'.state = .dead) ∧
    match a with
    | .publish k id _ => s.publishes k id → s.failures.count id < maxAttempts
    | _ => True

instance (service : Service) (s : Fleet) (a : FleetAction) :
    Decidable (KeepsAccount service s a) :=
  match a with
  | .publish k id _ =>
      inferInstanceAs (Decidable (_ ∧ _ ∧ (s.publishes k id → s.failures.count id < maxAttempts)))
  | .wait _ | .insert .. | .recover _ | .claim .. | .settle .. | .crash _ =>
      inferInstanceAs (Decidable (_ ∧ _ ∧ True))

/-- A replica goes on with a row only while the row is as its claim left it, and no
    row is re-queued whose last failure has not been written back. -/
def Careful (s : Fleet) : FleetAction → Prop
  | .recover k => s.idle k = true → ∀ c ∈ s.copies, c.published = some false →
      ∀ r ∈ s.outbox.rows, r.id = c.row.id → isStuck s.now r = false
  | .publish k id _ => s.Owns k id
  | .settle k id => s.Owns k id
  | _ => True

instance (s : Fleet) (a : FleetAction) : Decidable (Careful s a) :=
  match a with
  | .recover k => inferInstanceAs (Decidable (s.idle k = true → ∀ c ∈ s.copies, _))
  | .publish k id _ | .settle k id => inferInstanceAs (Decidable (s.Owns k id))
  | .wait _ | .insert .. | .claim .. | .crash _ => inferInstanceAs (Decidable True)

/-! ### Failed publishes and `attempts` -/

structure Counted (s : Fleet) : Prop where
  known : ∀ id ∈ s.failures, id ≤ s.outbox.history.length
  failed : ∀ c ∈ s.copies, c.published = some false →
    c.row.processing ∈ s.outbox.rows ∧ s.failures.count c.row.id = c.row.attempts + 1
  recorded : ∀ r ∈ s.outbox.rows,
    (∀ c ∈ s.copies, c.row.id = r.id → c.published ≠ some false) →
      s.failures.count r.id = r.attempts
  alive : ∀ r ∈ s.outbox.rows, r.state ≠ .dead → r.attempts < maxAttempts

theorem counted_start (now : Nat) : Counted (Fleet.start now) := by
  constructor <;> simp [Fleet.start, Outbox.empty]

/-- A row about to be published by a replica that owns it has no failure waiting. -/
theorem Counted.count_eq {s : Fleet} (h : Counted s) (htracked : Tracked s) {c : Copy}
    (hc : c ∈ s.copies) (hnone : c.published = none) (howned : c.row.processing ∈ s.outbox.rows) :
    s.failures.count c.row.id = c.row.attempts := by
  apply h.recorded _ howned
  intro c' hc' hid hfailed
  have heq := htracked.eq_of_owned hc' hc hid (h.failed c' hc' hfailed).1 howned
  rw [heq, hnone] at hfailed
  simp at hfailed

theorem Counted.insert {s : Fleet} (h : Counted s) (aggregateId : Uuid)
    (eventType : String) (payload : Event) (headers : List (String × String)) :
    Counted { s with outbox := s.outbox.insert aggregateId eventType payload headers s.now } where
  known := by
    intro id hid
    have hle := h.known id hid
    simp only [Outbox.insert_history, List.length_append, List.length_singleton]
    omega
  failed := by
    intro c hc hfailed
    obtain ⟨hmem, hcount⟩ := h.failed c hc hfailed
    exact ⟨List.mem_append_left _ hmem, hcount⟩
  recorded := by
    intro r hr hnone
    rcases List.mem_append.mp hr with hr | hr
    · exact h.recorded r hr hnone
    · rw [List.mem_singleton.mp hr]
      apply List.count_eq_zero.mpr
      intro hmem
      exact Nat.not_succ_le_self _ (h.known _ hmem)
  alive := by
    intro r hr hdead
    rcases List.mem_append.mp hr with hr | hr
    · exact h.alive r hr hdead
    · rw [List.mem_singleton.mp hr]
      exact Nat.zero_lt_succ 9

theorem Counted.recover {s : Fleet} (h : Counted s)
    (hok : ∀ c ∈ s.copies, c.published = some false →
      ∀ r ∈ s.outbox.rows, r.id = c.row.id → isStuck s.now r = false) :
    Counted { s with outbox := s.outbox.recover s.now } where
  known := h.known
  failed := by
    intro c hc hfailed
    obtain ⟨hmem, hcount⟩ := h.failed c hc hfailed
    refine ⟨?_, hcount⟩
    rw [Outbox.recover_rows]
    exact mem_update.mpr (Or.inr ⟨hmem, hok c hc hfailed _ hmem rfl⟩)
  recorded := by
    intro r hr hnone
    rcases mem_update.mp hr with ⟨r₀, hr₀, -, rfl⟩ | ⟨hr, -⟩
    · exact h.recorded r₀ hr₀ hnone
    · exact h.recorded r hr hnone
  alive := by
    intro r hr hdead
    rw [Outbox.recover_rows] at hr
    rcases mem_update.mp hr with ⟨r₀, hr₀, hstuck, rfl⟩ | ⟨hr, -⟩
    · apply h.alive r₀ hr₀
      rw [(isStuck_iff.mp hstuck).1]
      simp
    · exact h.alive r hr hdead

theorem Counted.claim {s : Fleet} (h : Counted s) (htracked : Tracked s) (k : Nat)
    (locked : List Nat) :
    Counted
      { s with
        outbox := (s.outbox.claim s.now locked).1
        copies := s.copies ++ (s.outbox.due s.now locked).map
          fun r => ⟨⟨r, none⟩, k, s.now, false⟩ } where
  known := h.known
  failed := by
    intro c hc hfailed
    rcases List.mem_append.mp hc with hc | hc
    · obtain ⟨hmem, hcount⟩ := h.failed c hc hfailed
      refine ⟨?_, hcount⟩
      rw [Outbox.claim_rows]
      exact mem_update_iff_exists.mpr ⟨_, hmem, by split <;> rfl⟩
    · obtain ⟨r, hr, rfl⟩ := List.mem_map.mp hc
      simp at hfailed
  recorded := by
    intro r hr hnone
    have hold : ∀ c ∈ s.copies, c.row.id = r.id → c.published ≠ some false := by
      intro c hc hid
      exact hnone c (List.mem_append_left _ hc) hid
    rcases Outbox.claim_cases htracked.rows hr with ⟨r₀, hr₀, rfl⟩ | ⟨hr, -⟩
    · exact h.recorded r₀ (Outbox.mem_due_iff hr₀).1 hold
    · exact h.recorded r hr hold
  alive := by
    intro r hr hdead
    rcases Outbox.claim_cases htracked.rows hr with ⟨r₀, hr₀, rfl⟩ | ⟨hr, -⟩
    · obtain ⟨hmem, hpending, -⟩ := Outbox.mem_due_iff hr₀
      apply h.alive r₀ hmem
      rw [hpending]
      simp
    · exact h.alive r hr hdead

/-- A failed publish of a row the replica owns. -/
theorem Counted.fail {s : Fleet} (h : Counted s) (htracked : Tracked s) {k id : Nat} {c : Copy}
    (hc : c ∈ s.copies) (hof : c.isOf k id = true) (hnone : c.published = none)
    (howns : s.Owns k id) :
    Counted
      { s with
        copies := update (Copy.isOf k id) (fun c => { c with published := some false }) s.copies
        failures := s.failures ++ [id] } where
  known := by
    intro id' hid'
    rcases List.mem_append.mp hid' with hid' | hid'
    · exact h.known id' hid'
    · rw [List.mem_singleton.mp hid', ← (Copy.isOf_iff.mp hof).2.2]
      exact htracked.freshCopies c hc
  failed := by
    intro c' hc' hfailed
    obtain ⟨-, -, hrow⟩ := Copy.isOf_iff.mp hof
    have hcount := h.count_eq htracked hc hnone (howns c hc hof)
    rcases mem_update.mp hc' with ⟨c₀, hc₀, hof₀, rfl⟩ | ⟨hc', hother⟩
    · have heq : c₀ = c := by
        apply htracked.eq_of_owned hc₀ hc _ (howns c₀ hc₀ hof₀) (howns c hc hof)
        rw [(Copy.isOf_iff.mp hof₀).2.2, hrow]
      rw [heq]
      refine ⟨howns c hc hof, ?_⟩
      show (s.failures ++ [id]).count c.row.id = c.row.attempts + 1
      rw [List.count_append, hcount, hrow]
      simp
    · obtain ⟨hmem, hcount'⟩ := h.failed c' hc' hfailed
      have hne : c'.row.id ≠ id := by
        intro hid
        have heq := htracked.eq_of_owned hc' hc (hid.trans hrow.symm) hmem (howns c hc hof)
        rw [heq, hof] at hother
        simp at hother
      refine ⟨hmem, ?_⟩
      show (s.failures ++ [id]).count c'.row.id = c'.row.attempts + 1
      rw [List.count_append, hcount', List.count_singleton, if_neg (by simpa using hne.symm)]
  recorded := by
    intro r hr hclear
    obtain ⟨-, -, hrow⟩ := Copy.isOf_iff.mp hof
    have hmine : { c with published := some false } ∈
        update (Copy.isOf k id) (fun c => { c with published := some false }) s.copies :=
      mem_update_of_mem hc hof
    have hne : r.id ≠ id := by
      intro hid
      exact hclear _ hmine (hrow.trans hid.symm) rfl
    have hbefore : s.failures.count r.id = r.attempts := by
      apply h.recorded r hr
      intro c' hc' hid hfailed
      by_cases hof' : c'.isOf k id = true
      · exact hne (hid.symm.trans (Copy.isOf_iff.mp hof').2.2)
      · exact hclear c' (mem_update.mpr (Or.inr ⟨hc', by simpa using hof'⟩)) hid hfailed
    show (s.failures ++ [id]).count r.id = r.attempts
    rw [List.count_append, hbefore, List.count_singleton, if_neg (by simpa using hne.symm),
      Nat.add_zero]
  alive := h.alive

/-- A confirmed publish. -/
theorem Counted.confirm {s : Fleet} (h : Counted s) {k id : Nat}
    (hnone : ∀ c ∈ s.copies, c.isOf k id = true → c.published ≠ some false)
    (confirmed : List Message) :
    Counted
      { s with
        copies := update (Copy.isOf k id) (fun c => { c with published := some true }) s.copies
        confirmed := confirmed } where
  known := h.known
  failed := by
    intro c' hc' hfailed
    rcases mem_update.mp hc' with ⟨c₀, hc₀, -, rfl⟩ | ⟨hc', -⟩
    · simp at hfailed
    · exact h.failed c' hc' hfailed
  recorded := by
    intro r hr hclear
    apply h.recorded r hr
    intro c' hc' hid hfailed
    by_cases hof : c'.isOf k id = true
    · exact hnone c' hc' hof hfailed
    · exact hclear c' (mem_update.mpr (Or.inr ⟨hc', by simpa using hof⟩)) hid hfailed
  alive := h.alive

/-- A write-back by a replica that owns the row. -/
theorem Counted.settle {s : Fleet} (h : Counted s) (htracked : Tracked s) {k id : Nat} {ok : Bool}
    {c : Copy} (hc : c ∈ s.copies) (hof : c.isOf k id = true) (hpublished : c.published = some ok)
    (howns : s.Owns k id) :
    Counted
      { s with
        outbox := s.outbox.settle s.now c.row ok
        copies := s.copies.filter fun c => !c.isOf k id } := by
  obtain ⟨-, -, hrow⟩ := Copy.isOf_iff.mp hof
  have howned := howns c hc hof
  -- no other copy of the row has a failure waiting
  have hother : ∀ c' ∈ s.copies.filter (fun c => !c.isOf k id), c'.published = some false →
      c'.row.id ≠ c.row.id := by
    intro c' hc' hfailed hid
    obtain ⟨hmem, hnot⟩ := List.mem_filter.mp hc'
    have heq := htracked.eq_of_owned hmem hc hid (h.failed c' hmem hfailed).1 howned
    rw [heq, hof] at hnot
    simp at hnot
  have hbefore : ∀ r ∈ s.outbox.rows, r.id ≠ c.row.id →
      (∀ c' ∈ s.copies.filter (fun c => !c.isOf k id), c'.row.id = r.id →
        c'.published ≠ some false) → s.failures.count r.id = r.attempts := by
    intro r hr hne hclear
    apply h.recorded r hr
    intro c' hc' hid hfailed
    by_cases hof' : c'.isOf k id = true
    · rw [(Copy.isOf_iff.mp hof').2.2, ← hrow] at hid
      exact hne hid.symm
    · exact hclear c' (List.mem_filter.mpr ⟨hc', by simpa using hof'⟩) hid hfailed
  cases ok with
  | true =>
    rw [Outbox.settle_true]
    constructor
    · exact h.known
    · intro c' hc' hfailed
      obtain ⟨hmem, hcount⟩ := h.failed c' (List.mem_of_mem_filter hc') hfailed
      refine ⟨List.mem_filter.mpr ⟨hmem, ?_⟩, hcount⟩
      simpa using hother c' hc' hfailed
    · intro r hr hclear
      obtain ⟨hmem, hne⟩ := List.mem_filter.mp hr
      exact hbefore r hmem (by simpa using hne) hclear
    · intro r hr
      exact h.alive r (List.mem_of_mem_filter hr)
  | false =>
    rw [Outbox.settle_false]
    constructor
    · exact h.known
    · intro c' hc' hfailed
      obtain ⟨hmem, hcount⟩ := h.failed c' (List.mem_of_mem_filter hc') hfailed
      refine ⟨mem_update.mpr (Or.inr ⟨hmem, ?_⟩), hcount⟩
      simpa using hother c' hc' hfailed
    · intro r hr hclear
      rcases mem_update.mp hr with ⟨r₀, hr₀, hid, rfl⟩ | ⟨hr, hne⟩
      · have hsame : r₀.id = c.row.id := by simpa using hid
        rw [OutboxRow.retried_id, OutboxRow.retried_attempts, hsame]
        exact (h.failed c hc hpublished).2
      · exact hbefore r hr (by simpa using hne) hclear
    · intro r hr halive
      rcases mem_update.mp hr with ⟨r₀, hr₀, -, rfl⟩ | ⟨hr, -⟩
      · exact OutboxRow.attempts_lt_of_alive halive
      · exact h.alive r hr halive

theorem Counted.crash {s : Fleet} (h : Counted s) (k : Nat) :
    Counted
      { s with
        copies := update (fun c => c.replica == k) (fun c => { c with lost := true }) s.copies }
    where
  known := h.known
  failed := by
    intro c hc hfailed
    rcases mem_update.mp hc with ⟨c₀, hc₀, -, rfl⟩ | ⟨hc, -⟩
    · exact h.failed c₀ hc₀ hfailed
    · exact h.failed c hc hfailed
  recorded := by
    intro r hr hclear
    apply h.recorded r hr
    intro c hc hid hfailed
    by_cases hk : (c.replica == k) = true
    · exact hclear _ (mem_update_of_mem hc hk) hid hfailed
    · exact hclear c (mem_update.mpr (Or.inr ⟨hc, by simpa using hk⟩)) hid hfailed
  alive := h.alive

theorem Counted.effect {service : Service} {s s' : Fleet} {a : FleetAction} (h : Counted s)
    (htracked : Tracked s) (hok : Careful s a) (heffect : FleetEffect service s a s') :
    Counted s' := by
  cases heffect with
  | nothing => exact h
  | waited ms => exact ⟨h.known, h.failed, h.recorded, h.alive⟩
  | inserted aggregateId eventType payload headers =>
    exact h.insert aggregateId eventType payload headers
  | recovered k hidle => exact h.recover (hok hidle)
  | claimed k locked hidle => exact h.claim htracked k locked
  | published k id ok c hc hof hnone =>
    have howns : s.Owns k id := hok
    have hmine : ∀ c' ∈ s.copies, c'.isOf k id = true → c'.published ≠ some false := by
      intro c' hc' hof' hfailed
      have hid : c'.row.id = c.row.id := by
        rw [(Copy.isOf_iff.mp hof').2.2, (Copy.isOf_iff.mp hof).2.2]
      have heq := htracked.eq_of_owned hc' hc hid (howns c' hc' hof') (howns c hc hof)
      rw [heq, hnone] at hfailed
      simp at hfailed
    cases ok with
    | true => exact h.confirm hmine _
    | false => exact h.fail htracked hc hof hnone howns
  | settled k id ok c hc hof hpublished => exact h.settle htracked hc hof hpublished hok
  | crashed k => exact h.crash k

/-! ### One step -/

/-- An update that takes no DEAD row and lowers no count. -/
theorem keeps_of_update {rows : List OutboxRow} (hkeyed : KeyedBy (·.id) rows)
    {p : OutboxRow → Bool} {f : OutboxRow → OutboxRow} (hid : ∀ r, (f r).id = r.id)
    (hle : ∀ r ∈ rows, p r = true → r.attempts ≤ (f r).attempts)
    (halive : ∀ r ∈ rows, p r = true → r.state ≠ .dead) :
    (∀ r ∈ rows, ∀ r' ∈ update p f rows, r'.id = r.id → r.attempts ≤ r'.attempts) ∧
      ∀ r ∈ rows, r.state = .dead → ∃ r' ∈ update p f rows, r'.id = r.id ∧ r'.state = .dead := by
  constructor
  · intro r hr r' hr' hsame
    rcases mem_update.mp hr' with ⟨r₀, hr₀, hp, rfl⟩ | ⟨hr', -⟩
    · rw [hid] at hsame
      rw [← hkeyed.eq_of_mem hr₀ hr hsame]
      exact hle r₀ hr₀ hp
    · rw [hkeyed.eq_of_mem hr' hr hsame]
  · intro r hr hdead
    refine ⟨r, mem_update.mpr (Or.inr ⟨hr, ?_⟩), rfl, hdead⟩
    rw [Bool.eq_false_iff]
    intro hp
    exact halive r hr hp hdead

/-- Rows of a table that only gained some keep their account. -/
theorem keeps_of_append {rows new : List OutboxRow} (hkeyed : KeyedBy (·.id) (rows ++ new)) :
    (∀ r ∈ rows, ∀ r' ∈ rows ++ new, r'.id = r.id → r.attempts ≤ r'.attempts) ∧
      ∀ r ∈ rows, r.state = .dead → ∃ r' ∈ rows ++ new, r'.id = r.id ∧ r'.state = .dead := by
  constructor
  · intro r hr r' hr' hsame
    rw [hkeyed.eq_of_mem hr' (List.mem_append_left _ hr) hsame]
  · intro r hr hdead
    exact ⟨r, List.mem_append_left _ hr, rfl, hdead⟩

theorem FleetEffect.keeps {service : Service} {s s' : Fleet} {a : FleetAction}
    (heffect : FleetEffect service s a s') (htracked : Tracked s) (hok : Careful s a) :
    (∀ r ∈ s.outbox.rows, ∀ r' ∈ s'.outbox.rows, r'.id = r.id → r.attempts ≤ r'.attempts) ∧
      ∀ r ∈ s.outbox.rows, r.state = .dead →
        ∃ r' ∈ s'.outbox.rows, r'.id = r.id ∧ r'.state = .dead := by
  have hsame : (∀ r ∈ s.outbox.rows, ∀ r' ∈ s.outbox.rows, r'.id = r.id →
      r.attempts ≤ r'.attempts) ∧ ∀ r ∈ s.outbox.rows, r.state = .dead →
        ∃ r' ∈ s.outbox.rows, r'.id = r.id ∧ r'.state = .dead := by
    have hkeeps := @keeps_of_append s.outbox.rows [] (by simpa using htracked.rows)
    simpa using hkeeps
  cases heffect with
  | nothing => exact hsame
  | waited ms => exact hsame
  | inserted aggregateId eventType payload headers =>
    exact keeps_of_append (htracked.insert aggregateId eventType payload headers).rows
  | recovered k hidle =>
    apply keeps_of_update htracked.rows
    · intro r
      rfl
    · intro r hr hstuck
      exact Nat.le_refl _
    · intro r hr hstuck
      have hstuck' : isStuck s.now r = true := hstuck
      rw [(isStuck_iff.mp hstuck').1]
      simp
  | claimed k locked hidle =>
    apply keeps_of_update htracked.rows
    · intro r
      rfl
    · intro r hr htaken
      exact Nat.le_refl _
    · intro r hr htaken
      obtain ⟨r₁, hr₁, hid⟩ := List.mem_map.mp (List.contains_iff_mem.mp htaken)
      obtain ⟨hmem, hpending, -⟩ := Outbox.mem_due_iff hr₁
      rw [← htracked.rows.eq_of_mem hmem hr hid, hpending]
      simp
  | published k id ok c hc hof hnone => exact hsame
  | settled k id ok c hc hof hpublished =>
    have howned : c.row.processing ∈ s.outbox.rows := hok c hc hof
    cases ok with
    | true =>
      rw [Outbox.settle_true]
      constructor
      · intro r hr r' hr' hid
        exact hsame.1 r hr r' (List.mem_of_mem_filter hr') hid
      · intro r hr hdead
        refine ⟨r, List.mem_filter.mpr ⟨hr, ?_⟩, rfl, hdead⟩
        rw [Bool.not_eq_true', beq_eq_false_iff_ne]
        intro hid
        rw [htracked.rows.eq_of_mem hr howned hid] at hdead
        simp at hdead
    | false =>
      rw [Outbox.settle_false]
      apply keeps_of_update htracked.rows
      · intro r
        exact r.retried_id s.now c.row.attempts
      · intro r hr hid
        have heq := htracked.rows.eq_of_mem hr howned (by simpa using hid)
        rw [OutboxRow.retried_attempts, heq, OutboxRow.processing_attempts]
        omega
      · intro r hr hid
        rw [htracked.rows.eq_of_mem hr howned (by simpa using hid)]
        simp
  | crashed k => exact hsame

theorem Counted.keepsAccount {service : Service} {s : Fleet} {a : FleetAction} (h : Counted s)
    (htracked : Tracked s) (hok : Careful s a) : KeepsAccount service s a := by
  obtain ⟨hattempts, hdead⟩ := (fleetStep_effect service s a).keeps htracked hok
  refine ⟨hattempts, hdead, ?_⟩
  cases a with
  | publish k id ok =>
    rintro ⟨c, hc, hof, hnone⟩
    have howned : c.row.processing ∈ s.outbox.rows := hok c hc hof
    have hcount := h.count_eq htracked hc hnone howned
    have halive := h.alive _ howned (by simp)
    rw [← (Copy.isOf_iff.mp hof).2.2, hcount]
    exact halive
  | wait ms => trivial
  | insert aggregateId eventType payload headers => trivial
  | recover k => trivial
  | claim k locked => trivial
  | settle k id => trivial
  | crash k => trivial

/-- **The retry accounting is exact while the workers are careful.** -/
theorem accounting_of_careful (service : Service) (now : Nat) {as : List FleetAction}
    (h : Along (fleetStep service) Careful (Fleet.start now) as) :
    Along (fleetStep service) (KeepsAccount service) (Fleet.start now) as := by
  apply along_of_invariant (fun s => Tracked s ∧ Counted s) _ _ _ h
  · rintro s a ⟨htracked, hcounted⟩ hok
    have heffect := fleetStep_effect service s a
    exact ⟨htracked.effect heffect, hcounted.effect htracked hok heffect⟩
  · rintro s a ⟨htracked, hcounted⟩ hok
    exact hcounted.keepsAccount htracked hok
  · exact ⟨tracked_start now, counted_start now⟩

theorem accounting_promptRun :
    Along (fleetStep .seat) (KeepsAccount .seat) (Fleet.start 0) promptRun :=
  accounting_of_careful .seat 0 (by decide)

/-- Replica 0 claims the row and is slow; replica 1 takes it over and fails twice
    before replica 0 writes its first failure back. -/
def slowRun : List FleetAction :=
  [insertReleased, .recover 0, .claim 0 [], .wait 300001, .recover 1, .claim 1 [],
   .publish 1 1 false, .settle 1 1, .wait 2000, .recover 1, .claim 1 [], .publish 1 1 false,
   .settle 1 1, .publish 0 1 false, .settle 0 1]

/-- The row has two failures counted, then one. -/
theorem not_accounting_slowRun :
    ¬ Along (fleetStep .seat) (KeepsAccount .seat) (Fleet.start 0) slowRun := by
  decide

end SeatReservation
