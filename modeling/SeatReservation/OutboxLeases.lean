import SeatReservation.OutboxReplicas

/-!
# How long a claim is exclusive

The claiming update moves a row to PROCESSING and leaves `next_attempt_at` as it
was, yet the recovery statement measures the five minutes from
`next_attempt_at`.  A row that was overdue when it was claimed is handed out
again as soon as another replica ticks, and its first claimer, who knows nothing
of that, publishes it and writes its own copy back: `attempts` goes down, a DEAD
row returns to PENDING.

`Tracked` holds in every run and dates the copies by the `next_attempt_at` they
were read with, which only grows.  On top of it, claims are exclusive while no
recovery falls into the gap an overdue row opens and nobody goes on with a row
that has changed since (`exclusive_of_punctual`), and the retry accounting is
exact while such write-backs do not happen and no failure stays unrecorded
(`accounting_of_careful`).
-/

namespace SeatReservation

open Relational TransitionSystem

/-! ### Copies and the rows they were read from -/

/-- The row as the claim left it. -/
def OutboxRow.processing (r : OutboxRow) : OutboxRow := { r with state := .processing }

@[simp] theorem OutboxRow.processing_id (r : OutboxRow) : r.processing.id = r.id := rfl
@[simp] theorem OutboxRow.processing_state (r : OutboxRow) :
    r.processing.state = .processing := rfl
@[simp] theorem OutboxRow.processing_attempts (r : OutboxRow) :
    r.processing.attempts = r.attempts := rfl
@[simp] theorem OutboxRow.processing_nextAttemptAt (r : OutboxRow) :
    r.processing.nextAttemptAt = r.nextAttemptAt := rfl

@[simp] theorem OutboxRow.retried_id (now attempts : Nat) (r : OutboxRow) :
    (r.retried now attempts).id = r.id := by
  unfold OutboxRow.retried
  split <;> rfl

theorem OutboxRow.lt_nextAttemptAt_retried (now attempts : Nat) (r : OutboxRow) :
    now < (r.retried now attempts).nextAttemptAt := by
  unfold OutboxRow.retried
  split
  · simp
  · have hpow : 0 < 2 ^ min (attempts + 1) 8 := Nat.two_pow_pos _
    simp only [baseBackoffMs]
    omega

/-- What dates a copy: the row and the `next_attempt_at` it was read with. -/
def Copy.ticket (c : Copy) : Nat × Nat := (c.row.id, c.row.nextAttemptAt)

/-- In every run the copies are dated, and a row that can be claimed is younger
    than all copies of it. -/
structure Tracked (s : Fleet) : Prop where
  rows : KeyedBy (·.id) s.outbox.rows
  fresh : ∀ r ∈ s.outbox.rows, r.id ≤ s.outbox.history.length
  freshCopies : ∀ c ∈ s.copies, c.row.id ≤ s.outbox.history.length
  copies : KeyedBy Copy.ticket s.copies
  past : ∀ c ∈ s.copies, c.row.nextAttemptAt ≤ s.now
  younger : ∀ c ∈ s.copies, ∀ r ∈ s.outbox.rows, r.id = c.row.id →
    c.row.nextAttemptAt ≤ r.nextAttemptAt ∧
      (r.state = .pending → c.row.nextAttemptAt < r.nextAttemptAt)

theorem tracked_start (now : Nat) : Tracked (Fleet.start now) := by
  constructor <;> simp [Fleet.start, Outbox.empty, KeyedBy]

theorem Outbox.mem_due_iff {now : Nat} {locked : List Nat} {o : Outbox} {r : OutboxRow}
    (h : r ∈ o.due now locked) : r ∈ o.rows ∧ r.state = .pending ∧ r.nextAttemptAt ≤ now := by
  have hfree := (List.mem_insertionSort _).mp (List.mem_of_mem_take h)
  obtain ⟨hr, hsel⟩ := List.mem_filter.mp hfree
  simp only [Bool.and_eq_true, beq_iff_eq, decide_eq_true_eq] at hsel
  exact ⟨hr, hsel.1.1, hsel.1.2⟩

theorem Outbox.keyedBy_due {o : Outbox} (h : KeyedBy (·.id) o.rows) (now : Nat)
    (locked : List Nat) : KeyedBy (·.id) (o.due now locked) := by
  have hfree : KeyedBy (·.id) (o.rows.filter fun r =>
      r.state == .pending && decide (r.nextAttemptAt ≤ now) && !locked.contains r.id) :=
    h.sublist List.filter_sublist
  exact (hfree.perm (List.perm_insertionSort _ _).symm).sublist (List.take_sublist _ _)

/-- A row of the table after a claim: taken, or as it was. -/
theorem Outbox.claim_cases {now : Nat} {locked : List Nat} {o : Outbox}
    (h : KeyedBy (·.id) o.rows) {r : OutboxRow} (hr : r ∈ (o.claim now locked).1.rows) :
    (∃ r₀ ∈ o.due now locked, r = r₀.processing) ∨
      (r ∈ o.rows ∧ ∀ r₀ ∈ o.due now locked, r₀.id ≠ r.id) := by
  rw [Outbox.claim_rows] at hr
  rcases mem_update.mp hr with ⟨r₀, hr₀, htaken, rfl⟩ | ⟨hr, hnot⟩
  · obtain ⟨r₁, hr₁, hid⟩ := List.mem_map.mp (List.contains_iff_mem.mp htaken)
    have hsame : r₁ = r₀ := h.eq_of_mem (o.due_subset now locked hr₁) hr₀ hid
    rw [hsame] at hr₁
    exact Or.inl ⟨r₀, hr₁, rfl⟩
  · refine Or.inr ⟨hr, ?_⟩
    intro r₀ hr₀ hid
    have hmem : r.id ∈ (o.due now locked).map (·.id) := by
      rw [← hid]
      exact List.mem_map_of_mem hr₀
    rw [List.contains_iff_mem.mpr hmem] at hnot
    simp at hnot

theorem Tracked.insert {s : Fleet} (h : Tracked s) (aggregateId : Uuid) (eventType : String)
    (payload : Event) (headers : List (String × String)) :
    Tracked { s with outbox := s.outbox.insert aggregateId eventType payload headers s.now } where
  rows := by
    apply h.rows.insert
    intro r hr
    exact Nat.ne_of_lt (Nat.lt_succ_of_le (h.fresh r hr))
  fresh := by
    intro r hr
    simp only [Outbox.insert_history, List.length_append, List.length_singleton]
    rcases List.mem_append.mp hr with hr | hr
    · have hle := h.fresh r hr
      omega
    · rw [List.mem_singleton.mp hr, Outbox.newRow_id]
  freshCopies := by
    intro c hc
    have hle := h.freshCopies c hc
    simp only [Outbox.insert_history, List.length_append, List.length_singleton]
    omega
  copies := h.copies
  past := h.past
  younger := by
    intro c hc r hr hid
    rcases List.mem_append.mp hr with hr | hr
    · exact h.younger c hc r hr hid
    · have hle := h.freshCopies c hc
      rw [List.mem_singleton.mp hr] at hid
      have hnew : s.outbox.history.length + 1 = c.row.id := hid
      omega

theorem Tracked.recover {s : Fleet} (h : Tracked s) :
    Tracked { s with outbox := s.outbox.recover s.now } where
  rows := h.rows.update (fun r _ => by rfl)
  fresh := by
    intro r hr
    rcases mem_update.mp hr with ⟨r₀, hr₀, -, rfl⟩ | ⟨hr, -⟩
    · exact h.fresh r₀ hr₀
    · exact h.fresh r hr
  freshCopies := h.freshCopies
  copies := h.copies
  past := h.past
  younger := by
    intro c hc r hr hid
    rw [Outbox.recover_rows] at hr
    rcases mem_update.mp hr with ⟨r₀, hr₀, hstuck, rfl⟩ | ⟨hr, -⟩
    · obtain ⟨hle, -⟩ := h.younger c hc r₀ hr₀ hid
      obtain ⟨-, hlate⟩ := isStuck_iff.mp hstuck
      constructor
      · show c.row.nextAttemptAt ≤ s.now
        omega
      · intro _
        show c.row.nextAttemptAt < s.now
        omega
    · exact h.younger c hc r hr hid

theorem Tracked.claim {s : Fleet} (h : Tracked s) (k : Nat) (locked : List Nat) :
    Tracked
      { s with
        outbox := (s.outbox.claim s.now locked).1
        copies := s.copies ++ (s.outbox.due s.now locked).map
          fun r => ⟨⟨r, none⟩, k, s.now, false⟩ } where
  rows := h.rows.update (fun r _ => by rfl)
  fresh := by
    intro r hr
    rcases mem_update.mp hr with ⟨r₀, hr₀, -, rfl⟩ | ⟨hr, -⟩
    · exact h.fresh r₀ hr₀
    · exact h.fresh r hr
  freshCopies := by
    intro c hc
    rcases List.mem_append.mp hc with hc | hc
    · exact h.freshCopies c hc
    · obtain ⟨r, hr, rfl⟩ := List.mem_map.mp hc
      exact h.fresh r (s.outbox.due_subset s.now locked hr)
  copies := by
    have hdue := s.outbox.keyedBy_due h.rows s.now locked
    apply h.copies.append
    · unfold KeyedBy
      rw [List.map_map]
      apply List.Nodup.of_map Prod.fst
      rw [List.map_map]
      exact hdue
    · intro c hc c' hc' hticket
      obtain ⟨r, hr, rfl⟩ := List.mem_map.mp hc'
      obtain ⟨hmem, hpending, -⟩ := Outbox.mem_due_iff hr
      simp only [Copy.ticket, Prod.mk.injEq] at hticket
      have hlt := (h.younger c hc r hmem hticket.1.symm).2 hpending
      omega
  past := by
    intro c hc
    rcases List.mem_append.mp hc with hc | hc
    · exact h.past c hc
    · obtain ⟨r, hr, rfl⟩ := List.mem_map.mp hc
      exact (Outbox.mem_due_iff hr).2.2
  younger := by
    intro c hc r hr hid
    rcases Outbox.claim_cases h.rows hr with ⟨r₀, hr₀, rfl⟩ | ⟨hr, hfree⟩
    · have hmem := (Outbox.mem_due_iff hr₀).1
      refine ⟨?_, by simp⟩
      rcases List.mem_append.mp hc with hc | hc
      · exact (h.younger c hc r₀ hmem hid).1
      · obtain ⟨r₁, hr₁, rfl⟩ := List.mem_map.mp hc
        have hsame : r₀ = r₁ := h.rows.eq_of_mem hmem (Outbox.mem_due_iff hr₁).1 hid
        rw [hsame]
        exact Nat.le_refl _
    · rcases List.mem_append.mp hc with hc | hc
      · exact h.younger c hc r hr hid
      · obtain ⟨r₁, hr₁, rfl⟩ := List.mem_map.mp hc
        exact absurd hid.symm (hfree r₁ hr₁)

/-- Copies that were there before, whatever became of their publish. -/
theorem Tracked.copies_mono {s : Fleet} (h : Tracked s) {copies : List Copy}
    (hkeyed : KeyedBy Copy.ticket copies) (hsub : ∀ c ∈ copies, ∃ c₀ ∈ s.copies, c₀.row = c.row) :
    Tracked { s with copies := copies } where
  rows := h.rows
  fresh := h.fresh
  freshCopies := by
    intro c hc
    obtain ⟨c₀, hc₀, hrow⟩ := hsub c hc
    rw [← hrow]
    exact h.freshCopies c₀ hc₀
  copies := hkeyed
  past := by
    intro c hc
    obtain ⟨c₀, hc₀, hrow⟩ := hsub c hc
    rw [← hrow]
    exact h.past c₀ hc₀
  younger := by
    intro c hc r hr hid
    obtain ⟨c₀, hc₀, hrow⟩ := hsub c hc
    rw [← hrow] at hid ⊢
    exact h.younger c₀ hc₀ r hr hid

theorem Tracked.settle {s : Fleet} (h : Tracked s) (row : OutboxRow) (ok : Bool) :
    Tracked { s with outbox := s.outbox.settle s.now row ok } := by
  cases ok with
  | true =>
    rw [Outbox.settle_true]
    constructor
    · exact h.rows.sublist List.filter_sublist
    · intro r hr
      exact h.fresh r (List.mem_of_mem_filter hr)
    · exact h.freshCopies
    · exact h.copies
    · exact h.past
    · intro c hc r hr
      exact h.younger c hc r (List.mem_of_mem_filter hr)
  | false =>
    rw [Outbox.settle_false]
    constructor
    · exact h.rows.update (fun r _ => r.retried_id s.now row.attempts)
    · intro r hr
      rcases mem_update.mp hr with ⟨r₀, hr₀, -, rfl⟩ | ⟨hr, -⟩
      · rw [OutboxRow.retried_id]
        exact h.fresh r₀ hr₀
      · exact h.fresh r hr
    · exact h.freshCopies
    · exact h.copies
    · exact h.past
    · intro c hc r hr hid
      rcases mem_update.mp hr with ⟨r₀, hr₀, -, rfl⟩ | ⟨hr, -⟩
      · have hpast := h.past c hc
        have hlate := r₀.lt_nextAttemptAt_retried s.now row.attempts
        constructor
        · omega
        · intro _
          omega
      · exact h.younger c hc r hr hid

theorem Tracked.effect {service : Service} {s s' : Fleet} {a : FleetAction} (h : Tracked s)
    (heffect : FleetEffect service s a s') : Tracked s' := by
  cases heffect with
  | nothing => exact h
  | waited ms =>
    refine ⟨h.rows, h.fresh, h.freshCopies, h.copies, ?_, h.younger⟩
    intro c hc
    have hpast := h.past c hc
    show c.row.nextAttemptAt ≤ s.now + ms
    omega
  | inserted aggregateId eventType payload headers =>
    exact h.insert aggregateId eventType payload headers
  | recovered k hidle => exact h.recover
  | claimed k locked hidle => exact h.claim k locked
  | published k id ok c hc hof hnone =>
    have hcopies := h.copies_mono (h.copies.update (p := Copy.isOf k id)
      (f := fun c => { c with published := some ok }) fun c _ => by rfl) (by
        intro c' hc'
        rcases mem_update.mp hc' with ⟨c₀, hc₀, -, rfl⟩ | ⟨hc', -⟩
        · exact ⟨c₀, hc₀, rfl⟩
        · exact ⟨c', hc', rfl⟩)
    exact ⟨hcopies.rows, hcopies.fresh, hcopies.freshCopies, hcopies.copies, hcopies.past,
      hcopies.younger⟩
  | settled k id ok c hc hof hpublished =>
    apply (h.settle c.row ok).copies_mono
    · exact h.copies.sublist List.filter_sublist
    · intro c' hc'
      exact ⟨c', List.mem_of_mem_filter hc', rfl⟩
  | crashed k =>
    apply h.copies_mono
    · exact h.copies.update fun c _ => by rfl
    · intro c hc
      rcases mem_update.mp hc with ⟨c₀, hc₀, -, rfl⟩ | ⟨hc, -⟩
      · exact ⟨c₀, hc₀, rfl⟩
      · exact ⟨c, hc, rfl⟩

/-! ### Five minutes -/

/-- The claim is no older than five minutes. -/
def Fleet.isOpen (s : Fleet) (c : Copy) : Prop := s.now ≤ c.claimedAt + 300000

instance (s : Fleet) (c : Copy) : Decidable (s.isOpen c) := inferInstanceAs (Decidable (_ ≤ _))

/-- Replica `k` is about to hand row `id` to `publish`. -/
def Fleet.publishes (s : Fleet) (k id : Nat) : Prop :=
  ∃ c ∈ s.copies, c.isOf k id = true ∧ c.published = none

instance (s : Fleet) (k id : Nat) : Decidable (s.publishes k id) :=
  inferInstanceAs (Decidable (∃ c ∈ s.copies, _))

/-- A row whose claim is open, and not finished by the replica that made it, is not
    re-queued, and not claimed or published by another replica. -/
def Exclusive (s : Fleet) : FleetAction → Prop
  | .recover k => s.idle k = true → ∀ c ∈ s.copies, s.isOpen c →
      ∀ r ∈ s.outbox.rows, r.id = c.row.id → r ∈ (s.outbox.recover s.now).rows
  | .claim k locked => s.idle k = true → ∀ c ∈ s.copies, s.isOpen c →
      ∀ r ∈ s.outbox.due s.now locked, r.id ≠ c.row.id
  | .publish k id _ => s.publishes k id →
      ∀ c ∈ s.copies, s.isOpen c → c.row.id = id → c.replica = k
  | _ => True

instance (s : Fleet) (a : FleetAction) : Decidable (Exclusive s a) := by
  unfold Exclusive
  cases a <;> infer_instance

/-- The row is in the table as the claim of the replica left it. -/
def Fleet.Owns (s : Fleet) (k id : Nat) : Prop :=
  ∀ c ∈ s.copies, c.isOf k id = true → c.row.processing ∈ s.outbox.rows

instance (s : Fleet) (k id : Nat) : Decidable (s.Owns k id) :=
  inferInstanceAs (Decidable (∀ c ∈ s.copies, _))

/-- No recovery runs in the gap of a claimed row, after five minutes from its due
    time and before five minutes from its claim, and a replica goes on with a row
    only while the row is as its claim left it. -/
def Punctual (s : Fleet) : FleetAction → Prop
  | .recover k => s.idle k = true → ∀ c ∈ s.copies, ∀ r ∈ s.outbox.rows, r.id = c.row.id →
      s.now ≤ r.nextAttemptAt + 300000 ∨ c.claimedAt + 300000 < s.now
  | .publish k id _ => s.Owns k id
  | .settle k id => s.Owns k id
  | _ => True

instance (s : Fleet) (a : FleetAction) : Decidable (Punctual s a) := by
  unfold Punctual
  cases a <;> infer_instance

/-- The row of an open claim is as the claim left it. -/
def OpenRowsKept (s : Fleet) : Prop :=
  ∀ c ∈ s.copies, s.isOpen c → ∀ r ∈ s.outbox.rows, r.id = c.row.id → r = c.row.processing

/-- Two copies whose rows are both as the claims left them are one. -/
theorem Tracked.eq_of_owned {s : Fleet} (h : Tracked s) {c c' : Copy} (hc : c ∈ s.copies)
    (hc' : c' ∈ s.copies) (hid : c.row.id = c'.row.id) (howned : c.row.processing ∈ s.outbox.rows)
    (howned' : c'.row.processing ∈ s.outbox.rows) : c = c' := by
  have hrow : c.row.processing = c'.row.processing := h.rows.eq_of_mem howned howned' hid
  have hdate : c.row.nextAttemptAt = c'.row.nextAttemptAt := by
    simpa using congrArg OutboxRow.nextAttemptAt hrow
  apply h.copies.eq_of_mem hc hc'
  rw [Copy.ticket, Copy.ticket, hid, hdate]

/-- An open claim on a row someone else has as claimed is that one. -/
theorem OpenRowsKept.eq_of_owned {s : Fleet} (hopen : OpenRowsKept s) (h : Tracked s) {c c' : Copy}
    (hc : c ∈ s.copies) (hc' : c' ∈ s.copies) (hid : c.row.id = c'.row.id)
    (howned : c.row.processing ∈ s.outbox.rows) (hopen' : s.isOpen c') : c = c' := by
  have hrow : c.row.processing = c'.row.processing := hopen c' hc' hopen' _ howned hid
  apply h.eq_of_owned hc hc' hid howned
  rw [← hrow]
  exact howned

theorem OpenRowsKept.settle {s : Fleet} (hopen : OpenRowsKept s) (h : Tracked s) {k id : Nat}
    {c : Copy} (hc : c ∈ s.copies) (hof : c.isOf k id = true) (howns : s.Owns k id) (ok : Bool) :
    OpenRowsKept
      { s with
        outbox := s.outbox.settle s.now c.row ok
        copies := s.copies.filter fun c => !c.isOf k id } := by
  intro c' hc' hopen' r hr hid
  obtain ⟨hmem, hother⟩ := List.mem_filter.mp hc'
  -- the settled row is not the row of another open claim
  have hne : c.row.id ≠ c'.row.id := by
    intro hsame
    have heq := hopen.eq_of_owned h hc hmem hsame (howns c hc hof) hopen'
    rw [← heq, hof] at hother
    simp at hother
  cases ok with
  | true =>
    rw [Outbox.settle_true] at hr
    exact hopen c' hmem hopen' r (List.mem_of_mem_filter hr) hid
  | false =>
    rw [Outbox.settle_false] at hr
    rcases mem_update.mp hr with ⟨r₀, hr₀, hsettled, rfl⟩ | ⟨hr, -⟩
    · have hsame : r₀.id = c.row.id := by simpa using hsettled
      rw [OutboxRow.retried_id, hsame] at hid
      exact absurd hid hne
    · exact hopen c' hmem hopen' r hr hid

theorem OpenRowsKept.effect {service : Service} {s s' : Fleet} {a : FleetAction}
    (hopen : OpenRowsKept s) (h : Tracked s) (hok : Punctual s a)
    (heffect : FleetEffect service s a s') : OpenRowsKept s' := by
  cases heffect with
  | nothing => exact hopen
  | waited ms =>
    intro c hc hopen' r hr hid
    apply hopen c hc _ r hr hid
    have hlater : s.now + ms ≤ c.claimedAt + 300000 := hopen'
    show s.now ≤ c.claimedAt + 300000
    omega
  | inserted aggregateId eventType payload headers =>
    intro c hc hopen' r hr hid
    rcases List.mem_append.mp hr with hr | hr
    · exact hopen c hc hopen' r hr hid
    · rw [List.mem_singleton.mp hr] at hid
      have hnew : s.outbox.history.length + 1 = c.row.id := hid
      have hle := h.freshCopies c hc
      omega
  | recovered k hidle =>
    intro c hc hopen' r hr hid
    have hwithin : s.now ≤ c.claimedAt + 300000 := hopen'
    rw [Outbox.recover_rows] at hr
    rcases mem_update.mp hr with ⟨r₀, hr₀, hstuck, rfl⟩ | ⟨hr, -⟩
    · obtain ⟨-, hlate⟩ := isStuck_iff.mp hstuck
      have hgap := hok hidle c hc r₀ hr₀ hid
      omega
    · exact hopen c hc hopen' r hr hid
  | claimed k locked hidle =>
    intro c hc hopen' r hr hid
    rcases Outbox.claim_cases h.rows hr with ⟨r₀, hr₀, rfl⟩ | ⟨hr, hfree⟩
    · obtain ⟨hmem, hpending, -⟩ := Outbox.mem_due_iff hr₀
      rcases List.mem_append.mp hc with hc | hc
      · have hprocessing := hopen c hc hopen' r₀ hmem hid
        rw [hprocessing] at hpending
        simp at hpending
      · obtain ⟨r₁, hr₁, rfl⟩ := List.mem_map.mp hc
        have hsame : r₀ = r₁ := h.rows.eq_of_mem hmem (Outbox.mem_due_iff hr₁).1 hid
        rw [hsame]
    · rcases List.mem_append.mp hc with hc | hc
      · exact hopen c hc hopen' r hr hid
      · obtain ⟨r₁, hr₁, rfl⟩ := List.mem_map.mp hc
        exact absurd hid.symm (hfree r₁ hr₁)
  | published k id ok c hc hof hnone =>
    intro c' hc' hopen' r hr hid
    rcases mem_update.mp hc' with ⟨c₀, hc₀, -, rfl⟩ | ⟨hc', -⟩
    · exact hopen c₀ hc₀ hopen' r hr hid
    · exact hopen c' hc' hopen' r hr hid
  | settled k id ok c hc hof hpublished => exact hopen.settle h hc hof hok ok
  | crashed k =>
    intro c hc hopen' r hr hid
    rcases mem_update.mp hc with ⟨c₀, hc₀, -, rfl⟩ | ⟨hc, -⟩
    · exact hopen c₀ hc₀ hopen' r hr hid
    · exact hopen c hc hopen' r hr hid

theorem OpenRowsKept.exclusive {s : Fleet} {a : FleetAction} (hopen : OpenRowsKept s)
    (h : Tracked s) (hok : Punctual s a) : Exclusive s a := by
  cases a with
  | recover k =>
    intro hidle c hc hopen' r hr hid
    have hwithin : s.now ≤ c.claimedAt + 300000 := hopen'
    have hgap := hok hidle c hc r hr hid
    rw [Outbox.recover_rows]
    refine mem_update.mpr (Or.inr ⟨hr, ?_⟩)
    by_contra hstuck
    obtain ⟨-, hlate⟩ := isStuck_iff.mp (by simpa using hstuck)
    omega
  | claim k locked =>
    intro hidle c hc hopen' r hr hid
    obtain ⟨hmem, hpending, -⟩ := Outbox.mem_due_iff hr
    rw [hopen c hc hopen' r hmem hid] at hpending
    simp at hpending
  | publish k id ok =>
    rintro ⟨c, hc, hof, -⟩ c' hc' hopen' hid
    obtain ⟨-, hreplica, hrow⟩ := Copy.isOf_iff.mp hof
    have heq := hopen.eq_of_owned h hc hc' (hrow.trans hid.symm) (hok c hc hof) hopen'
    rw [← heq]
    exact hreplica
  | wait ms => trivial
  | insert aggregateId eventType payload headers => trivial
  | settle k id => trivial
  | crash k => trivial

/-- **Claims are exclusive for five minutes while the workers are punctual.** -/
theorem exclusive_of_punctual (service : Service) (now : Nat) {as : List FleetAction}
    (h : Along (fleetStep service) Punctual (Fleet.start now) as) :
    Along (fleetStep service) Exclusive (Fleet.start now) as := by
  apply along_of_invariant (fun s => Tracked s ∧ OpenRowsKept s) _ _ _ h
  · rintro s a ⟨htracked, hopen⟩ hok
    have heffect := fleetStep_effect service s a
    exact ⟨htracked.effect heffect, hopen.effect htracked hok heffect⟩
  · rintro s a ⟨htracked, hopen⟩ hok
    exact hopen.exclusive htracked hok
  · exact ⟨tracked_start now, by simp [OpenRowsKept, Fleet.start]⟩

/-! ### A backlog -/

/-- Workers that keep up: the row is claimed when it falls due. -/
def promptRun : List FleetAction :=
  [insertReleased, .recover 0, .claim 0 [], .wait 1000, .recover 1, .claim 1 [],
   .publish 0 1 false, .settle 0 1]

theorem exclusive_promptRun :
    Along (fleetStep .seat) Exclusive (Fleet.start 0) promptRun :=
  exclusive_of_punctual .seat 0 (by decide)

/-- The workers were down for ten minutes; replica 1 ticks a second after replica 0. -/
def backlogRun : List FleetAction :=
  [insertReleased, .wait 600000, .recover 0, .claim 0 [], .wait 1000, .recover 1, .claim 1 [],
   .publish 1 1 true]

/-- Replica 1 re-queues, claims and publishes the row replica 0 claimed a second ago. -/
theorem not_exclusive_backlogRun :
    ¬ Along (fleetStep .seat) Exclusive (Fleet.start 0) backlogRun := by
  decide

end SeatReservation
