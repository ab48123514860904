import Mathlib.Data.List.Sort

/-!
# A queue served in batches, with elements that stay

In every round the first `k` elements of a queue are served.  Served elements
leave, except those that `stays` selects, which keep their place.  An element
that can leave does so iff fewer than `k` staying elements are ahead of it: with
`k` or more of them every batch ends before it (`leaves_iff`).
-/

namespace SeatReservation.BatchQueue

variable {α : Type*} {k : Nat} {stays : α → Bool}

/-- One round. -/
def serve (k : Nat) (stays : α → Bool) (queue : List α) : List α :=
  (queue.take k).filter stays ++ queue.drop k

theorem serve_sublist (queue : List α) : (serve k stays queue).Sublist queue := by
  have h := (List.filter_sublist (p := stays) (l := queue.take k)).append_right (queue.drop k)
  rwa [List.take_append_drop] at h

/-- An element behind the batch keeps everything ahead of it that is not served. -/
theorem serve_append {ahead : List α} (h : k ≤ ahead.length) (rest : List α) :
    serve k stays (ahead ++ rest) = serve k stays ahead ++ rest := by
  rw [serve, serve, List.take_append_of_le_length h, List.drop_append_of_le_length h,
    List.append_assoc]

@[simp] theorem countP_serve (queue : List α) :
    (serve k stays queue).countP stays = queue.countP stays := by
  have hkept : ((queue.take k).filter stays).countP stays = (queue.take k).countP stays := by
    rw [List.countP_filter]
    simp
  rw [serve, List.countP_append, hkept, ← List.countP_append, List.take_append_drop]

/-- A full batch that is not all staying elements shortens the queue. -/
theorem length_serve_lt {queue : List α} (hfull : k ≤ queue.length)
    (hfew : queue.countP stays < k) : (serve k stays queue).length < queue.length := by
  have hbatch : (queue.take k).countP stays ≤ queue.countP stays :=
    (List.take_sublist k queue).countP_le
  rw [serve, List.length_append, ← List.countP_eq_length_filter, List.length_drop]
  omega

/-- An element within the batch is served. -/
theorem not_mem_serve {ahead rest : List α} {a : α} (h : ahead.length < k)
    (hnodup : (ahead ++ a :: rest).Nodup) (ha : stays a = false) :
    a ∉ serve k stays (ahead ++ a :: rest) := by
  intro hmem
  rcases List.mem_append.mp hmem with hmem | hmem
  · have hstays := (List.mem_filter.mp hmem).2
    rw [ha] at hstays
    cases hstays
  · -- What is left behind the batch is behind `a`.
    have hbehind : a ∈ rest := by
      rw [List.drop_append, List.drop_eq_nil_of_le (Nat.le_of_lt h), List.nil_append] at hmem
      have hpos : 0 < k - ahead.length := Nat.sub_pos_of_lt h
      rw [← Nat.succ_pred_eq_of_pos hpos, List.drop_succ_cons] at hmem
      exact List.mem_of_mem_drop hmem
    exact (List.nodup_cons.mp (List.nodup_append.mp hnodup).2.1).1 hbehind

/-- The queue after `n` rounds. -/
def rounds (k : Nat) (stays : α → Bool) (n : Nat) (queue : List α) : List α :=
  (serve k stays)^[n] queue

theorem rounds_succ (n : Nat) (queue : List α) :
    rounds k stays (n + 1) queue = rounds k stays n (serve k stays queue) := rfl

theorem rounds_sublist (n : Nat) (queue : List α) : (rounds k stays n queue).Sublist queue := by
  induction n generalizing queue with
  | zero => exact List.Sublist.refl queue
  | succ n ih => exact (ih (serve k stays queue)).trans (serve_sublist queue)

/-- Behind `k` staying elements nothing ever moves. -/
theorem blocked {ahead : List α} (h : k ≤ ahead.countP stays) (n : Nat) (a : α) (rest : List α) :
    a ∈ rounds k stays n (ahead ++ a :: rest) := by
  induction n generalizing ahead with
  | zero => exact List.mem_append_right _ List.mem_cons_self
  | succ n ih =>
    rw [rounds_succ, serve_append (h.trans List.countP_le_length)]
    exact ih (h.trans (countP_serve ahead).ge)

/-- Behind fewer than `k` staying elements every round brings an element forward. -/
theorem leaves {ahead rest : List α} {a : α} (hnodup : (ahead ++ a :: rest).Nodup)
    (ha : stays a = false) (hfew : ahead.countP stays < k) {n : Nat} (hn : ahead.length < n) :
    a ∉ rounds k stays n (ahead ++ a :: rest) := by
  induction n generalizing ahead with
  | zero => exact absurd hn (Nat.not_lt_zero _)
  | succ n ih =>
    rw [rounds_succ]
    by_cases hbatch : ahead.length < k
    · intro hmem
      exact not_mem_serve hbatch hnodup ha ((rounds_sublist n _).subset hmem)
    · have hfull : k ≤ ahead.length := Nat.le_of_not_lt hbatch
      have hshorter : (serve k stays ahead).length < ahead.length := length_serve_lt hfull hfew
      rw [serve_append hfull]
      apply ih
      · exact hnodup.sublist ((serve_sublist ahead).append_right _)
      · rwa [countP_serve]
      · omega

/-- **Head-of-line blocking.**  After as many rounds as the queue is long, an element that
    can leave has left iff fewer than `k` staying elements were ahead of it. -/
theorem leaves_iff {ahead rest : List α} {a : α} (hnodup : (ahead ++ a :: rest).Nodup)
    (ha : stays a = false) {n : Nat} (hn : (ahead ++ a :: rest).length ≤ n) :
    a ∉ rounds k stays n (ahead ++ a :: rest) ↔ ahead.countP stays < k := by
  constructor
  · intro hleft
    by_contra hmany
    exact hleft (blocked (Nat.le_of_not_lt hmany) n a rest)
  · intro hfew
    apply leaves hnodup ha hfew
    rw [List.length_append, List.length_cons] at hn
    omega

/-! ### Sorted queues -/

/-- Inserting into a sorted list and selecting can be done in either order. -/
theorem filter_orderedInsert {r : α → α → Prop} [DecidableRel r] [IsTrans α r] (p : α → Bool)
    (a : α) {l : List α} (h : l.Pairwise r) : (l.orderedInsert r a).filter p =
      if p a then (l.filter p).orderedInsert r a else l.filter p := by
  induction l with
  | nil => by_cases hp : p a = true <;> simp [hp]
  | cons b l ih =>
    have hrest := ih h.tail
    rw [List.orderedInsert_cons]
    by_cases hab : r a b
    · -- Everything selected from the rest is behind `b`, so `a` is in front of it.
      rw [if_pos hab]
      by_cases hp : p a = true
      · rw [if_pos hp, List.filter_cons_of_pos hp]
        symm
        cases hsel : (b :: l).filter p with
        | nil => rfl
        | cons c selected =>
          have hc : c ∈ b :: l := by
            have hmem : c ∈ (b :: l).filter p := by rw [hsel]; exact List.mem_cons_self
            exact (List.mem_filter.mp hmem).1
          have hac : r a c := by
            rcases List.mem_cons.mp hc with rfl | hc
            · exact hab
            · exact IsTrans.trans a b c hab (List.rel_of_pairwise_cons h hc)
          rw [List.orderedInsert_cons, if_pos hac]
      · rw [if_neg hp, List.filter_cons_of_neg hp]
    · rw [if_neg hab]
      by_cases hb : p b = true
      · rw [List.filter_cons_of_pos hb, List.filter_cons_of_pos hb, hrest]
        split
        · rw [List.orderedInsert_cons, if_neg hab]
        · rfl
      · rw [List.filter_cons_of_neg hb, List.filter_cons_of_neg hb, hrest]

/-- A stable sort commutes with selecting. -/
theorem filter_insertionSort {r : α → α → Prop} [DecidableRel r] [Std.Total r] [IsTrans α r]
    (p : α → Bool) (l : List α) :
    (l.insertionSort r).filter p = (l.filter p).insertionSort r := by
  induction l with
  | nil => rfl
  | cons a l ih =>
    rw [List.insertionSort_cons, filter_orderedInsert p a (List.pairwise_insertionSort r l), ih]
    by_cases hp : p a = true
    · rw [if_pos hp, List.filter_cons_of_pos hp, List.insertionSort_cons]
    · rw [if_neg hp, List.filter_cons_of_neg hp]

end SeatReservation.BatchQueue
