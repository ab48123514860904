import Mathlib.Data.List.Nodup
import Mathlib.Tactic.TypeStar

/-!
# Tables as lists of rows

A table is the list of its rows.  `update` is `UPDATE t SET f WHERE p` and
`returning` the rows its `RETURNING` clause gives back; an insert appends.  Two
kinds of uniqueness are used: `KeyedBy` is a primary key (or a total unique
index) and `UniqueOn` a partial unique index, which only constrains the rows its
predicate selects.
-/

namespace SeatReservation.Relational

variable {α κ : Type*}

/-! ### Updates -/

/-- `UPDATE t SET f WHERE p`. -/
def update (p : α → Bool) (f : α → α) (t : List α) : List α :=
  t.map fun r => if p r then f r else r

/-- The rows `UPDATE t SET f WHERE p RETURNING *` gives back. -/
def returning (p : α → Bool) (f : α → α) (t : List α) : List α := (t.filter p).map f

theorem update_cons (p : α → Bool) (f : α → α) (r : α) (t : List α) :
    update p f (r :: t) = (if p r then f r else r) :: update p f t := rfl

theorem mem_update {p : α → Bool} {f : α → α} {t : List α} {x : α} :
    x ∈ update p f t ↔ (∃ r ∈ t, p r = true ∧ f r = x) ∨ (x ∈ t ∧ p x = false) := by
  simp only [update, List.mem_map]
  constructor
  · rintro ⟨r, hr, rfl⟩
    by_cases hp : p r = true
    · exact Or.inl ⟨r, hr, hp, by rw [if_pos hp]⟩
    · rw [if_neg hp]
      exact Or.inr ⟨hr, by simpa using hp⟩
  · rintro (⟨r, hr, hp, rfl⟩ | ⟨hx, hp⟩)
    · exact ⟨r, hr, by rw [if_pos hp]⟩
    · exact ⟨x, hx, by rw [if_neg (by simp [hp])]⟩

theorem mem_update_of_mem {p : α → Bool} {f : α → α} {t : List α} {r : α} (hr : r ∈ t)
    (hp : p r = true) : f r ∈ update p f t :=
  mem_update.mpr (Or.inl ⟨r, hr, hp, rfl⟩)

theorem mem_returning {p : α → Bool} {f : α → α} {t : List α} {x : α} :
    x ∈ returning p f t ↔ ∃ r ∈ t, p r = true ∧ f r = x := by
  simp [returning, and_assoc]

/-- The rows of the updated table are those of the table, in their later form. -/
theorem mem_update_iff_exists {p : α → Bool} {f : α → α} {t : List α} {x : α} :
    x ∈ update p f t ↔ ∃ r ∈ t, (if p r then f r else r) = x := by
  simp only [update, List.mem_map]

/-- An update leaves the table alone iff it changes no row it selects. -/
theorem update_eq_self_iff {p : α → Bool} {f : α → α} {t : List α} :
    update p f t = t ↔ ∀ r ∈ t, p r = true → f r = r := by
  have hid : t.map id = t := List.map_id t
  constructor
  · intro h r hr hp
    have heq := List.map_inj_left.mp (h.trans hid.symm) r hr
    rwa [if_pos hp] at heq
  · intro h
    refine (List.map_congr_left fun r hr => ?_).trans hid
    by_cases hp : p r = true
    · rw [if_pos hp, h r hr hp]
      rfl
    · rw [if_neg hp]
      rfl

/-- An update that selects no row changes nothing. -/
theorem update_eq_self {p : α → Bool} {f : α → α} {t : List α}
    (h : ∀ r ∈ t, p r = false) : update p f t = t := by
  apply update_eq_self_iff.mpr
  intro r hr hp
  rw [h r hr] at hp
  simp at hp

/-- An update that keeps a column keeps the list of its values. -/
theorem map_update {key : α → κ} {p : α → Bool} {f : α → α}
    (hkey : ∀ r, p r = true → key (f r) = key r) (t : List α) :
    (update p f t).map key = t.map key := by
  simp only [update, List.map_map]
  apply List.map_congr_left
  intro r _
  by_cases hp : p r = true
  · simp [hp, hkey r hp]
  · simp [hp]

theorem returning_eq_nil_iff {p : α → Bool} {f : α → α} {t : List α} :
    returning p f t = [] ↔ ∀ r ∈ t, p r = false := by
  simp [returning, List.filter_eq_nil_iff]

/-- Selections that agree on the table select the same rows. -/
theorem update_congr {p p' : α → Bool} {t : List α} (h : ∀ r ∈ t, p r = p' r) (f : α → α) :
    update p f t = update p' f t := by
  apply List.map_congr_left
  intro r hr
  simp only [h r hr]

theorem returning_congr {p p' : α → Bool} {t : List α} (h : ∀ r ∈ t, p r = p' r) (f : α → α) :
    returning p f t = returning p' f t := by
  rw [returning, List.filter_congr h, returning]

/-- An update of rows outside a selection that keeps rows outside leaves the selection alone. -/
theorem filter_update {p q : α → Bool} {f : α → α} {t : List α}
    (hout : ∀ r ∈ t, p r = true → q r = false) (hkeep : ∀ r, q (f r) = q r) :
    (update p f t).filter q = t.filter q := by
  induction t with
  | nil => rfl
  | cons r t ih =>
    have hrest := ih fun x hx => hout x (List.mem_cons_of_mem _ hx)
    rw [update_cons]
    by_cases hp : p r = true
    · have hq := hout r List.mem_cons_self hp
      rw [if_pos hp, List.filter_cons_of_neg (by simp [hkeep, hq]),
        List.filter_cons_of_neg (by simp [hq]), hrest]
    · rw [if_neg hp]
      by_cases hq : q r = true
      · rw [List.filter_cons_of_pos hq, List.filter_cons_of_pos hq, hrest]
      · rw [List.filter_cons_of_neg hq, List.filter_cons_of_neg hq, hrest]

/-- The element that was not there before is the one at the position. -/
theorem mem_modify_getElem? {f : α → α} {i : Nat} {t : List α} {x : α} (h : x ∈ t.modify i f) :
    x ∈ t ∨ ∃ r, t[i]? = some r ∧ f r = x := by
  obtain ⟨j, hj⟩ := List.mem_iff_getElem?.mp h
  rw [List.getElem?_modify] at hj
  cases hget : t[j]? with
  | none => simp [hget] at hj
  | some r =>
    simp only [hget, Option.map_eq_map, Option.map_some, Option.some.injEq] at hj
    split at hj
    · rename_i hij
      exact Or.inr ⟨r, hij ▸ hget, hj⟩
    · rw [← hj]
      exact Or.inl (List.mem_of_getElem? hget)

theorem mem_modify {f : α → α} {i : Nat} {t : List α} {x : α} (h : x ∈ t.modify i f) :
    x ∈ t ∨ ∃ r ∈ t, f r = x := by
  rcases mem_modify_getElem? h with hx | ⟨r, hget, hr⟩
  · exact Or.inl hx
  · exact Or.inr ⟨r, List.mem_of_getElem? hget, hr⟩

/-- An update that takes each row it selects out of `q` lowers their number by as many. -/
theorem countP_update {p q : α → Bool} {f : α → α} {t : List α}
    (hin : ∀ r ∈ t, p r = true → q r = true) (hout : ∀ r, p r = true → q (f r) = false) :
    (update p f t).countP q + t.countP p = t.countP q := by
  induction t with
  | nil => rfl
  | cons r t ih =>
    have hrest := ih fun x hx => hin x (List.mem_cons_of_mem _ hx)
    simp only [update, List.map_cons, List.countP_cons] at hrest ⊢
    by_cases hp : p r = true
    · simp only [hp, if_true, hout r hp, hin r List.mem_cons_self hp]
      simp only [Bool.false_eq_true, if_false]
      omega
    · simp only [hp]
      simp only [Bool.false_eq_true, if_false]
      omega

theorem length_returning (p : α → Bool) (f : α → α) (t : List α) :
    (returning p f t).length = t.countP p := by
  rw [returning, List.length_map, List.countP_eq_length_filter]

/-- Rows matched one to one: each row on the left has its match. -/
theorem exists_match {R : α → κ → Prop} {rows : List α} {partners : List κ}
    (h : List.Forall₂ R rows partners) {a : α} (ha : a ∈ rows) : ∃ b ∈ partners, R a b := by
  induction h with
  | nil => simp at ha
  | @cons r b rows partners hr hrest ih =>
    rcases List.mem_cons.mp ha with rfl | ha
    · exact ⟨b, List.mem_cons_self, hr⟩
    · obtain ⟨b', hb', hab⟩ := ih ha
      exact ⟨b', List.mem_cons_of_mem _ hb', hab⟩

/-- A position of a list splits it. -/
theorem exists_split_of_getElem? {l : List α} {i : Nat} {a : α} (h : l[i]? = some a) :
    ∃ before after, l = before ++ a :: after ∧ before.length = i := by
  obtain ⟨hlt, rfl⟩ := List.getElem?_eq_some_iff.mp h
  refine ⟨l.take i, l.drop (i + 1), ?_, List.length_take_of_le (Nat.le_of_lt hlt)⟩
  rw [← List.drop_eq_getElem_cons hlt, List.take_append_drop]

section Split

variable {before after : List α} {a : α}

theorem eraseIdx_split : (before ++ a :: after).eraseIdx before.length = before ++ after := by
  simp [List.eraseIdx_append_of_length_le]

theorem set_split (b : α) :
    (before ++ a :: after).set before.length b = before ++ b :: after := by
  rw [List.set_append_right _ _ (Nat.le_refl _), Nat.sub_self, List.set_cons_zero]

theorem mem_split {x : α} : x ∈ before ++ a :: after ↔ x = a ∨ x ∈ before ++ after := by
  rw [List.perm_middle.mem_iff, List.mem_cons]

theorem forall_mem_split {P : α → Prop} :
    (∀ x ∈ before ++ a :: after, P x) ↔ P a ∧ ∀ x ∈ before ++ after, P x := by
  simp only [mem_split, forall_eq_or_imp]

theorem forall_mem_replace {P : α → Prop} (h : ∀ x ∈ before ++ a :: after, P x) {b : α}
    (hb : P b) : ∀ x ∈ before ++ b :: after, P x :=
  forall_mem_split.mpr ⟨hb, (forall_mem_split.mp h).2⟩

theorem pairwise_split {R : α → α → Prop} (hsymm : ∀ x y, R x y → R y x) :
    (before ++ a :: after).Pairwise R ↔
      (∀ x ∈ before ++ after, R a x) ∧ (before ++ after).Pairwise R := by
  rw [List.perm_middle.pairwise_iff fun h => hsymm _ _ h, List.pairwise_cons]

end Split

/-! ### Primary keys -/

/-- `key` is a primary key of the table. -/
def KeyedBy (key : α → κ) (t : List α) : Prop := (t.map key).Nodup

theorem KeyedBy.eq_of_mem {key : α → κ} {t : List α} (h : KeyedBy key t) {r r' : α}
    (hr : r ∈ t) (hr' : r' ∈ t) (hk : key r = key r') : r = r' :=
  List.inj_on_of_nodup_map h hr hr' hk

/-- A row is found by its key. -/
theorem KeyedBy.find?_eq_some [DecidableEq κ] {key : α → κ} {t : List α} (h : KeyedBy key t)
    {r : α} (hr : r ∈ t) : (t.find? fun x => key x == key r) = some r := by
  cases hfound : t.find? fun x => key x == key r with
  | none =>
    have hnone := List.find?_eq_none.mp hfound r hr
    simp at hnone
  | some x =>
    have hkey : key x = key r := by simpa using List.find?_some hfound
    rw [h.eq_of_mem (List.mem_of_find?_eq_some hfound) hr hkey]

theorem KeyedBy.update {key : α → κ} {t : List α} (h : KeyedBy key t) {p : α → Bool} {f : α → α}
    (hkey : ∀ r, p r = true → key (f r) = key r) : KeyedBy key (update p f t) := by
  unfold KeyedBy
  rw [map_update hkey]
  exact h

theorem KeyedBy.append {key : α → κ} {t t' : List α} (h : KeyedBy key t) (h' : KeyedBy key t')
    (hdisjoint : ∀ r ∈ t, ∀ r' ∈ t', key r ≠ key r') : KeyedBy key (t ++ t') := by
  unfold KeyedBy
  rw [List.map_append, List.nodup_append]
  refine ⟨h, h', ?_⟩
  intro k hk k' hk'
  obtain ⟨r, hr, rfl⟩ := List.mem_map.mp hk
  obtain ⟨r', hr', rfl⟩ := List.mem_map.mp hk'
  exact hdisjoint r hr r' hr'

theorem KeyedBy.insert {key : α → κ} {t : List α} (h : KeyedBy key t) {row : α}
    (hfree : ∀ r ∈ t, key r ≠ key row) : KeyedBy key (t ++ [row]) := by
  apply h.append
  · simp [KeyedBy]
  · intro r hr r' hr'
    rw [List.mem_singleton.mp hr']
    exact hfree r hr

theorem KeyedBy.sublist {key : α → κ} {t t' : List α} (h : KeyedBy key t)
    (hsub : t'.Sublist t) : KeyedBy key t' := List.Nodup.sublist (hsub.map key) h

theorem KeyedBy.perm {key : α → κ} {t t' : List α} (h : KeyedBy key t) (hperm : t.Perm t') :
    KeyedBy key t' := (hperm.map key).nodup_iff.mp h

theorem KeyedBy.length_filter_le_one [DecidableEq κ] {key : α → κ} {t : List α}
    (h : KeyedBy key t) (k : κ) : (t.filter fun r => key r == k).length ≤ 1 := by
  have hcount := List.nodup_iff_count_le_one.mp h k
  rwa [List.count, List.countP_map, List.countP_eq_length_filter] at hcount

/-! ### Partial unique indexes -/

/-- `CREATE UNIQUE INDEX ON t (key) WHERE p`. -/
def UniqueOn (p : α → Bool) (key : α → κ) (t : List α) : Prop :=
  ∀ r ∈ t, ∀ r' ∈ t, p r = true → p r' = true → key r = key r' → r = r'

instance UniqueOn.decidable [DecidableEq α] [DecidableEq κ] (p : α → Bool) (key : α → κ)
    (t : List α) : Decidable (UniqueOn p key t) :=
  inferInstanceAs
    (Decidable (∀ r ∈ t, ∀ r' ∈ t, p r = true → p r' = true → key r = key r' → r = r'))

theorem UniqueOn.insert {p : α → Bool} {key : α → κ} {t : List α} (h : UniqueOn p key t) {row : α}
    (hfree : ∀ r ∈ t, p r = true → key r ≠ key row) : UniqueOn p key (t ++ [row]) := by
  intro r hr r' hr' hp hp' hk
  rcases List.mem_append.mp hr with hold | hnew <;>
    rcases List.mem_append.mp hr' with hold' | hnew'
  · exact h r hold r' hold' hp hp' hk
  · rw [List.mem_singleton.mp hnew'] at hk
    exact absurd hk (hfree r hold hp)
  · rw [List.mem_singleton.mp hnew] at hk
    exact absurd hk.symm (hfree r' hold' hp')
  · rw [List.mem_singleton.mp hnew, List.mem_singleton.mp hnew']

theorem UniqueOn.insert_of_not {p : α → Bool} {key : α → κ} {t : List α} (h : UniqueOn p key t)
    {row : α} (hrow : p row = false) : UniqueOn p key (t ++ [row]) := by
  intro r hr r' hr' hp hp' hk
  rcases List.mem_append.mp hr with hold | hnew
  · rcases List.mem_append.mp hr' with hold' | hnew'
    · exact h r hold r' hold' hp hp' hk
    · rw [List.mem_singleton.mp hnew', hrow] at hp'
      simp at hp'
  · rw [List.mem_singleton.mp hnew, hrow] at hp
    simp at hp

/-- The rows the index selects under one key: none, or a single one. -/
theorem UniqueOn.filter_cases [DecidableEq κ] {p : α → Bool} {key : α → κ} {t : List α}
    (h : UniqueOn p key t) (hnodup : t.Nodup) (k : κ) :
    (t.filter fun r => key r == k && p r) = [] ∨
      ∃ r ∈ t, p r = true ∧ key r = k ∧ (t.filter fun r => key r == k && p r) = [r] := by
  cases hsel : t.filter fun r => key r == k && p r with
  | nil => exact Or.inl rfl
  | cons r rest =>
    right
    have hin : ∀ x ∈ r :: rest, x ∈ t ∧ key x = k ∧ p x = true := by
      intro x hx
      rw [← hsel] at hx
      simpa using List.mem_filter.mp hx
    obtain ⟨hr, hkey, hp⟩ := hin r List.mem_cons_self
    refine ⟨r, hr, hp, hkey, ?_⟩
    cases rest with
    | nil => rfl
    | cons r' rest =>
      obtain ⟨hr', hkey', hp'⟩ := hin r' (by simp)
      have heq : r = r' := h r hr r' hr' hp hp' (hkey.trans hkey'.symm)
      have hsub := hnodup.sublist (List.filter_sublist (p := fun r => key r == k && p r))
      rw [hsel, heq] at hsub
      simp at hsub

/-- An update whose rows leave the index keeps it. -/
theorem UniqueOn.update {p : α → Bool} {key : α → κ} {t : List α} (h : UniqueOn p key t)
    {q : α → Bool} {f : α → α} (hout : ∀ r, q r = true → p (f r) = false) :
    UniqueOn p key (update q f t) := by
  intro r hr r' hr' hp hp' hk
  rcases mem_update.mp hr with ⟨r₀, -, hq, rfl⟩ | ⟨hr, -⟩
  · rw [hout r₀ hq] at hp; cases hp
  · rcases mem_update.mp hr' with ⟨r₀, -, hq, rfl⟩ | ⟨hr', -⟩
    · rw [hout r₀ hq] at hp'; cases hp'
    · exact h r hr r' hr' hp hp' hk

/-- An insert whose key is taken keeps the index when the same transaction takes the
    row that has the key out of the index. -/
theorem UniqueOn.replace {p : α → Bool} {key : α → κ} {t : List α} (h : UniqueOn p key t)
    {row : α} {q : α → Bool} {f : α → α} (hout : ∀ r, q r = true → p (f r) = false)
    (hold : ∀ r ∈ t, p r = true → key r = key row → q r = true) :
    UniqueOn p key (Relational.update q f (t ++ [row])) := by
  have hin : ∀ r ∈ Relational.update q f (t ++ [row]), p r = true →
      q r = false ∧ (r ∈ t ∨ r = row) := by
    intro r hr hp
    rcases mem_update.mp hr with ⟨r₀, -, hq, rfl⟩ | ⟨hr, hq⟩
    · rw [hout r₀ hq] at hp
      simp at hp
    · exact ⟨hq, (List.mem_append.mp hr).imp_right List.mem_singleton.mp⟩
  intro r hr r' hr' hp hp' hk
  obtain ⟨hq, hmem⟩ := hin r hr hp
  obtain ⟨hq', hmem'⟩ := hin r' hr' hp'
  rcases hmem with hmem | hrow
  · rcases hmem' with hmem' | hrow'
    · exact h r hmem r' hmem' hp hp' hk
    · rw [hold r hmem hp (hk.trans (congrArg key hrow'))] at hq
      simp at hq
  · rcases hmem' with hmem' | hrow'
    · rw [hold r' hmem' hp' (hk.symm.trans (congrArg key hrow))] at hq'
      simp at hq'
    · rw [hrow, hrow']

/-- An update that moves no row into the index and keeps the keys keeps it. -/
theorem UniqueOn.update_of_imp {p : α → Bool} {key : α → κ} {t : List α} (h : UniqueOn p key t)
    {q : α → Bool} {f : α → α} (hp : ∀ r, p (f r) = true → p r = true)
    (hkey : ∀ r, key (f r) = key r) : UniqueOn p key (Relational.update q f t) := by
  have hbefore : ∀ r, p (if q r then f r else r) = true → p r = true := by
    intro r hr
    split at hr
    · exact hp r hr
    · exact hr
  have hsame : ∀ r, key (if q r then f r else r) = key r := by
    intro r
    split
    · exact hkey r
    · rfl
  intro r hr r' hr' hpr hpr' hk
  obtain ⟨r₀, hr₀, rfl⟩ := mem_update_iff_exists.mp hr
  obtain ⟨r₁, hr₁, rfl⟩ := mem_update_iff_exists.mp hr'
  rw [hsame, hsame] at hk
  rw [h r₀ hr₀ r₁ hr₁ (hbefore r₀ hpr) (hbefore r₁ hpr') hk]

end SeatReservation.Relational
