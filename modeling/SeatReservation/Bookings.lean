import Mathlib.Logic.Function.Basic
import Mathlib.Data.List.Induction

/-!
# Bookings and their change log

Resources are held and then released or sold, each hold under a token of its own
and on terms of its own.  Every change is entered in one log for all resources,
and `replay` is what the log says about each of them.  A log is `Legal` when a
resource is only released or sold by the hold it is under; a hold may come at
any time, and then takes the resource over.  What a reader of a legal log may
rely on is that each sale and each release comes straight after its own hold,
as far as the resource is concerned.
-/

namespace SeatReservation.Bookings

variable {ι κ υ δ : Type*}

/-- What can be said about one resource. -/
inductive Booking (κ υ δ : Type*) where
  | free
  | held (hold : κ) (user : υ) (terms : δ)
  | sold (hold : κ) (user : υ)
deriving DecidableEq, Repr

inductive Change (ι κ υ δ : Type*) where
  | hold (resource : ι) (token : κ) (user : υ) (terms : δ)
  | release (resource : ι) (token : κ)
  | sell (resource : ι) (token : κ) (user : υ)
deriving DecidableEq, Repr

def Change.resource : Change ι κ υ δ → ι
  | .hold i _ _ _ => i
  | .release i _ => i
  | .sell i _ _ => i

/-- What a change makes of its resource. -/
def Change.booking : Change ι κ υ δ → Booking κ υ δ
  | .hold _ k u d => .held k u d
  | .release _ _ => .free
  | .sell _ k u => .sold k u

@[simp] theorem Change.resource_hold (i : ι) (k : κ) (u : υ) (d : δ) :
    (Change.hold i k u d).resource = i := rfl
@[simp] theorem Change.resource_release (i : ι) (k : κ) :
    (Change.release i k : Change ι κ υ δ).resource = i := rfl
@[simp] theorem Change.resource_sell (i : ι) (k : κ) (u : υ) :
    (Change.sell i k u : Change ι κ υ δ).resource = i := rfl

variable [DecidableEq ι]

def record (view : ι → Booking κ υ δ) (c : Change ι κ υ δ) : ι → Booking κ υ δ :=
  Function.update view c.resource c.booking

/-- What the log says about each resource. -/
def replay (log : List (Change ι κ υ δ)) : ι → Booking κ υ δ := log.foldl record fun _ => .free

theorem replay_concat (log : List (Change ι κ υ δ)) (c : Change ι κ υ δ) (i : ι) :
    replay (log ++ [c]) i = if i = c.resource then c.booking else replay log i := by
  simp only [replay, List.foldl_append, List.foldl_cons, List.foldl_nil, record,
    Function.update_apply]

theorem replay_concat_self (log : List (Change ι κ υ δ)) (c : Change ι κ υ δ) :
    replay (log ++ [c]) c.resource = c.booking := by
  rw [replay_concat, if_pos rfl]

theorem replay_concat_of_ne (log : List (Change ι κ υ δ)) {c : Change ι κ υ δ} {i : ι}
    (h : i ≠ c.resource) : replay (log ++ [c]) i = replay log i := by
  rw [replay_concat, if_neg h]

/-- Changes of other resources do not matter. -/
theorem replay_append_of_ne {log cs : List (Change ι κ υ δ)} {i : ι}
    (h : ∀ c ∈ cs, c.resource ≠ i) : replay (log ++ cs) i = replay log i := by
  induction cs using List.reverseRecOn with
  | nil => rw [List.append_nil]
  | append_singleton cs c ih =>
    rw [← List.append_assoc, replay_concat_of_ne _ (h c (by simp)).symm]
    exact ih fun x hx => h x (List.mem_append_left _ hx)

/-- **A booking is the work of the last change of its resource.** -/
theorem exists_last_change {log : List (Change ι κ υ δ)} {i : ι}
    (h : replay log i ≠ .free) :
    ∃ before c after, log = before ++ c :: after ∧ c.resource = i ∧ c.booking = replay log i ∧
      ∀ x ∈ after, x.resource ≠ i := by
  induction log using List.reverseRecOn with
  | nil => exact absurd rfl h
  | append_singleton log c ih =>
    rw [replay_concat] at h ⊢
    by_cases hi : i = c.resource
    · rw [if_pos hi]
      exact ⟨log, c, [], rfl, hi.symm, rfl, by simp⟩
    · rw [if_neg hi] at h ⊢
      obtain ⟨before, c₀, after, rfl, hresource, hbooking, hafter⟩ := ih h
      refine ⟨before, c₀, after ++ [c], by simp, hresource, hbooking, ?_⟩
      intro x hx
      rcases List.mem_append.mp hx with hx | hx
      · exact hafter x hx
      · rw [List.mem_singleton.mp hx]
        exact fun heq => hi heq.symm

/-- A resource is under the hold of the last change there was of it. -/
theorem exists_hold {log : List (Change ι κ υ δ)} {i : ι} {k : κ} {u : υ} {d : δ}
    (h : replay log i = .held k u d) :
    ∃ before after, log = before ++ .hold i k u d :: after ∧ ∀ x ∈ after, x.resource ≠ i := by
  have hbooked : replay log i ≠ .free := by simp [h]
  obtain ⟨before, c, after, hlog, hresource, hbooking, hafter⟩ := exists_last_change hbooked
  rw [h] at hbooking
  cases c with
  | hold j k' u' d' =>
    cases hresource
    cases hbooking
    exact ⟨before, after, hlog, hafter⟩
  | release j k' => cases hbooking
  | sell j k' u' => cases hbooking

/-! ### Legal logs -/

/-- A resource that is booked so may undergo the change. -/
def Permits (b : Booking κ υ δ) : Change ι κ υ δ → Prop
  | .hold _ _ _ _ => True
  | .release _ k => ∃ u d, b = .held k u d
  | .sell _ k u => ∃ d, b = .held k u d

inductive Legal : List (Change ι κ υ δ) → Prop where
  | nil : Legal []
  | concat {log : List (Change ι κ υ δ)} {c : Change ι κ υ δ} (h : Legal log)
      (hpermits : Permits (replay log c.resource) c) : Legal (log ++ [c])

theorem Legal.permits {log before after : List (Change ι κ υ δ)} {c : Change ι κ υ δ}
    (h : Legal log) (hlog : log = before ++ c :: after) :
    Permits (replay before c.resource) c := by
  induction h generalizing after with
  | nil => simp at hlog
  | concat h hpermits ih =>
    rcases List.eq_nil_or_concat after with rfl | ⟨after, x, rfl⟩
    · obtain ⟨rfl, heq⟩ := List.append_inj' hlog rfl
      obtain rfl := List.cons.inj heq |>.1
      exact hpermits
    · rw [List.concat_eq_append, ← List.cons_append, ← List.append_assoc] at hlog
      exact ih (List.append_inj' hlog rfl).1

/-- **A sale follows its hold**, and nothing happens to the resource in between. -/
theorem Legal.sell_follows_hold {before after : List (Change ι κ υ δ)} {i : ι} {k : κ} {u : υ}
    (h : Legal (before ++ .sell i k u :: after)) :
    ∃ d earlier between, before = earlier ++ .hold i k u d :: between ∧
      ∀ x ∈ between, x.resource ≠ i := by
  obtain ⟨d, hheld⟩ := h.permits rfl
  obtain ⟨earlier, between, hbefore, hbetween⟩ := exists_hold hheld
  exact ⟨d, earlier, between, hbefore, hbetween⟩

/-- **A release follows its hold**, and nothing happens to the resource in between. -/
theorem Legal.release_follows_hold {before after : List (Change ι κ υ δ)} {i : ι} {k : κ}
    (h : Legal (before ++ .release i k :: after)) :
    ∃ u d earlier between, before = earlier ++ .hold i k u d :: between ∧
      ∀ x ∈ between, x.resource ≠ i := by
  obtain ⟨u, d, hheld⟩ := h.permits rfl
  obtain ⟨earlier, between, hbefore, hbetween⟩ := exists_hold hheld
  exact ⟨u, d, earlier, between, hbefore, hbetween⟩

/-! ### Many releases at once -/

/-- Holds of distinct resources are released together. -/
theorem Legal.releases {log : List (Change ι κ υ δ)} (h : Legal log) {holds : List (ι × κ)}
    (hnodup : (holds.map Prod.fst).Nodup)
    (hheld : ∀ p ∈ holds, ∃ u d, replay log p.1 = .held p.2 u d) :
    Legal (log ++ holds.map fun p => .release p.1 p.2) := by
  induction holds using List.reverseRecOn with
  | nil => simpa using h
  | append_singleton holds p ih =>
    rw [List.map_append, List.nodup_append] at hnodup
    rw [List.map_append, ← List.append_assoc]
    refine (ih hnodup.1 fun q hq => hheld q (List.mem_append_left _ hq)).concat ?_
    -- The earlier releases are of other resources.
    have hother : replay (log ++ holds.map fun q => .release q.1 q.2) p.1 = replay log p.1 := by
      apply replay_append_of_ne
      intro c hc
      obtain ⟨q, hq, rfl⟩ := List.mem_map.mp hc
      exact hnodup.2.2 q.1 (List.mem_map_of_mem hq) p.1 (by simp)
    obtain ⟨u, d, hbooked⟩ := hheld p (by simp)
    exact ⟨u, d, hother.trans hbooked⟩

theorem replay_releases (log : List (Change ι κ υ δ)) (holds : List (ι × κ)) (i : ι) :
    replay (log ++ holds.map fun p => .release p.1 p.2) i =
      if i ∈ holds.map Prod.fst then .free else replay log i := by
  induction holds using List.reverseRecOn with
  | nil => simp
  | append_singleton holds p ih =>
    rw [List.map_append, ← List.append_assoc, List.map_singleton, replay_concat, ih]
    by_cases hi : i = (Change.release p.1 p.2 : Change ι κ υ δ).resource
    · rw [if_pos hi, if_pos (by simp [hi])]
      rfl
    · have hne : i ≠ p.1 := hi
      have hmem : i ∈ (holds ++ [p]).map Prod.fst ↔ i ∈ holds.map Prod.fst := by
        rw [List.map_append, List.mem_append, List.map_singleton, List.mem_singleton]
        exact or_iff_left hne
      rw [if_neg hi]
      simp only [hmem]

end SeatReservation.Bookings
