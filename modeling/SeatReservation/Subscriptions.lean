import Mathlib.Data.List.Nodup
import Mathlib.Data.List.Range

/-!
# Subscribers of an emitter

An emitter calls its listeners one after the other, in the order they were added.
Each listener belongs to a subscription, and hands what it is called with to its
subscriber until the subscription is torn down, which also removes the listener.

`Hub.Sound` is that the listeners are those of the active subscriptions, so that
`emit` reaches each of them once and nobody else (`Hub.Sound.emit`).
-/

namespace SeatReservation.Subscriptions

variable {μ : Type*}

/-- A subscriber and what it has been given so far. -/
structure Subscription (μ : Type*) where
  active : Bool
  sent : List μ
deriving DecidableEq, Repr

/-- A subscriber that has unsubscribed takes nothing. -/
def Subscription.next (m : μ) (s : Subscription μ) : Subscription μ :=
  if s.active then { s with sent := s.sent ++ [m] } else s

def Subscription.teardown (s : Subscription μ) : Subscription μ := { s with active := false }

/-- Subscriptions by number, and the listeners of the emitter, each the number of its
    subscription. -/
structure Hub (μ : Type*) where
  subscriptions : List (Subscription μ)
  listeners : List Nat
deriving DecidableEq, Repr

/-- A new subscription, whose subscriber is given `first` before it listens. -/
def Hub.subscribe (first : List μ) (h : Hub μ) : Hub μ :=
  ⟨h.subscriptions ++ [⟨true, first⟩], h.listeners ++ [h.subscriptions.length]⟩

def Hub.next (k : Nat) (m : μ) (h : Hub μ) : Hub μ :=
  { h with subscriptions := h.subscriptions.modify k (Subscription.next m) }

def Hub.emit (m : μ) (h : Hub μ) : Hub μ := h.listeners.foldl (fun h k => h.next k m) h

def Hub.unsubscribe (k : Nat) (h : Hub μ) : Hub μ :=
  ⟨h.subscriptions.modify k Subscription.teardown, h.listeners.erase k⟩

/-- The numbers of the active subscriptions. -/
def Hub.active (h : Hub μ) : List Nat :=
  (List.range h.subscriptions.length).filter fun k => h.subscriptions[k]?.any (·.active)

def Hub.Sound (h : Hub μ) : Prop := h.listeners = h.active

@[simp] theorem Subscription.next_active (m : μ) (s : Subscription μ) :
    (s.next m).active = s.active := by
  unfold Subscription.next
  split
  · rfl
  · rfl

theorem Subscription.next_of_active {m : μ} {s : Subscription μ} (h : s.active = true) :
    s.next m = { s with sent := s.sent ++ [m] } := if_pos h

theorem Subscription.next_of_inactive {m : μ} {s : Subscription μ} (h : s.active = false) :
    s.next m = s := if_neg (by simp [h])

/-! ### The active subscriptions -/

theorem Hub.mem_active {h : Hub μ} {k : Nat} :
    k ∈ h.active ↔ ∃ s, h.subscriptions[k]? = some s ∧ s.active = true := by
  unfold Hub.active
  rw [List.mem_filter, List.mem_range, Option.any_eq_true]
  constructor
  · rintro ⟨-, s, hs, hactive⟩
    exact ⟨s, hs, hactive⟩
  · rintro ⟨s, hs, hactive⟩
    exact ⟨(List.getElem?_eq_some_iff.mp hs).1, s, hs, hactive⟩

theorem Hub.active_nodup (h : Hub μ) : h.active.Nodup := List.nodup_range.filter _

theorem Hub.active_next (k : Nat) (m : μ) (h : Hub μ) : (h.next k m).active = h.active := by
  unfold Hub.active Hub.next
  dsimp only
  rw [List.length_modify]
  apply List.filter_congr
  intro i _
  rw [List.getElem?_modify]
  cases h.subscriptions[i]? with
  | none => rfl
  | some s =>
    by_cases hk : k = i
    · simp [hk]
    · simp [hk]

theorem Hub.active_subscribe (first : List μ) (h : Hub μ) :
    (h.subscribe first).active = h.active ++ [h.subscriptions.length] := by
  unfold Hub.active Hub.subscribe
  dsimp only
  rw [List.length_append, List.length_singleton, List.range_succ, List.filter_append]
  congr 1
  · apply List.filter_congr
    intro i hi
    rw [List.getElem?_append_left (List.mem_range.mp hi)]
  · simp

theorem Hub.active_unsubscribe (k : Nat) (h : Hub μ) :
    (h.unsubscribe k).active = h.active.erase k := by
  rw [h.active_nodup.erase_eq_filter]
  unfold Hub.active Hub.unsubscribe
  dsimp only
  rw [List.length_modify, List.filter_filter]
  apply List.filter_congr
  intro i _
  rw [List.getElem?_modify]
  by_cases hk : k = i
  · cases h.subscriptions[i]? with
    | none => simp [hk]
    | some s => simp [hk, Subscription.teardown]
  · have hne : (i != k) = true := by simpa using Ne.symm hk
    simp [hk, hne]

/-! ### Soundness is kept -/

theorem Hub.Sound.next {h : Hub μ} (hs : h.Sound) (k : Nat) (m : μ) : (h.next k m).Sound := by
  unfold Hub.Sound
  rw [Hub.active_next]
  exact hs

theorem Hub.Sound.subscribe {h : Hub μ} (hs : h.Sound) (first : List μ) :
    (h.subscribe first).Sound := by
  unfold Hub.Sound
  rw [Hub.active_subscribe, ← hs]
  rfl

theorem Hub.Sound.unsubscribe {h : Hub μ} (hs : h.Sound) (k : Nat) : (h.unsubscribe k).Sound := by
  unfold Hub.Sound
  rw [Hub.active_unsubscribe, ← hs]
  rfl

/-- A fold over distinct listeners calls each of them once. -/
theorem foldl_next_getElem? {ks : List Nat} (hks : ks.Nodup) (m : μ) (h : Hub μ) (i : Nat) :
    (ks.foldl (fun h k => h.next k m) h).subscriptions[i]? =
      h.subscriptions[i]?.map fun s => if i ∈ ks then s.next m else s := by
  induction ks generalizing h with
  | nil => simp
  | cons k ks ih =>
    obtain ⟨hk, hks⟩ := List.nodup_cons.mp hks
    rw [List.foldl_cons, ih hks, Hub.next, List.getElem?_modify, Option.map_eq_map, Option.map_map]
    congr 1
    funext s
    by_cases hi : k = i
    · subst hi
      simp [hk]
    · simp [hi, Ne.symm hi]

theorem foldl_next_active (ks : List Nat) (m : μ) (h : Hub μ) :
    (ks.foldl (fun h k => h.next k m) h).active = h.active ∧
      (ks.foldl (fun h k => h.next k m) h).listeners = h.listeners := by
  induction ks generalizing h with
  | nil => exact ⟨rfl, rfl⟩
  | cons k ks ih =>
    rw [List.foldl_cons, (ih _).1, (ih _).2, Hub.active_next]
    exact ⟨rfl, rfl⟩

theorem Hub.Sound.emit {h : Hub μ} (hs : h.Sound) (m : μ) : (h.emit m).Sound := by
  obtain ⟨hactive, hlisteners⟩ := foldl_next_active h.listeners m h
  unfold Hub.Sound Hub.emit
  rw [hactive, hlisteners]
  exact hs

/-- **An emission reaches every subscription once.** -/
theorem Hub.Sound.emit_getElem? {h : Hub μ} (hs : h.Sound) (m : μ) (k : Nat) :
    (h.emit m).subscriptions[k]? = h.subscriptions[k]?.map (Subscription.next m) := by
  have hnodup : h.listeners.Nodup := by
    rw [hs]
    exact h.active_nodup
  unfold Hub.emit
  rw [foldl_next_getElem? hnodup]
  cases hget : h.subscriptions[k]? with
  | none => rfl
  | some s =>
    rw [Option.map_some, Option.map_some]
    split
    · rfl
    · rename_i hnot
      have hinactive : s.active = false := by
        rw [Bool.eq_false_iff]
        intro hactive
        apply hnot
        rw [hs]
        exact Hub.mem_active.mpr ⟨s, hget, hactive⟩
      rw [Subscription.next_of_inactive hinactive]

end SeatReservation.Subscriptions
