import Mathlib.Data.Int.Init

/-!
# Sorted sets that expire

The part of Redis a sliding-window counter needs: keys that hold a sorted set
(members with scores) and may have a time at which they expire, and the commands
on them.  Every command takes the time it is executed at; a key whose time has
passed counts as absent, and a key whose set becomes empty is removed.
-/

namespace SeatReservation.ExpiringSets

structure Entry (μ : Type) where
  members : List (μ × Int)
  expiresAt : Option Int

/-- The database. -/
def Store (κ μ : Type) := κ → Option (Entry μ)

variable {κ μ : Type}

def Store.empty : Store κ μ := fun _ => none

/-- The entry of a key, unless it has expired. -/
def Store.lookup (s : Store κ μ) (now : Int) (key : κ) : Option (Entry μ) :=
  (s key).filter fun e => !e.expiresAt.any fun t => decide (t < now)

/-- The sorted set of a key; an absent key is an empty set. -/
def Store.members (s : Store κ μ) (now : Int) (key : κ) : List (μ × Int) :=
  ((s.lookup now key).map (·.members)).getD []

@[simp] theorem Store.members_empty (now : Int) (key : κ) :
    (Store.empty : Store κ μ).members now key = [] := rfl

/-- An entry that is read has not expired. -/
theorem Store.fresh_of_lookup {s : Store κ μ} {now : Int} {key : κ} {e : Entry μ}
    (h : s.lookup now key = some e) : (e.expiresAt.any fun t => decide (t < now)) = false := by
  simpa using (Option.filter_eq_some_iff.mp h).2

variable [DecidableEq κ]

def Store.put (s : Store κ μ) (key : κ) (e : Option (Entry μ)) : Store κ μ :=
  fun k => if k = key then e else s k

/-- The entry with these members, if there are any. -/
def Entry.ofMembers (members : List (μ × Int)) (expiresAt : Option Int) : Option (Entry μ) :=
  if members.isEmpty then none else some ⟨members, expiresAt⟩

/-- `ZREMRANGEBYSCORE key min max`. -/
def Store.zremrangebyscore (s : Store κ μ) (now : Int) (key : κ) (min max : Int) : Store κ μ :=
  s.put key <| (s.lookup now key).bind fun e =>
    Entry.ofMembers (e.members.filter fun m => !decide (min ≤ m.2 ∧ m.2 ≤ max)) e.expiresAt

/-- `ZADD key score member`; the score of a member that is there is replaced. -/
def Store.zadd [DecidableEq μ] (s : Store κ μ) (now : Int) (key : κ) (score : Int) (member : μ) : Store κ μ :=
  s.put key <| some
    ⟨(s.members now key).filter (fun m => m.1 != member) ++ [(member, score)],
      (s.lookup now key).bind (·.expiresAt)⟩

/-- `ZCOUNT key min max`. -/
def Store.zcount (s : Store κ μ) (now : Int) (key : κ) (min max : Int) : Nat :=
  (s.members now key).countP fun m => decide (min ≤ m.2 ∧ m.2 ≤ max)

/-- `PEXPIRE key ms`; a time that is not in the future deletes the key. -/
def Store.pexpire (s : Store κ μ) (now : Int) (key : κ) (ms : Int) : Store κ μ :=
  s.put key <| (s.lookup now key).bind fun e =>
    if 0 < ms then some { e with expiresAt := some (now + ms) } else none

/-! ### Reading after writing -/

/-- A write to another key is not seen. -/
theorem Store.members_put_other (s : Store κ μ) {key k : κ} (e : Option (Entry μ)) (now : Int)
    (h : k ≠ key) : (s.put key e).members now k = s.members now k := by
  simp [Store.members, Store.lookup, Store.put, h]

@[simp] theorem Store.members_put_none (s : Store κ μ) (key : κ) (now : Int) :
    (s.put key none).members now key = [] := by
  simp [Store.members, Store.lookup, Store.put]

theorem Store.members_put_some (s : Store κ μ) (key : κ) (e : Entry μ) (now : Int) :
    (s.put key (some e)).members now key =
      if e.expiresAt.any fun t => decide (t < now) then [] else e.members := by
  simp only [Store.members, Store.lookup, Store.put, if_true, Option.filter_some]
  by_cases hexpired : (e.expiresAt.any fun t => decide (t < now)) = true
  · simp [hexpired]
  · simp [hexpired]

theorem Store.members_zremrangebyscore (s : Store κ μ) (now : Int) (key : κ) (min max : Int) :
    (s.zremrangebyscore now key min max).members now key =
      (s.members now key).filter fun m => !decide (min ≤ m.2 ∧ m.2 ≤ max) := by
  unfold Store.zremrangebyscore
  cases hlookup : s.lookup now key with
  | none =>
    rw [Option.bind_none, Store.members_put_none]
    simp [Store.members, hlookup]
  | some e =>
    have hmembers : s.members now key = e.members := by simp [Store.members, hlookup]
    rw [Option.bind_some, Entry.ofMembers, hmembers]
    by_cases hempty : (e.members.filter fun m => !decide (min ≤ m.2 ∧ m.2 ≤ max)).isEmpty = true
    · rw [if_pos hempty, Store.members_put_none]
      exact (List.isEmpty_iff.mp hempty).symm
    · rw [if_neg hempty, Store.members_put_some, if_neg (by simp [Store.fresh_of_lookup hlookup])]

theorem Store.members_zadd [DecidableEq μ] (s : Store κ μ) (now : Int) (key : κ) (score : Int)
    (member : μ) : (s.zadd now key score member).members now key =
      (s.members now key).filter (fun m => m.1 != member) ++ [(member, score)] := by
  unfold Store.zadd
  rw [Store.members_put_some]
  cases hlookup : s.lookup now key with
  | none => simp
  | some e => rw [Option.bind_some, if_neg (by simp [Store.fresh_of_lookup hlookup])]

/-- After `PEXPIRE` the set is there until its time has passed. -/
theorem Store.members_pexpire (s : Store κ μ) {now later : Int} (key : κ) {ms : Int}
    (hms : 0 < ms) : (s.pexpire now key ms).members later key =
      if now + ms < later then [] else s.members now key := by
  unfold Store.pexpire
  cases hlookup : s.lookup now key with
  | none =>
    rw [Option.bind_none, Store.members_put_none]
    simp [Store.members, hlookup]
  | some e =>
    rw [Option.bind_some, if_pos hms, Store.members_put_some]
    simp [Store.members, hlookup]

end SeatReservation.ExpiringSets
