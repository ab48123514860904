import SeatReservation.ExpiringSets
import SeatReservation.JsStrings
import SeatReservation.TransitionSystem
import Mathlib.Data.List.Induction

/-!
# The rate limiter is an exact sliding window

The three services have the same guard.  A request adds itself to the sorted set
of its key and is admitted when the set then counts no more than `max` requests;
older requests are trimmed and the key expires, so the guard decides on a part
of the history.  `Tracks` says that the part inside the window is always
complete, which makes the decision the one the whole history gives
(`sliding_window_exact`).
-/

namespace SeatReservation

open TransitionSystem ExpiringSets

/-- The environment schemas only accept positive values for both numbers. -/
structure RateLimitConfig where
  name : String
  windowMs : Nat
  max : Nat
  windowMs_pos : 0 < windowMs
  max_pos : 0 < max

/-- What the guard reads of a request, with the clock and the random number it draws. -/
structure GuardedRequest where
  xForwardedFor : Option String
  ip : Option String
  now : Nat
  random : String
deriving DecidableEq, Repr

/-- `x-forwarded-for?.split(',')[0]?.trim() ?? req.ip ?? 'unknown'`. -/
def GuardedRequest.clientIp (r : GuardedRequest) : String :=
  match r.xForwardedFor with
  | some header => JsStrings.trim ((JsStrings.split ',' header).headD "")
  | none => r.ip.getD "unknown"

def GuardedRequest.key (r : GuardedRequest) (cfg : RateLimitConfig) : String :=
  "rl:" ++ cfg.name ++ ":" ++ r.clientIp

/-- The member a request adds to the sorted set. -/
def GuardedRequest.member (r : GuardedRequest) : String := toString r.now ++ ":" ++ r.random

/-- The headers the guard sets and, for a request it turns away, the body of the 429. -/
structure GuardAnswer where
  headers : List (String × String)
  rejection : Option (String × Nat)
deriving DecidableEq, Repr

def GuardAnswer.admitted (a : GuardAnswer) : Bool := a.rejection.isNone

def canActivate (config : Option RateLimitConfig) (r : GuardedRequest)
    (redis : Store String String) : GuardAnswer × Store String String :=
  match config with
  | none => (⟨[], none⟩, redis)
  | some cfg =>
      let key := r.key cfg
      let now : Int := r.now
      let windowStart : Int := now - cfg.windowMs
      let trimmed := redis.zremrangebyscore now key 0 windowStart
      let added := trimmed.zadd now key now r.member
      let count := added.zcount now key windowStart now
      let kept := added.pexpire now key cfg.windowMs
      let headers :=
        [("X-RateLimit-Limit", toString cfg.max),
          ("X-RateLimit-Remaining", toString (cfg.max - count))]
      if count > cfg.max then
        let retryAfter := (cfg.windowMs + 999) / 1000
        (⟨headers ++ [("Retry-After", toString retryAfter)], some ("rate_limited", retryAfter)⟩,
          kept)
      else (⟨headers, none⟩, kept)

/-! ### Runs -/

/-- Redis after the requests. -/
def afterRequests (cfg : RateLimitConfig) (rs : List GuardedRequest) : Store String String :=
  exec (fun redis r => (canActivate (some cfg) r redis).2) Store.empty rs

/-- The request is admitted after the requests `past`. -/
def admitsAfter (cfg : RateLimitConfig) (past : List GuardedRequest) (r : GuardedRequest) : Bool :=
  (canActivate (some cfg) r (afterRequests cfg past)).1.admitted

/-- The requests of a run that are admitted. -/
def admittedRequests (cfg : RateLimitConfig) (rs : List GuardedRequest) : List GuardedRequest :=
  outputs (fun redis r => (canActivate (some cfg) r redis).2)
    (fun redis r => if (canActivate (some cfg) r redis).1.admitted then [r] else [])
    Store.empty rs

/-- The request has the key and is later than `start`. -/
def GuardedRequest.isSince (cfg : RateLimitConfig) (key : String) (start : Int)
    (q : GuardedRequest) : Bool :=
  q.key cfg == key && decide (start < q.now)

/-- The request has the key and a time in `(start, stop]`. -/
def GuardedRequest.isWithin (cfg : RateLimitConfig) (key : String) (start stop : Int)
    (q : GuardedRequest) : Bool :=
  q.isSince cfg key start && decide ((q.now : Int) ≤ stop)

/-! ### What the set keeps of the history -/

def isYoungerThan (start : Int) (m : String × Int) : Bool := decide (start < m.2)

/-- The members the requests of the key have added. -/
def entriesOf (cfg : RateLimitConfig) (key : String) (history : List GuardedRequest) :
    List (String × Int) :=
  (history.filter fun q => q.key cfg == key).map fun q => (q.member, (q.now : Int))

/-- Whenever it is read, the set of a key has exactly the requests of the last window. -/
structure Tracks (cfg : RateLimitConfig) (history : List GuardedRequest)
    (redis : Store String String) : Prop where
  nonneg : ∀ later key, ∀ m ∈ redis.members later key, 0 ≤ m.2
  window : ∀ later key, (∀ q ∈ history, (q.now : Int) ≤ later) →
    (redis.members later key).filter (isYoungerThan (later - cfg.windowMs)) =
      (entriesOf cfg key history).filter (isYoungerThan (later - cfg.windowMs))

theorem tracks_empty (cfg : RateLimitConfig) : Tracks cfg [] Store.empty where
  nonneg := by simp
  window := by simp [entriesOf]

/-- The set of the request's key after the `ZADD`. -/
def GuardedRequest.setAfter (r : GuardedRequest) (cfg : RateLimitConfig)
    (redis : Store String String) : List (String × Int) :=
  ((redis.members r.now (r.key cfg)).filter fun m =>
      !decide (0 ≤ m.2 ∧ m.2 ≤ (r.now : Int) - cfg.windowMs)).filter (fun m => m.1 != r.member) ++
    [(r.member, (r.now : Int))]

theorem canActivate_members (cfg : RateLimitConfig) (r : GuardedRequest)
    (redis : Store String String) (later : Int) :
    (canActivate (some cfg) r redis).2.members later (r.key cfg) =
      if (r.now : Int) + cfg.windowMs < later then [] else r.setAfter cfg redis := by
  have hwindow : (0 : Int) < cfg.windowMs := Int.natCast_pos.mpr cfg.windowMs_pos
  unfold canActivate
  simp only
  split
  · rw [Store.members_pexpire _ _ hwindow, Store.members_zadd, Store.members_zremrangebyscore]
    rfl
  · rw [Store.members_pexpire _ _ hwindow, Store.members_zadd, Store.members_zremrangebyscore]
    rfl

/-- A request leaves the other keys alone. -/
theorem canActivate_members_other (cfg : RateLimitConfig) (r : GuardedRequest)
    (redis : Store String String) (later : Int) {key : String} (h : key ≠ r.key cfg) :
    (canActivate (some cfg) r redis).2.members later key = redis.members later key := by
  unfold canActivate
  simp only
  split <;>
    simp only [Store.pexpire, Store.zadd, Store.zremrangebyscore, Store.members_put_other _ _ _ h]

theorem canActivate_admitted (cfg : RateLimitConfig) (r : GuardedRequest)
    (redis : Store String String) :
    (canActivate (some cfg) r redis).1.admitted = true ↔
      ((r.setAfter cfg redis).countP fun m =>
        decide ((r.now : Int) - cfg.windowMs ≤ m.2 ∧ m.2 ≤ (r.now : Int))) ≤ cfg.max := by
  have hcount : (r.setAfter cfg redis).countP (fun m =>
      decide ((r.now : Int) - cfg.windowMs ≤ m.2 ∧ m.2 ≤ (r.now : Int))) =
      ((redis.zremrangebyscore r.now (r.key cfg) 0 (r.now - cfg.windowMs)).zadd r.now (r.key cfg)
        r.now r.member).zcount r.now (r.key cfg) (r.now - cfg.windowMs) r.now := by
    rw [Store.zcount, Store.members_zadd, Store.members_zremrangebyscore]
    rfl
  rw [hcount]
  unfold canActivate
  simp only
  split
  · rename_i hover
    simpa [GuardAnswer.admitted] using hover
  · rename_i hunder
    simpa [GuardAnswer.admitted] using hunder

theorem entriesOf_append_same (cfg : RateLimitConfig) (history : List GuardedRequest)
    (r : GuardedRequest) : entriesOf cfg (r.key cfg) (history ++ [r]) =
      entriesOf cfg (r.key cfg) history ++ [(r.member, (r.now : Int))] := by
  simp [entriesOf]

theorem entriesOf_append_other {cfg : RateLimitConfig} {history : List GuardedRequest}
    {r : GuardedRequest} {key : String} (h : key ≠ r.key cfg) :
    entriesOf cfg key (history ++ [r]) = entriesOf cfg key history := by
  simp [entriesOf, Ne.symm h]

/-- Counting the members of a key by their times is counting its requests. -/
theorem countP_entriesOf (cfg : RateLimitConfig) (key : String) (history : List GuardedRequest)
    (p : Int → Bool) : (entriesOf cfg key history).countP (fun m => p m.2) =
      history.countP fun q => q.key cfg == key && p q.now := by
  rw [entriesOf, List.countP_map, List.countP_filter]
  simp only [Function.comp_def, Bool.and_comm]

/-- The request comes after `history`, with a member of its own. -/
structure GuardedRequest.Follows (r : GuardedRequest) (cfg : RateLimitConfig)
    (history : List GuardedRequest) : Prop where
  ordered : ∀ q ∈ history, q.now ≤ r.now
  distinct : ∀ q ∈ history, q.key cfg = r.key cfg → q.member ≠ r.member

theorem GuardedRequest.Follows.le {cfg : RateLimitConfig} {history : List GuardedRequest}
    {q r : GuardedRequest} (hr : r.Follows cfg history) (hq : q ∈ history ++ [r]) :
    q.now ≤ r.now := by
  rcases List.mem_append.mp hq with hq | hq
  · exact hr.ordered q hq
  · obtain rfl := List.mem_singleton.mp hq
    exact Nat.le_refl _

/-- After the `ZADD` the set has exactly the requests of the window that ends now. -/
theorem Tracks.setAfter_eq {cfg : RateLimitConfig} {history : List GuardedRequest}
    {redis : Store String String} (h : Tracks cfg history redis) {r : GuardedRequest}
    (hr : r.Follows cfg history) : r.setAfter cfg redis =
      (entriesOf cfg (r.key cfg) (history ++ [r])).filter
        (isYoungerThan ((r.now : Int) - cfg.windowMs)) := by
  have hwindow : (0 : Int) < cfg.windowMs := Int.natCast_pos.mpr cfg.windowMs_pos
  have htrim : (redis.members r.now (r.key cfg)).filter (fun m =>
      !decide (0 ≤ m.2 ∧ m.2 ≤ (r.now : Int) - cfg.windowMs)) =
      (entriesOf cfg (r.key cfg) history).filter
        (isYoungerThan ((r.now : Int) - cfg.windowMs)) := by
    rw [← h.window r.now (r.key cfg) fun q hq => Int.ofNat_le.mpr (hr.ordered q hq)]
    apply List.filter_congr
    intro m hm
    have hnonneg := h.nonneg r.now (r.key cfg) m hm
    simp only [isYoungerThan, hnonneg, true_and, ← decide_not]
    exact decide_eq_decide.mpr Int.not_le
  have hother : ∀ m ∈ (entriesOf cfg (r.key cfg) history).filter
      (isYoungerThan ((r.now : Int) - cfg.windowMs)), (m.1 != r.member) = true := by
    intro m hm
    obtain ⟨q, hq, rfl⟩ := List.mem_map.mp (List.mem_filter.mp hm).1
    obtain ⟨hq, hkey⟩ := List.mem_filter.mp hq
    simpa using hr.distinct q hq (by simpa using hkey)
  rw [GuardedRequest.setAfter, htrim, List.filter_eq_self.mpr hother, entriesOf_append_same,
    List.filter_append]
  congr 1
  have hyoung : isYoungerThan ((r.now : Int) - cfg.windowMs) (r.member, (r.now : Int)) = true := by
    simp only [isYoungerThan, decide_eq_true_eq]
    omega
  simp [hyoung]

theorem Tracks.step {cfg : RateLimitConfig} {history : List GuardedRequest}
    {redis : Store String String} (h : Tracks cfg history redis) {r : GuardedRequest}
    (hr : r.Follows cfg history) :
    Tracks cfg (history ++ [r]) (canActivate (some cfg) r redis).2 where
  nonneg := by
    intro later key m hm
    by_cases hkey : key = r.key cfg
    · subst hkey
      rw [canActivate_members] at hm
      split at hm
      · cases hm
      · rw [h.setAfter_eq hr] at hm
        obtain ⟨q, -, rfl⟩ := List.mem_map.mp (List.mem_filter.mp hm).1
        exact Int.natCast_nonneg q.now
    · rw [canActivate_members_other cfg r redis later hkey] at hm
      exact h.nonneg later key m hm
  window := by
    intro later key hlater
    by_cases hkey : key = r.key cfg
    · subst hkey
      have hnow : (r.now : Int) ≤ later := hlater r (by simp)
      rw [canActivate_members]
      split
      · -- The key has expired, and every request of the history is out of the window.
        rename_i hexpired
        symm
        apply List.filter_eq_nil_iff.mpr
        intro m hm
        obtain ⟨q, hq, rfl⟩ := List.mem_map.mp hm
        have hle := hr.le (List.mem_filter.mp hq).1
        simp only [isYoungerThan, decide_eq_true_eq]
        omega
      · rw [h.setAfter_eq hr, List.filter_filter]
        apply List.filter_congr
        intro m _
        simp only [isYoungerThan, ← Bool.decide_and]
        exact decide_eq_decide.mpr ⟨fun hm => hm.1, fun hm => ⟨hm, by omega⟩⟩
    · rw [canActivate_members_other cfg r redis later hkey, entriesOf_append_other hkey]
      exact h.window later key fun q hq => hlater q (List.mem_append_left _ hq)

/-! ### The decisions -/

theorem afterRequests_append (cfg : RateLimitConfig) (past : List GuardedRequest)
    (r : GuardedRequest) : afterRequests cfg (past ++ [r]) =
      (canActivate (some cfg) r (afterRequests cfg past)).2 := exec_append ..

theorem admittedRequests_append (cfg : RateLimitConfig) (past : List GuardedRequest)
    (r : GuardedRequest) : admittedRequests cfg (past ++ [r]) =
      admittedRequests cfg past ++ if admitsAfter cfg past r then [r] else [] := by
  simp only [admittedRequests, outputs_append, outputs, List.append_nil]
  rfl

/-- Times do not decrease, and the members added to one key are distinct. -/
structure RequestSequence (cfg : RateLimitConfig) (rs : List GuardedRequest) : Prop where
  ordered : rs.Pairwise fun q r => q.now ≤ r.now
  distinct : (rs.map fun r => (r.key cfg, r.member)).Nodup

theorem RequestSequence.prefix {cfg : RateLimitConfig} {rs rs' : List GuardedRequest}
    (h : RequestSequence cfg (rs ++ rs')) : RequestSequence cfg rs where
  ordered := (List.pairwise_append.mp h.ordered).1
  distinct := by
    have hdistinct := h.distinct
    rw [List.map_append] at hdistinct
    exact (List.nodup_append.mp hdistinct).1

theorem RequestSequence.follows {cfg : RateLimitConfig} {past : List GuardedRequest}
    {r : GuardedRequest} (h : RequestSequence cfg (past ++ [r])) : r.Follows cfg past where
  ordered := fun q hq => (List.pairwise_append.mp h.ordered).2.2 q hq r (by simp)
  distinct := by
    intro q hq hkey hmember
    have hdistinct := h.distinct
    rw [List.map_append] at hdistinct
    exact (List.nodup_append.mp hdistinct).2.2 _ (List.mem_map_of_mem hq) _
      (List.mem_map_of_mem (List.mem_singleton_self r)) (Prod.ext hkey hmember)

theorem RequestSequence.tracks {cfg : RateLimitConfig} {rs : List GuardedRequest}
    (h : RequestSequence cfg rs) : Tracks cfg rs (afterRequests cfg rs) := by
  induction rs using List.reverseRecOn with
  | nil => exact tracks_empty cfg
  | append_singleton past r ih =>
    rw [afterRequests_append]
    exact (ih h.prefix).step h.follows

/-- **The decision is the one the whole history gives.** -/
theorem RequestSequence.admitsAfter_iff {cfg : RateLimitConfig} {past : List GuardedRequest}
    {r : GuardedRequest} (h : RequestSequence cfg (past ++ [r])) :
    admitsAfter cfg past r = true ↔
      (past ++ [r]).countP (·.isSince cfg (r.key cfg) ((r.now : Int) - cfg.windowMs)) ≤ cfg.max := by
  rw [admitsAfter, canActivate_admitted, h.prefix.tracks.setAfter_eq h.follows]
  have hinside : ∀ m ∈ (entriesOf cfg (r.key cfg) (past ++ [r])).filter
      (isYoungerThan ((r.now : Int) - cfg.windowMs)),
      decide ((r.now : Int) - cfg.windowMs ≤ m.2 ∧ m.2 ≤ (r.now : Int)) = true := by
    intro m hm
    obtain ⟨hm, hyoung⟩ := List.mem_filter.mp hm
    obtain ⟨q, hq, rfl⟩ := List.mem_map.mp hm
    have hle := h.follows.le (List.mem_filter.mp hq).1
    simp only [isYoungerThan, decide_eq_true_eq] at hyoung ⊢
    omega
  rw [List.countP_eq_length.mpr hinside, ← List.countP_eq_length_filter]
  have hcount := countP_entriesOf cfg (r.key cfg) (past ++ [r])
    fun t => decide ((r.now : Int) - cfg.windowMs < t)
  exact iff_of_eq (congrArg (· ≤ cfg.max) hcount)

/-- What a request leaves in its set has been added by a request of the key. -/
theorem GuardedRequest.setAfter_sublist {cfg : RateLimitConfig} {past : List GuardedRequest}
    {r : GuardedRequest} {redis : Store String String}
    (h : (redis.members r.now (r.key cfg)).Sublist (entriesOf cfg (r.key cfg) past)) :
    (r.setAfter cfg redis).Sublist (entriesOf cfg (r.key cfg) (past ++ [r])) := by
  rw [entriesOf_append_same]
  exact (List.filter_sublist.trans (List.filter_sublist.trans h)).append_right _

theorem afterRequests_members_sublist (cfg : RateLimitConfig) (rs : List GuardedRequest)
    (later : Int) (key : String) :
    ((afterRequests cfg rs).members later key).Sublist (entriesOf cfg key rs) := by
  induction rs using List.reverseRecOn generalizing later with
  | nil => exact List.Sublist.slnil
  | append_singleton past r ih =>
    rw [afterRequests_append]
    by_cases hkey : key = r.key cfg
    · subst hkey
      rw [canActivate_members]
      split
      · exact List.nil_sublist _
      · exact GuardedRequest.setAfter_sublist (ih r.now)
    · rw [canActivate_members_other cfg r _ later hkey, entriesOf_append_other hkey]
      exact ih later

/-- Whatever the order of the times, a request is admitted when no more than `max` of its
    key fall into the window that ends with it. -/
theorem admitsAfter_of_le {cfg : RateLimitConfig} {past : List GuardedRequest}
    {r : GuardedRequest} (h : (past ++ [r]).countP
      (·.isWithin cfg (r.key cfg) ((r.now : Int) - cfg.windowMs) r.now) ≤ cfg.max) :
    admitsAfter cfg past r = true := by
  rw [admitsAfter, canActivate_admitted]
  have hsub : (r.setAfter cfg (afterRequests cfg past)).Sublist
      (entriesOf cfg (r.key cfg) (past ++ [r])) :=
    GuardedRequest.setAfter_sublist (afterRequests_members_sublist cfg past r.now (r.key cfg))
  have hyoung : ∀ m ∈ r.setAfter cfg (afterRequests cfg past),
      (r.now : Int) - cfg.windowMs < m.2 := by
    have hwindow : (0 : Int) < cfg.windowMs := Int.natCast_pos.mpr cfg.windowMs_pos
    intro m hm
    obtain ⟨q, -, rfl⟩ := List.mem_map.mp (hsub.subset hm)
    rcases List.mem_append.mp hm with hm | hm
    · have hkept := (List.mem_filter.mp (List.mem_filter.mp hm).1).2
      simp only [Bool.not_eq_true', decide_eq_false_iff_not, not_and, Int.not_le] at hkept
      exact hkept (Int.natCast_nonneg _)
    · rw [List.mem_singleton.mp hm]
      simp only
      omega
  calc (r.setAfter cfg (afterRequests cfg past)).countP
        (fun m => decide ((r.now : Int) - cfg.windowMs ≤ m.2 ∧ m.2 ≤ (r.now : Int)))
      ≤ (r.setAfter cfg (afterRequests cfg past)).countP
          (fun m => decide ((r.now : Int) - cfg.windowMs < m.2 ∧ m.2 ≤ (r.now : Int))) := by
        apply List.countP_mono_left
        intro m hm hcounted
        rw [decide_eq_true_eq] at hcounted ⊢
        exact ⟨hyoung m hm, hcounted.2⟩
    _ ≤ (entriesOf cfg (r.key cfg) (past ++ [r])).countP
          (fun m => decide ((r.now : Int) - cfg.windowMs < m.2 ∧ m.2 ≤ (r.now : Int))) :=
        hsub.countP_le
    _ = (past ++ [r]).countP (·.isWithin cfg (r.key cfg) ((r.now : Int) - cfg.windowMs) r.now) := by
        rw [countP_entriesOf cfg _ _ fun t =>
          decide ((r.now : Int) - cfg.windowMs < t ∧ t ≤ (r.now : Int))]
        simp only [GuardedRequest.isWithin, GuardedRequest.isSince, Bool.decide_and, Bool.and_assoc]
    _ ≤ cfg.max := h

theorem admittedRequests_sublist (cfg : RateLimitConfig) (rs : List GuardedRequest) :
    (admittedRequests cfg rs).Sublist rs := by
  induction rs using List.reverseRecOn with
  | nil => exact List.Sublist.slnil
  | append_singleton past r ih =>
    rw [admittedRequests_append]
    apply ih.append
    split
    · exact List.Sublist.refl _
    · exact List.nil_sublist _

/-- In a window no more than `max` requests of a key are admitted: the last of them counts
    all the others. -/
theorem RequestSequence.admitted_le {cfg : RateLimitConfig} {rs : List GuardedRequest}
    (h : RequestSequence cfg rs) (key : String) (stop : Int) :
    (admittedRequests cfg rs).countP (·.isWithin cfg key (stop - cfg.windowMs) stop) ≤ cfg.max := by
  induction rs using List.reverseRecOn with
  | nil => exact Nat.zero_le _
  | append_singleton past r ih =>
    by_cases hlast : admitsAfter cfg past r = true ∧
        r.isWithin cfg key (stop - cfg.windowMs) stop = true
    · obtain ⟨hadmits, hwithin⟩ := hlast
      simp only [GuardedRequest.isWithin, GuardedRequest.isSince, Bool.and_eq_true, beq_iff_eq,
        decide_eq_true_eq] at hwithin
      calc (admittedRequests cfg (past ++ [r])).countP
            (·.isWithin cfg key (stop - cfg.windowMs) stop)
          ≤ (past ++ [r]).countP (·.isWithin cfg key (stop - cfg.windowMs) stop) :=
            (admittedRequests_sublist cfg (past ++ [r])).countP_le
        _ ≤ (past ++ [r]).countP (·.isSince cfg (r.key cfg) ((r.now : Int) - cfg.windowMs)) := by
            apply List.countP_mono_left
            intro q _ hq
            simp only [GuardedRequest.isWithin, GuardedRequest.isSince, Bool.and_eq_true,
              beq_iff_eq, decide_eq_true_eq] at hq ⊢
            exact ⟨hq.1.1.trans hwithin.1.1.symm, by omega⟩
        _ ≤ cfg.max := h.admitsAfter_iff.mp hadmits
    · rw [admittedRequests_append, List.countP_append]
      have hnone : (if admitsAfter cfg past r then [r] else []).countP
          (·.isWithin cfg key (stop - cfg.windowMs) stop) = 0 := by
        split
        · rename_i hadmits
          simpa using fun hwithin => hlast ⟨hadmits, hwithin⟩
        · rfl
      rw [hnone]
      exact ih h.prefix

/-- A client that has been silent for the length of the window is admitted. -/
theorem RequestSequence.admits_silent {cfg : RateLimitConfig} {past : List GuardedRequest}
    {r : GuardedRequest} (h : RequestSequence cfg (past ++ [r]))
    (hsilent : ∀ q ∈ past, q.key cfg = r.key cfg → q.now + cfg.windowMs ≤ r.now) :
    admitsAfter cfg past r = true := by
  have hpast : past.countP (·.isSince cfg (r.key cfg) ((r.now : Int) - cfg.windowMs)) = 0 := by
    apply List.countP_eq_zero.mpr
    intro q hq
    simp only [GuardedRequest.isSince, Bool.and_eq_true, beq_iff_eq, decide_eq_true_eq, not_and]
    intro hkey
    have hearly := hsilent q hq hkey
    omega
  have hone : [r].countP (·.isSince cfg (r.key cfg) ((r.now : Int) - cfg.windowMs)) ≤ 1 :=
    List.countP_le_length
  rw [h.admitsAfter_iff, List.countP_append, hpast]
  have hmax := cfg.max_pos
  omega

/-- **The rate limiter is an exact sliding window.**  A request is admitted iff no more
    than `max` requests of its key, itself included, fall into the window that ends with
    it; so no window admits more than `max`, and a silent client is always admitted. -/
theorem sliding_window_exact (cfg : RateLimitConfig) {rs : List GuardedRequest}
    (h : RequestSequence cfg rs) :
    (∀ past r rest, rs = past ++ [r] ++ rest →
      (admitsAfter cfg past r = true ↔
        (past ++ [r]).countP (·.isSince cfg (r.key cfg) ((r.now : Int) - cfg.windowMs)) ≤
          cfg.max)) ∧
    (∀ key stop, (admittedRequests cfg rs).countP
      (·.isWithin cfg key (stop - cfg.windowMs) stop) ≤ cfg.max) ∧
    ∀ past r rest, rs = past ++ [r] ++ rest →
      (∀ q ∈ past, q.key cfg = r.key cfg → q.now + cfg.windowMs ≤ r.now) →
      admitsAfter cfg past r = true := by
  refine ⟨?_, h.admitted_le, ?_⟩
  · rintro past r rest rfl
    exact h.prefix.admitsAfter_iff
  · rintro past r rest rfl hsilent
    exact h.prefix.admits_silent hsilent

/-- Two requests a minute. -/
def twoPerMinute : RateLimitConfig := ⟨"login", 60000, 2, by decide, by decide⟩

def threeAtOnce : List GuardedRequest :=
  [⟨none, some "10.0.0.1", 1000, "0.1"⟩, ⟨none, some "10.0.0.1", 1000, "0.2"⟩,
    ⟨none, some "10.0.0.1", 60999, "0.3"⟩]

theorem threeAtOnce_rejects_third :
    admitsAfter twoPerMinute (threeAtOnce.take 2) ⟨none, some "10.0.0.1", 60999, "0.3"⟩ = false ∧
    (admitsAfter twoPerMinute (threeAtOnce.take 2) ⟨none, some "10.0.0.1", 60999, "0.3"⟩ = true ↔
      threeAtOnce.countP (·.isSince twoPerMinute "rl:login:10.0.0.1" 999) ≤ 2) :=
  ⟨by decide, (@sliding_window_exact twoPerMinute threeAtOnce
    ⟨by decide, by decide⟩).1 _ _ [] rfl⟩

end SeatReservation
