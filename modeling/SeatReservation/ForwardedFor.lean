import SeatReservation.RateLimit

/-!
# Whose bucket a request is counted in

A request reaches the guard through nginx, which puts the address of its peer
behind the `X-Forwarded-For` headers the peer has sent.  The guard takes what is
in front of the first comma, so a peer that sends a header names the bucket: one
of its own, or the one another client is counted in, for Redis is the same for
all.  The limits then hold for the peer, whatever it sends, exactly when every
bucket it could name still has room for all its requests (`limits_hold_iff`).
-/

namespace SeatReservation

open TransitionSystem ExpiringSets

/-! ### The limited endpoints -/

/-- The handlers with a `@RateLimit`. -/
inductive LimitedEndpoint where
  | login
  | seatHold
  | seatRelease
  | paymentCheckout
deriving DecidableEq, Repr

def LimitedEndpoint.name : LimitedEndpoint → String
  | .login => "login"
  | .seatHold => "seat-hold"
  | .seatRelease => "seat-release"
  | .paymentCheckout => "payment-checkout"

/-- `RATE_LIMIT_*_WINDOW_MS` and `RATE_LIMIT_*_MAX` of one service. -/
structure Limit where
  windowMs : Nat
  max : Nat
  windowMs_pos : 0 < windowMs
  max_pos : 0 < max

structure RateLimitEnv where
  login : Limit
  seat : Limit
  payment : Limit

/-- The values of the environment schemas. -/
def RateLimitEnv.default : RateLimitEnv where
  login := ⟨60000, 10, Nat.succ_pos _, Nat.succ_pos _⟩
  seat := ⟨60000, 60, Nat.succ_pos _, Nat.succ_pos _⟩
  payment := ⟨60000, 30, Nat.succ_pos _, Nat.succ_pos _⟩

def RateLimitEnv.limit (env : RateLimitEnv) : LimitedEndpoint → Limit
  | .login => env.login
  | .seatHold => env.seat
  | .seatRelease => env.seat
  | .paymentCheckout => env.payment

/-- What the decorator of an endpoint is given. -/
def RateLimitEnv.config (env : RateLimitEnv) (e : LimitedEndpoint) : RateLimitConfig :=
  ⟨e.name, (env.limit e).windowMs, (env.limit e).max, (env.limit e).windowMs_pos,
    (env.limit e).max_pos⟩

/-! ### The gateway -/

/-- `$proxy_add_x_forwarded_for`: the headers of the request and the address of the peer. -/
def proxyAddXForwardedFor (headers : List String) (remoteAddr : String) : String :=
  ", ".intercalate (headers ++ [remoteAddr])

/-- A request without the headers its peer chooses. -/
structure Arrival where
  endpoint : LimitedEndpoint
  now : Nat
  random : String
deriving DecidableEq, Repr

structure ClientRequest where
  arrival : Arrival
  /-- The `X-Forwarded-For` headers the peer sends. -/
  xForwardedFor : List String
deriving DecidableEq, Repr

/-- A request to a limited endpoint: the peer's own, or one of any other client, as it
    reaches the guard. -/
inductive Sent (α : Type) where
  | own (r : α)
  | other (endpoint : LimitedEndpoint) (r : GuardedRequest)
deriving DecidableEq, Repr

def Sent.map {α β : Type} (f : α → β) : Sent α → Sent β
  | .own r => .own (f r)
  | .other e r => .other e r

def Sent.own? {α : Type} : Sent α → Option α
  | .own r => some r
  | .other .. => none

/-- The request without the headers, if it is the peer's own. -/
def Sent.arrival (q : Sent ClientRequest) : Sent Arrival := q.map (·.arrival)

def Sent.endpoint : Sent Arrival → LimitedEndpoint
  | .own a => a.endpoint
  | .other e _ => e

/-- One peer in front of the gateway. -/
structure Gateway where
  env : RateLimitEnv
  remoteAddr : String
  /-- The address the services see, nginx's own. -/
  address : String

/-- The request as nginx passes it on. -/
def Gateway.forward (g : Gateway) (r : ClientRequest) : GuardedRequest where
  xForwardedFor := some (proxyAddXForwardedFor r.xForwardedFor g.remoteAddr)
  ip := some g.address
  now := r.arrival.now
  random := r.arrival.random

/-- What the guard of the endpoint is given. -/
def Gateway.guarded (g : Gateway) : Sent ClientRequest → GuardedRequest
  | .own r => g.forward r
  | .other _ r => r

def Gateway.config (g : Gateway) (q : Sent ClientRequest) : RateLimitConfig :=
  g.env.config q.arrival.endpoint

def Gateway.step (g : Gateway) (redis : Store String String) (q : Sent ClientRequest) :
    Store String String :=
  (canActivate (some (g.config q)) (g.guarded q) redis).2

/-- Redis after the requests. -/
def Gateway.after (g : Gateway) (rs : List (Sent ClientRequest)) : Store String String :=
  exec g.step Store.empty rs

/-- The decision of the guard on the request, if it is the peer's own. -/
def Gateway.answer (g : Gateway) (redis : Store String String) :
    Sent ClientRequest → List (Arrival × Bool)
  | .own r =>
      [(r.arrival, (canActivate (some (g.config (.own r))) (g.forward r) redis).1.admitted)]
  | .other .. => []

/-- The decisions of the guard on the requests of the peer. -/
def Gateway.answers (g : Gateway) (rs : List (Sent ClientRequest)) : List (Arrival × Bool) :=
  outputs g.step g.answer Store.empty rs

/-! ### What the limits are for -/

/-- A request to the endpoint with a time in `(stop - windowMs, stop]`. -/
def Gateway.inWindow (g : Gateway) (e : LimitedEndpoint) (stop : Int) (a : Arrival) : Bool :=
  a.endpoint == e && decide (stop - (g.env.limit e).windowMs < a.now ∧ (a.now : Int) ≤ stop)

/-- The requests of the peer. -/
def ownRequests {α : Type} (traffic : List (Sent α)) : List α := traffic.filterMap Sent.own?

/-- The peer's headers do not change a decision on its requests. -/
def Gateway.HeaderIndependent (g : Gateway) (traffic : List (Sent Arrival)) : Prop :=
  ∀ rs rs' : List (Sent ClientRequest), rs.map Sent.arrival = traffic →
    rs'.map Sent.arrival = traffic → g.answers rs = g.answers rs'

/-- Whatever headers it sends, the peer gets no more than `max` requests through in a window. -/
def Gateway.NeverExceeded (g : Gateway) (traffic : List (Sent Arrival)) : Prop :=
  ∀ rs : List (Sent ClientRequest), rs.map Sent.arrival = traffic → ∀ e stop,
    (g.answers rs).countP (fun x => x.2 && g.inWindow e stop x.1) ≤ (g.env.limit e).max

/-- The peer makes no more than `max` requests in a window. -/
def Gateway.WithinLimits (g : Gateway) (traffic : List (Sent Arrival)) : Prop :=
  ∀ e stop, (ownRequests traffic).countP (g.inWindow e stop) ≤ (g.env.limit e).max

/-- The request may stand in the bucket of `r`, in the window that ends with it: another
    client's does if it has the key, one of the peer's own whatever its key. -/
def Gateway.isBeside (g : Gateway) (r : ClientRequest) : Sent Arrival → Bool
  | .own b => g.inWindow r.arrival.endpoint r.arrival.now b
  | .other e q =>
      e == r.arrival.endpoint &&
        q.isWithin (g.config (.own r)) ((g.forward r).key (g.config (.own r)))
          (r.arrival.now - (g.env.limit r.arrival.endpoint).windowMs) r.arrival.now

/-- At each request of the peer, every bucket it could name has room for it and for all its
    requests of the window. -/
def Gateway.HasRoom (g : Gateway) (traffic : List (Sent Arrival)) : Prop :=
  ∀ past a rest, traffic = past ++ [.own a] ++ rest → ∀ headers,
    (past ++ [.own a]).countP (g.isBeside ⟨a, headers⟩) ≤ (g.env.limit a.endpoint).max

/-! ### Endpoints do not share buckets -/

theorem split_key (r : GuardedRequest) {cfg : RateLimitConfig} (h : ':' ∉ cfg.name.toList) :
    JsStrings.split ':' (r.key cfg) = "rl" :: cfg.name :: JsStrings.split ':' r.clientIp := by
  have hkey : (r.key cfg).toList =
      "rl".toList ++ ':' :: (cfg.name ++ ":" ++ r.clientIp).toList := by
    simp [GuardedRequest.key]
  have hrest : (cfg.name ++ ":" ++ r.clientIp).toList =
      cfg.name.toList ++ ':' :: r.clientIp.toList := by
    simp
  rw [JsStrings.split_eq_cons (by decide) hkey, JsStrings.split_eq_cons h hrest]

theorem LimitedEndpoint.colon_not_mem_name (e : LimitedEndpoint) : ':' ∉ e.name.toList := by
  cases e <;> decide

theorem LimitedEndpoint.name_injective {e e' : LimitedEndpoint} (h : e.name = e'.name) :
    e = e' := by
  cases e <;> cases e' <;> first | rfl | exact absurd h (by decide)

theorem endpoint_of_key {env : RateLimitEnv} {e e' : LimitedEndpoint} {q r : GuardedRequest}
    (h : q.key (env.config e) = r.key (env.config e')) : e = e' := by
  have hq := @split_key q (env.config e) e.colon_not_mem_name
  have hr := @split_key r (env.config e') e'.colon_not_mem_name
  have hsplit := congrArg (JsStrings.split ':') h
  rw [hq, hr] at hsplit
  simp only [List.cons.injEq, true_and] at hsplit
  exact LimitedEndpoint.name_injective hsplit.1

/-- The two databases have the same sets under the keys of the endpoint. -/
def SameBuckets (cfg : RateLimitConfig) (redis redis' : Store String String) : Prop :=
  ∀ (q : GuardedRequest) (later : Int),
    redis.members later (q.key cfg) = redis'.members later (q.key cfg)

section SameBuckets

variable {cfg cfg' : RateLimitConfig} {redis redis' : Store String String}

theorem SameBuckets.setAfter_eq (h : SameBuckets cfg redis redis') (r : GuardedRequest) :
    r.setAfter cfg redis = r.setAfter cfg redis' := by
  rw [GuardedRequest.setAfter, GuardedRequest.setAfter, h r r.now]

theorem SameBuckets.admitted_eq (h : SameBuckets cfg redis redis') (r : GuardedRequest) :
    (canActivate (some cfg) r redis).1.admitted =
      (canActivate (some cfg) r redis').1.admitted := by
  rw [Bool.eq_iff_iff, canActivate_admitted, canActivate_admitted, h.setAfter_eq r]

/-- A request of the endpoint, in both databases. -/
theorem SameBuckets.step (h : SameBuckets cfg redis redis') (r : GuardedRequest) :
    SameBuckets cfg (canActivate (some cfg) r redis).2 (canActivate (some cfg) r redis').2 := by
  intro q later
  by_cases hkey : q.key cfg = r.key cfg
  · rw [hkey, canActivate_members, canActivate_members, h.setAfter_eq r]
  · rw [canActivate_members_other cfg r redis later hkey,
      canActivate_members_other cfg r redis' later hkey]
    exact h q later

/-- A request of another endpoint, in one of them. -/
theorem SameBuckets.other (h : SameBuckets cfg redis redis') (r : GuardedRequest)
    (hother : ∀ q : GuardedRequest, q.key cfg ≠ r.key cfg') :
    SameBuckets cfg (canActivate (some cfg') r redis).2 redis' := by
  intro q later
  rw [canActivate_members_other cfg' r redis later (hother q)]
  exact h q later

end SameBuckets

/-- The requests to an endpoint, the peer's own and the others. -/
def Gateway.requestsTo (g : Gateway) (e : LimitedEndpoint) (rs : List (Sent ClientRequest)) :
    List GuardedRequest :=
  (rs.filter fun q => q.arrival.endpoint == e).map g.guarded

theorem Gateway.requestsTo_append_same (g : Gateway) (past : List (Sent ClientRequest))
    (q : Sent ClientRequest) : g.requestsTo q.arrival.endpoint (past ++ [q]) =
      g.requestsTo q.arrival.endpoint past ++ [g.guarded q] := by
  simp [Gateway.requestsTo]

theorem Gateway.requestsTo_append_other (g : Gateway) {e : LimitedEndpoint}
    {past : List (Sent ClientRequest)} {q : Sent ClientRequest} (h : q.arrival.endpoint ≠ e) :
    g.requestsTo e (past ++ [q]) = g.requestsTo e past := by
  simp [Gateway.requestsTo, h]

/-- **Endpoints are independent.**  The buckets of an endpoint are those its own requests
    alone would have left. -/
theorem Gateway.sameBuckets (g : Gateway) (rs : List (Sent ClientRequest)) (e : LimitedEndpoint) :
    SameBuckets (g.env.config e) (g.after rs)
      (afterRequests (g.env.config e) (g.requestsTo e rs)) := by
  induction rs using List.reverseRecOn with
  | nil =>
    intro q later
    rfl
  | append_singleton past q ih =>
    have hafter : g.after (past ++ [q]) = g.step (g.after past) q := exec_append ..
    rw [hafter]
    by_cases hendpoint : q.arrival.endpoint = e
    · subst hendpoint
      rw [g.requestsTo_append_same, afterRequests_append]
      exact ih.step (g.guarded q)
    · rw [g.requestsTo_append_other hendpoint]
      exact ih.other _ fun q' hkey => hendpoint (endpoint_of_key hkey).symm

/-! ### The answers, one by one -/

/-- The guard admits the peer's request after the others of its endpoint. -/
def Gateway.admits (g : Gateway) (past : List (Sent ClientRequest)) (r : ClientRequest) : Bool :=
  admitsAfter (g.config (.own r)) (g.requestsTo r.arrival.endpoint past) (g.forward r)

theorem Gateway.answer_own (g : Gateway) (past : List (Sent ClientRequest)) (r : ClientRequest) :
    g.answer (g.after past) (.own r) = [(r.arrival, g.admits past r)] := by
  have hadmits := (g.sameBuckets past r.arrival.endpoint).admitted_eq (g.forward r)
  exact congrArg (fun b => [(r.arrival, b)]) hadmits

theorem Gateway.answers_append (g : Gateway) (past rest : List (Sent ClientRequest)) :
    g.answers (past ++ rest) = g.answers past ++ outputs g.step g.answer (g.after past) rest :=
  outputs_append ..

theorem Gateway.answers_append_own (g : Gateway) (past : List (Sent ClientRequest))
    (r : ClientRequest) :
    g.answers (past ++ [.own r]) = g.answers past ++ [(r.arrival, g.admits past r)] := by
  rw [g.answers_append, ← g.answer_own]
  simp only [outputs, List.append_nil]

theorem Gateway.answers_append_other (g : Gateway) (past : List (Sent ClientRequest))
    (e : LimitedEndpoint) (q : GuardedRequest) :
    g.answers (past ++ [.other e q]) = g.answers past := by
  rw [g.answers_append]
  simp only [outputs, Gateway.answer, List.append_nil]

@[simp] theorem ownRequests_append_own {α : Type} (past : List (Sent α)) (r : α) :
    ownRequests (past ++ [.own r]) = ownRequests past ++ [r] := by
  simp [ownRequests, Sent.own?]

@[simp] theorem ownRequests_append_other {α : Type} (past : List (Sent α)) (e : LimitedEndpoint)
    (q : GuardedRequest) : ownRequests (past ++ [.other e q]) = ownRequests past := by
  simp [ownRequests, Sent.own?]

/-- Each request of the peer is answered once, in order. -/
theorem Gateway.answers_arrivals (g : Gateway) (rs : List (Sent ClientRequest)) :
    (g.answers rs).map Prod.fst = ownRequests (rs.map Sent.arrival) := by
  induction rs using List.reverseRecOn with
  | nil => rfl
  | append_singleton past q ih =>
    rw [List.map_append]
    cases q with
    | own r =>
      rw [g.answers_append_own, List.map_append, ih]
      exact (ownRequests_append_own ..).symm
    | other e q =>
      rw [g.answers_append_other, ih]
      exact (ownRequests_append_other ..).symm

theorem Gateway.mem_answers (g : Gateway) (past : List (Sent ClientRequest)) (r : ClientRequest)
    (rest : List (Sent ClientRequest)) :
    (r.arrival, g.admits past r) ∈ g.answers (past ++ [.own r] ++ rest) := by
  rw [g.answers_append, g.answers_append_own]
  exact List.mem_append_left _ (List.mem_append_right _ List.mem_cons_self)

/-- The answers to requests that are all admitted. -/
def allAdmitted (arrivals : List Arrival) : List (Arrival × Bool) := arrivals.map fun a => (a, true)

theorem Gateway.answers_of_admits (g : Gateway) {rs : List (Sent ClientRequest)}
    (h : ∀ past r rest, rs = past ++ [.own r] ++ rest → g.admits past r = true) :
    g.answers rs = allAdmitted (ownRequests (rs.map Sent.arrival)) := by
  have hall : ∀ x ∈ g.answers rs, x = (x.1, true) := by
    induction rs using List.reverseRecOn with
    | nil => exact fun x hx => absurd hx List.not_mem_nil
    | append_singleton past q ih =>
      have hpast := ih fun past' r rest hsplit => h past' r (rest ++ [q]) (by simp [hsplit])
      cases q with
      | own r =>
        intro x hx
        rw [g.answers_append_own] at hx
        rcases List.mem_append.mp hx with hx | hx
        · exact hpast x hx
        · rw [List.mem_singleton.mp hx, h past r [] (by simp)]
      | other e q =>
        rw [g.answers_append_other]
        exact hpast
  calc g.answers rs
      = (g.answers rs).map (fun x => (x.1, true)) := by
        conv_lhs => rw [← List.map_id (g.answers rs)]
        exact List.map_congr_left hall
    _ = allAdmitted ((g.answers rs).map Prod.fst) := by rw [allAdmitted, List.map_map]; rfl
    _ = allAdmitted (ownRequests (rs.map Sent.arrival)) := by rw [g.answers_arrivals]

theorem Gateway.admits_of_answers (g : Gateway) {past rest : List (Sent ClientRequest)}
    {r : ClientRequest} {arrivals : List Arrival}
    (h : g.answers (past ++ [.own r] ++ rest) = allAdmitted arrivals) :
    g.admits past r = true := by
  have hmem := g.mem_answers past r rest
  rw [h] at hmem
  obtain ⟨a, -, ha⟩ := List.mem_map.mp hmem
  exact (Prod.mk.inj ha).2.symm

theorem Gateway.countP_allAdmitted (g : Gateway) (arrivals : List Arrival) (e : LimitedEndpoint)
    (stop : Int) : (allAdmitted arrivals).countP (fun x => x.2 && g.inWindow e stop x.1) =
      arrivals.countP (g.inWindow e stop) := by
  rw [allAdmitted, List.countP_map]
  rfl

/-- What the guard counts for the request stands beside it. -/
theorem Gateway.isBeside_of_isWithin (g : Gateway) {r : ClientRequest} {q : Sent ClientRequest}
    (hendpoint : q.arrival.endpoint = r.arrival.endpoint)
    (h : (g.guarded q).isWithin (g.config (.own r)) ((g.forward r).key (g.config (.own r)))
      ((g.forward r).now - (g.config (.own r)).windowMs) (g.forward r).now = true) :
    g.isBeside r q.arrival = true := by
  cases q with
  | own b =>
    simp only [GuardedRequest.isWithin, GuardedRequest.isSince, Bool.and_eq_true, beq_iff_eq,
      decide_eq_true_eq] at h
    simp only [Sent.arrival, Sent.map, Gateway.isBeside, Gateway.inWindow, Bool.and_eq_true,
      beq_iff_eq, decide_eq_true_eq]
    exact ⟨hendpoint, h.1.2, h.2⟩
  | other e q =>
    simp only [Sent.arrival, Sent.map, Gateway.isBeside, Bool.and_eq_true, beq_iff_eq]
    exact ⟨hendpoint, h⟩

/-- Where there is room the guard has nothing to turn away, whatever the headers. -/
theorem Gateway.HasRoom.answers_eq {g : Gateway} {traffic : List (Sent Arrival)}
    (h : g.HasRoom traffic) {rs : List (Sent ClientRequest)} (hrs : rs.map Sent.arrival = traffic) :
    g.answers rs = allAdmitted (ownRequests traffic) := by
  rw [← hrs]
  apply g.answers_of_admits
  rintro past r rest rfl
  have hsame : g.requestsTo r.arrival.endpoint past ++ [g.forward r] =
      g.requestsTo r.arrival.endpoint (past ++ [.own r]) :=
    (g.requestsTo_append_same past (.own r)).symm
  apply admitsAfter_of_le
  rw [hsame]
  calc (g.requestsTo r.arrival.endpoint (past ++ [.own r])).countP
        (·.isWithin (g.config (.own r)) ((g.forward r).key (g.config (.own r)))
          ((g.forward r).now - (g.config (.own r)).windowMs) (g.forward r).now)
      ≤ (past ++ [Sent.own r]).countP fun q => g.isBeside r q.arrival := by
        rw [Gateway.requestsTo, List.countP_map, List.countP_filter]
        apply List.countP_mono_left
        intro q _ hq
        simp only [Function.comp_apply, Bool.and_eq_true, beq_iff_eq] at hq
        exact g.isBeside_of_isWithin hq.2 hq.1
    _ = (past.map Sent.arrival ++ [Sent.own r.arrival]).countP (g.isBeside r) := by
        rw [List.countP_append, List.countP_append, List.countP_map]
        rfl
    _ ≤ (g.config (.own r)).max := by
        refine h (past.map Sent.arrival) r.arrival (rest.map Sent.arrival) ?_ r.xForwardedFor
        rw [← hrs]
        simp [Sent.arrival, Sent.map]

/-! ### Choosing headers -/

/-- The traffic with the headers the peer has chosen, by position. -/
def withHeaders (choice : Nat → List String) (traffic : List (Sent Arrival)) :
    List (Sent ClientRequest) :=
  traffic.zipIdx.map fun x => x.1.map fun a => ⟨a, choice x.2⟩

theorem withHeaders_arrivals (choice : Nat → List String) (traffic : List (Sent Arrival)) :
    (withHeaders choice traffic).map Sent.arrival = traffic := by
  have hcancel : (Sent.arrival ∘ fun x : Sent Arrival × Nat =>
      x.1.map fun a => (⟨a, choice x.2⟩ : ClientRequest)) = Prod.fst := by
    funext x
    obtain ⟨q, i⟩ := x
    cases q <;> rfl
  rw [withHeaders, List.map_map, hcancel]
  exact List.zipIdx_map_fst 0 traffic

theorem withHeaders_const (headers : List String) (traffic : List (Sent Arrival)) :
    withHeaders (fun _ => headers) traffic = traffic.map (·.map fun a => ⟨a, headers⟩) := by
  conv_rhs => rw [← List.zipIdx_map_fst 0 traffic]
  rw [withHeaders, List.map_map]
  rfl

/-- A text of its own for every number. -/
def label (i : Nat) : String := .ofList (List.replicate (i + 1) 'a')

/-- The number of characters of the text another client is counted under. -/
def Sent.textLength : Sent Arrival → Nat
  | .own _ => 0
  | .other _ q => q.clientIp.toList.length

def textBound : List (Sent Arrival) → Nat
  | [] => 0
  | q :: rest => q.textLength + textBound rest

theorem textLength_le_textBound {q : Sent Arrival} {traffic : List (Sent Arrival)}
    (h : q ∈ traffic) : q.textLength ≤ textBound traffic := by
  induction traffic with
  | nil => exact absurd h List.not_mem_nil
  | cons r rest ih =>
    rcases List.mem_cons.mp h with rfl | h
    · exact Nat.le_add_right _ _
    · exact Nat.le_trans (ih h) (Nat.le_add_left _ _)

/-- Each request of the peer with a header that nobody else is counted under. -/
def forged (traffic : List (Sent Arrival)) : List (Sent ClientRequest) :=
  withHeaders (fun i => [label (textBound traffic + i)]) traffic

theorem forged_arrivals (traffic : List (Sent Arrival)) :
    (forged traffic).map Sent.arrival = traffic := withHeaders_arrivals ..

/-- The guard takes the text the peer has sent for the address of the client. -/
theorem Gateway.clientIp_label (g : Gateway) (a : Arrival) (i : Nat) :
    (g.forward ⟨a, [label i]⟩).clientIp = label i := by
  have hchars : ∀ c ∈ (label i).toList, c = 'a' := by
    intro c hc
    rw [label, String.toList_ofList] at hc
    exact List.eq_of_mem_replicate hc
  have hcomma : ',' ∉ (label i).toList := fun h => absurd (hchars _ h) (by decide)
  have hheader : (proxyAddXForwardedFor [label i] g.remoteAddr).toList =
      (label i).toList ++ ',' :: (" " ++ g.remoteAddr).toList := by
    simp [proxyAddXForwardedFor, String.intercalate_cons_cons, String.intercalate_singleton]
  show JsStrings.trim ((JsStrings.split ',' (proxyAddXForwardedFor [label i] g.remoteAddr)).headD "")
    = label i
  rw [JsStrings.split_eq_cons hcomma hheader]
  apply JsStrings.trim_eq_self_of_forall
  intro c hc
  rw [hchars c hc]
  decide

@[simp] theorem length_label (i : Nat) : (label i).toList.length = i + 1 := by simp [label]

theorem clientIp_of_key {cfg : RateLimitConfig} {q r : GuardedRequest}
    (h : q.key cfg = r.key cfg) : q.clientIp = r.clientIp := by
  have hchars := congrArg String.toList h
  simp only [GuardedRequest.key, String.toList_append] at hchars
  exact String.toList_inj.mp (List.append_cancel_left hchars)

/-- The later request, if it is the peer's own, names a bucket the earlier one is not in. -/
def Gateway.Apart (g : Gateway) (q r : Sent ClientRequest) : Prop :=
  ∀ c, r = .own c → (g.guarded q).clientIp ≠ (g.forward c).clientIp

theorem forged_pairwise (g : Gateway) (traffic : List (Sent Arrival)) :
    (forged traffic).Pairwise g.Apart := by
  rw [forged, withHeaders, List.pairwise_map, List.pairwise_iff_getElem]
  intro i j hi hj hlt c hc hip
  have hlength := congrArg (fun s => s.toList.length) hip
  simp only [List.getElem_zipIdx, Nat.zero_add] at hc hlength
  simp only [List.length_zipIdx] at hi hj
  cases hj' : traffic[j] with
  | other e q => simp [hj', Sent.map] at hc
  | own a =>
    rw [hj'] at hc
    obtain rfl := Sent.own.inj hc
    rw [g.clientIp_label, length_label] at hlength
    cases hi' : traffic[i] with
    | own b =>
      simp only [hi', Sent.map, Gateway.guarded, g.clientIp_label, length_label] at hlength
      omega
    | other e q =>
      have hle := textLength_le_textBound (List.getElem_mem hi)
      simp only [hi', Sent.map, Gateway.guarded, Sent.textLength] at hlength hle
      omega

/-- Requests that are apart from all before them are admitted. -/
theorem Gateway.answers_of_pairwise (g : Gateway) {rs : List (Sent ClientRequest)}
    (h : rs.Pairwise g.Apart) : g.answers rs = allAdmitted (ownRequests (rs.map Sent.arrival)) := by
  apply g.answers_of_admits
  rintro past r rest rfl
  have hapart : ∀ q ∈ past, (g.guarded q).clientIp ≠ (g.forward r).clientIp := fun q hq =>
    (List.pairwise_append.mp (List.pairwise_append.mp h).1).2.2 q hq _
      (List.mem_singleton_self _) r rfl
  have hpast : (g.requestsTo r.arrival.endpoint past).countP
      (·.isWithin (g.config (.own r)) ((g.forward r).key (g.config (.own r)))
        ((g.forward r).now - (g.config (.own r)).windowMs) (g.forward r).now) = 0 := by
    apply List.countP_eq_zero.mpr
    intro q' hq' hwithin
    obtain ⟨q, hq, rfl⟩ := List.mem_map.mp hq'
    simp only [GuardedRequest.isWithin, GuardedRequest.isSince, Bool.and_eq_true,
      beq_iff_eq] at hwithin
    exact hapart q (List.mem_filter.mp hq).1 (clientIp_of_key hwithin.1.1)
  apply admitsAfter_of_le
  rw [List.countP_append, hpast, Nat.zero_add]
  exact Nat.le_trans List.countP_le_length (g.config (.own r)).max_pos

/-- With headers nobody else is counted under the peer gets all its requests through. -/
theorem Gateway.answers_forged (g : Gateway) (traffic : List (Sent Arrival)) :
    g.answers (forged traffic) = allAdmitted (ownRequests traffic) := by
  rw [g.answers_of_pairwise (forged_pairwise g traffic), forged_arrivals]

/-! ### Exactly when the limits hold -/

def Sent.now : Sent Arrival → Nat
  | .own a => a.now
  | .other _ q => q.now

/-- The member a request adds, in whatever bucket. -/
def Sent.member : Sent Arrival → String
  | .own a => toString a.now ++ ":" ++ a.random
  | .other _ q => q.member

/-- Times do not decrease, and the members added for an endpoint are distinct. -/
structure InOrder (traffic : List (Sent Arrival)) : Prop where
  ordered : traffic.Pairwise fun q r => q.now ≤ r.now
  distinct : (traffic.map fun q => (q.endpoint, q.member)).Nodup

theorem InOrder.prefix {past rest : List (Sent Arrival)} (h : InOrder (past ++ rest)) :
    InOrder past where
  ordered := (List.pairwise_append.mp h.ordered).1
  distinct := by
    have hdistinct := h.distinct
    rw [List.map_append] at hdistinct
    exact (List.nodup_append.mp hdistinct).1

theorem InOrder.le {past : List (Sent Arrival)} {r : Sent Arrival} (h : InOrder (past ++ [r]))
    {q : Sent Arrival} (hq : q ∈ past) : q.now ≤ r.now :=
  (List.pairwise_append.mp h.ordered).2.2 q hq r (List.mem_singleton_self r)

theorem Gateway.guarded_now (g : Gateway) (q : Sent ClientRequest) :
    (g.guarded q).now = q.arrival.now := by
  cases q <;> rfl

theorem Gateway.guarded_member (g : Gateway) (q : Sent ClientRequest) :
    (g.guarded q).member = q.arrival.member := by
  cases q <;> rfl

theorem InOrder.requestSequence {g : Gateway} {rs : List (Sent ClientRequest)}
    (h : InOrder (rs.map Sent.arrival)) (e : LimitedEndpoint) :
    RequestSequence (g.env.config e) (g.requestsTo e rs) where
  ordered := by
    rw [Gateway.requestsTo, List.pairwise_map]
    apply ((List.pairwise_map.mp h.ordered).filter _).imp
    intro q r hle
    rw [g.guarded_now, g.guarded_now]
    exact hle
  distinct := by
    have hdistinct := h.distinct
    rw [List.map_map, List.Nodup, List.pairwise_map] at hdistinct
    rw [Gateway.requestsTo, List.map_map, List.Nodup, List.pairwise_map]
    apply (hdistinct.filter _).imp_of_mem
    intro q r hq hr hne heq
    have hendpoint : q.arrival.endpoint = r.arrival.endpoint := by
      have hqe := (List.mem_filter.mp hq).2
      have hre := (List.mem_filter.mp hr).2
      rw [beq_iff_eq] at hqe hre
      exact hqe.trans hre.symm
    have hmember := (Prod.mk.inj heq).2
    rw [g.guarded_member, g.guarded_member] at hmember
    exact hne (Prod.ext hendpoint hmember)

theorem Gateway.HasRoom.prefix {g : Gateway} {past rest : List (Sent Arrival)}
    (h : g.HasRoom (past ++ rest)) : g.HasRoom past := by
  rintro past' a rest' rfl
  exact h past' a (rest' ++ rest) (by simp)

/-- The last request of a window finds the others beside it. -/
theorem Gateway.HasRoom.withinLimits {g : Gateway} {traffic : List (Sent Arrival)}
    (h : g.HasRoom traffic) (horder : InOrder traffic) : g.WithinLimits traffic := by
  intro e stop
  induction traffic using List.reverseRecOn with
  | nil => exact Nat.zero_le _
  | append_singleton past q ih =>
    have hpast := ih h.prefix horder.prefix
    cases q with
    | other e' q => rwa [ownRequests_append_other]
    | own a =>
      by_cases hlast : g.inWindow e stop a = true
      · simp only [Gateway.inWindow, Bool.and_eq_true, beq_iff_eq, decide_eq_true_eq] at hlast
        obtain ⟨rfl, hlast⟩ := hlast
        refine Nat.le_trans ?_ (h past a [] (by simp) [])
        rw [ownRequests, List.countP_filterMap]
        apply List.countP_mono_left
        intro q hq hcounted
        cases q with
        | other e q => simp [Sent.own?] at hcounted
        | own b =>
          have hle : b.now ≤ a.now := by
            rcases List.mem_append.mp hq with hq | hq
            · exact horder.le hq
            · obtain rfl := Sent.own.inj (List.mem_singleton.mp hq)
              exact Nat.le_refl _
          simp only [Sent.own?, Option.map_some, Option.getD_some, Gateway.inWindow,
            Bool.and_eq_true, beq_iff_eq, decide_eq_true_eq] at hcounted
          simp only [Gateway.isBeside, Gateway.inWindow, Bool.and_eq_true, beq_iff_eq,
            decide_eq_true_eq]
          exact ⟨hcounted.1, by omega, by omega⟩
      · rw [ownRequests_append_own, List.countP_append]
        simpa [hlast] using hpast

theorem Gateway.neverExceeded_iff (g : Gateway) (traffic : List (Sent Arrival)) :
    g.NeverExceeded traffic ↔ g.WithinLimits traffic := by
  constructor
  · intro h e stop
    rw [← g.countP_allAdmitted, ← g.answers_forged]
    exact h (forged traffic) (forged_arrivals traffic) e stop
  · intro h rs hrs e stop
    calc (g.answers rs).countP (fun x => x.2 && g.inWindow e stop x.1)
        ≤ (g.answers rs).countP (fun x => g.inWindow e stop x.1) := by
          apply List.countP_mono_left
          intro x _ hx
          exact (Bool.and_eq_true_iff.mp hx).2
      _ = ((g.answers rs).map Prod.fst).countP (g.inWindow e stop) := by
          rw [List.countP_map]
          rfl
      _ ≤ (g.env.limit e).max := by
          rw [g.answers_arrivals, hrs]
          exact h e stop

theorem Gateway.HasRoom.headerIndependent {g : Gateway} {traffic : List (Sent Arrival)}
    (h : g.HasRoom traffic) : g.HeaderIndependent traffic := by
  intro rs rs' hrs hrs'
  rw [h.answers_eq hrs, h.answers_eq hrs']

/-- If the peer always sends the same headers, the guard counts what stands beside a request. -/
theorem Gateway.isSince_of_isBeside (g : Gateway) {headers : List String} {a : Arrival}
    {q : Sent Arrival} (h : g.isBeside ⟨a, headers⟩ q = true) :
    q.endpoint = a.endpoint ∧
      (g.guarded (q.map fun b => ⟨b, headers⟩)).isSince (g.env.config a.endpoint)
        ((g.forward ⟨a, headers⟩).key (g.env.config a.endpoint))
        ((a.now : Int) - (g.env.config a.endpoint).windowMs) = true := by
  cases q with
  | own b =>
    simp only [Gateway.isBeside, Gateway.inWindow, Bool.and_eq_true, beq_iff_eq,
      decide_eq_true_eq] at h
    simp only [GuardedRequest.isSince, Bool.and_eq_true, beq_iff_eq, decide_eq_true_eq]
    exact ⟨h.1, rfl, h.2.1⟩
  | other e q =>
    simp only [Gateway.isBeside, GuardedRequest.isWithin, Bool.and_eq_true, beq_iff_eq] at h
    exact ⟨h.1, h.2.1⟩

theorem Gateway.countP_isBeside_le (g : Gateway) (headers : List String) (a : Arrival)
    (traffic : List (Sent Arrival)) : traffic.countP (g.isBeside ⟨a, headers⟩) ≤
      (g.requestsTo a.endpoint (withHeaders (fun _ => headers) traffic)).countP
        (·.isSince (g.env.config a.endpoint)
          ((g.forward ⟨a, headers⟩).key (g.env.config a.endpoint))
          ((a.now : Int) - (g.env.config a.endpoint).windowMs)) := by
  rw [withHeaders_const, Gateway.requestsTo, List.countP_map, List.countP_filter, List.countP_map]
  apply List.countP_mono_left
  intro q _ hq
  obtain ⟨hendpoint, hsince⟩ := g.isSince_of_isBeside hq
  have hkept : (q.map fun b => (⟨b, headers⟩ : ClientRequest)).arrival = q := by cases q <;> rfl
  simp only [Function.comp_apply, Bool.and_eq_true, beq_iff_eq]
  exact ⟨hsince, by rw [hkept, hendpoint]⟩

/-- Headers make a difference as soon as there is something to turn away. -/
theorem Gateway.HeaderIndependent.hasRoom {g : Gateway} {traffic : List (Sent Arrival)}
    (h : g.HeaderIndependent traffic) (horder : InOrder traffic) : g.HasRoom traffic := by
  rintro past a rest rfl headers
  let same := withHeaders fun _ => headers
  have hsplit : same (past ++ [.own a] ++ rest) =
      same past ++ [.own ⟨a, headers⟩] ++ same rest := by
    simp [same, withHeaders_const, Sent.map]
  -- The peer would get all its requests through with other headers, so it does with these.
  have hsame := h (same (past ++ [.own a] ++ rest)) _ (withHeaders_arrivals ..) (forged_arrivals _)
  rw [hsplit, g.answers_forged] at hsame
  have hadmits := g.admits_of_answers hsame
  have hlast : g.requestsTo a.endpoint (same past) ++ [g.forward ⟨a, headers⟩] =
      g.requestsTo a.endpoint (same (past ++ [.own a])) := by
    have hpast : same (past ++ [.own a]) = same past ++ [.own ⟨a, headers⟩] := by
      simp [same, withHeaders_const, Sent.map]
    rw [hpast]
    exact (g.requestsTo_append_same (same past) (.own ⟨a, headers⟩)).symm
  have hsequence : RequestSequence (g.env.config a.endpoint)
      (g.requestsTo a.endpoint (same past) ++ [g.forward ⟨a, headers⟩]) := by
    rw [hlast]
    apply InOrder.requestSequence
    rw [withHeaders_arrivals]
    exact horder.prefix
  have hcount := hsequence.admitsAfter_iff.mp hadmits
  rw [hlast] at hcount
  exact Nat.le_trans (g.countP_isBeside_le headers a _) hcount

/-- **The limits hold for a peer, whatever headers it sends, exactly when every bucket it
    could name always has room for all its requests.**  For times that go back this is still
    enough for the decisions, and no more than `max` requests get through exactly when no
    more are made. -/
theorem limits_hold_iff (g : Gateway) (traffic : List (Sent Arrival)) :
    (InOrder traffic →
      (g.HeaderIndependent traffic ∧ g.NeverExceeded traffic ↔ g.HasRoom traffic) ∧
      (g.HeaderIndependent traffic ↔ g.HasRoom traffic)) ∧
    (g.HasRoom traffic → g.HeaderIndependent traffic) ∧
    (g.NeverExceeded traffic ↔ g.WithinLimits traffic) := by
  refine ⟨?_, fun hroom => hroom.headerIndependent, g.neverExceeded_iff traffic⟩
  intro horder
  have hsame : g.HeaderIndependent traffic ↔ g.HasRoom traffic :=
    ⟨fun h => h.hasRoom horder, fun hroom => hroom.headerIndependent⟩
  refine ⟨⟨fun h => hsame.mp h.1, ?_⟩, hsame⟩
  intro hroom
  exact ⟨hroom.headerIndependent, (g.neverExceeded_iff traffic).mpr (hroom.withinLimits horder)⟩

/-- A peer of a gateway with the default limits. -/
def defaultGateway : Gateway := ⟨RateLimitEnv.default, "203.0.113.7", "172.18.0.2"⟩

/-- Eleven logins in half a minute, which nginx's own limit of ten a minute with a burst of
    five lets through. -/
def elevenLogins : List (Sent Arrival) :=
  [.own ⟨.login, 1000, "0.10"⟩, .own ⟨.login, 1000, "0.11"⟩, .own ⟨.login, 1000, "0.12"⟩,
    .own ⟨.login, 1000, "0.13"⟩, .own ⟨.login, 1000, "0.14"⟩, .own ⟨.login, 1000, "0.15"⟩,
    .own ⟨.login, 7000, "0.16"⟩, .own ⟨.login, 13000, "0.17"⟩, .own ⟨.login, 19000, "0.18"⟩,
    .own ⟨.login, 25000, "0.19"⟩, .own ⟨.login, 31000, "0.20"⟩]

/-- Another client has used up its ten logins; then the peer makes one. -/
def fullBucket : List (Sent Arrival) :=
  (List.range 10).map (fun i => .other .login
    ⟨some (proxyAddXForwardedFor [] "198.51.100.9"), some "172.18.0.2", 1000,
      "0." ++ toString i⟩) ++ [.own ⟨.login, 40000, "0.30"⟩]

theorem limits_hold_elevenLogins : InOrder elevenLogins ∧
    (defaultGateway.HeaderIndependent elevenLogins ↔ defaultGateway.HasRoom elevenLogins) :=
  have hinOrder : InOrder elevenLogins := ⟨by decide, by decide⟩
  ⟨hinOrder, ((limits_hold_iff defaultGateway elevenLogins).1 hinOrder).2⟩

/-- Without headers the eleventh login is turned away; with a header of its own in each,
    all eleven are admitted.  And a single login that names another client's full bucket
    is turned away. -/
theorem elevenLogins_exceed :
    (⟨.login, 31000, "0.20"⟩, false) ∈
      defaultGateway.answers (withHeaders (fun _ => []) elevenLogins) ∧
    (⟨.login, 31000, "0.20"⟩, true) ∈ defaultGateway.answers (forged elevenLogins) ∧
    ¬ defaultGateway.HeaderIndependent elevenLogins ∧
    ¬ defaultGateway.NeverExceeded elevenLogins ∧
    defaultGateway.answers (withHeaders (fun _ => ["198.51.100.9"]) fullBucket) =
      [(⟨.login, 40000, "0.30"⟩, false)] ∧
    ¬ defaultGateway.HeaderIndependent fullBucket := by
  have hrejected : (⟨.login, 31000, "0.20"⟩, false) ∈
      defaultGateway.answers (withHeaders (fun _ => []) elevenLogins) := by
    decide +kernel
  have hturned : defaultGateway.answers (withHeaders (fun _ => ["198.51.100.9"]) fullBucket) =
      [(⟨.login, 40000, "0.30"⟩, false)] := by
    decide +kernel
  have hforged := defaultGateway.answers_forged elevenLogins
  refine ⟨hrejected, ?_, ?_, ?_, hturned, ?_⟩
  · rw [hforged]
    decide
  · intro h
    have hsame := h _ _ (withHeaders_arrivals (fun _ => []) elevenLogins)
      (forged_arrivals elevenLogins)
    rw [hsame, hforged] at hrejected
    revert hrejected
    decide
  · intro h
    have hten := (defaultGateway.neverExceeded_iff elevenLogins).mp h .login 31000
    revert hten
    decide
  · intro h
    have hsame := h _ _ (withHeaders_arrivals (fun _ => ["198.51.100.9"]) fullBucket)
      (withHeaders_arrivals (fun _ => []) fullBucket)
    rw [hsame] at hturned
    revert hturned
    decide +kernel

end SeatReservation
