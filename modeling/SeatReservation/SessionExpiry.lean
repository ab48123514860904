import SeatReservation.SessionOwnership

/-!
# When sessions expire

A refresh token is accepted for the lifetime of a refresh token, counted from the
login or the rotation that gave it out (`tokens_expire`).  A rotation starts the
lifetime anew, it does not take over the expiry of the token it replaces, so a
session ends when it has not been used for that long and not at any fixed time
after its login (`session_outlives_login`).

The times are kept next to the service: when each token was given out, and for
each refresh when it compared the expiry of its token with the clock.
-/

namespace SeatReservation

open Relational TransitionSystem

/-! ### Times -/

/-- A token given out, and when. -/
structure Issue where
  time : Nat
  token : IssuedToken
deriving DecidableEq, Repr

/-- `checks` has an entry for each refresh of the service. -/
structure TimedService where
  service : AuthService
  issues : List Issue
  checks : List (Option Nat)

/-- The check of a refresh after one step of its handler. -/
def checkAfter (clock : Nat) (r : Refresh) (check : Option Nat) : Option Nat :=
  match r.stage with
  | .found _ => some clock
  | _ => check

def checksAfter (s : TimedService) : AuthAction → List (Option Nat)
  | .refresh _ => s.checks ++ [none]
  | .refreshStep i _ =>
      match s.service.refreshes[i]? with
      | some r => s.checks.modify i (checkAfter s.service.clock r)
      | none => s.checks
  | .refreshLost i => s.checks.eraseIdx i
  | _ => s.checks

def timedStep (env : AuthEnv) (s : TimedService) (a : AuthAction) : TimedService where
  service := authStep env s.service a
  issues := s.issues ++ (givenOut env s.service a).map fun token => ⟨s.service.clock, token⟩
  checks := checksAfter s a

def TimedService.start (s : AuthService) : TimedService := ⟨s, [], []⟩

/-- The times are only kept, nothing depends on them. -/
theorem exec_timedStep_service (env : AuthEnv) (s : TimedService) (as : List AuthAction) :
    (exec (timedStep env) s as).service = exec (authStep env) s.service as := by
  induction as generalizing s with
  | nil => rfl
  | cons a as ih => exact ih (timedStep env s a)

/-! ### Expiry dates -/

/-- The lifetime of a refresh token in milliseconds. -/
def AuthEnv.lifetime (env : AuthEnv) : Nat := env.rtTtlSeconds * 1000

/-- A login under way stores an expiry date that is at most a lifetime away. -/
def Login.ExpiresBy (l : Login) (limit : Nat) : Prop :=
  match l.stage with
  | .verified _ expiresAt => expiresAt ≤ limit
  | _ => True

def Refresh.ExpiresBy (r : Refresh) (limit : Nat) : Prop :=
  match r.stage with
  | .rotating _ _ expiresAt _ => expiresAt ≤ limit
  | _ => True

/-- Nothing lives longer than a lifetime. -/
structure Dated (env : AuthEnv) (s : TimedService) : Prop where
  logins : ∀ l ∈ s.service.logins, l.ExpiresBy (s.service.clock + env.lifetime)
  refreshes : ∀ r ∈ s.service.refreshes, r.ExpiresBy (s.service.clock + env.lifetime)
  issues : ∀ n ∈ s.issues, n.token.row.expiresAt ≤ n.time + env.lifetime

theorem Login.ExpiresBy.mono {l : Login} {limit limit' : Nat} (h : l.ExpiresBy limit)
    (hle : limit ≤ limit') : l.ExpiresBy limit' := by
  obtain ⟨email, password, stage⟩ := l
  cases stage with
  | verified user expiresAt => exact Nat.le_trans h hle
  | _ => trivial

theorem Refresh.ExpiresBy.mono {r : Refresh} {limit limit' : Nat} (h : r.ExpiresBy limit)
    (hle : limit ≤ limit') : r.ExpiresBy limit' := by
  obtain ⟨cookie, stage⟩ := r
  cases stage with
  | rotating row user expiresAt graceUntil => exact Nat.le_trans h hle
  | _ => trivial

theorem loginStep_expiresBy (env : AuthEnv) (clock : Nat) (d : TokenDraw) (l : Login)
    (db : AuthDb) : (loginStep env clock d l db).1.ExpiresBy (clock + env.lifetime) := by
  obtain ⟨email, password, stage⟩ := l
  unfold loginStep
  cases stage with
  | started =>
    dsimp only
    split
    · trivial
    · trivial
  | found user =>
    dsimp only
    split
    · exact Nat.le_refl _
    · trivial
  | verified user expiresAt =>
    dsimp only
    split
    · trivial
    · trivial
  | issued user raw => trivial
  | done response => trivial

theorem refreshStep_expiresBy (env : AuthEnv) (clock : Nat) (d : TokenDraw) (r : Refresh)
    (db : AuthDb) : (refreshStep env clock d r db).1.ExpiresBy (clock + env.lifetime) := by
  obtain ⟨cookie, stage⟩ := r
  unfold refreshStep
  cases stage with
  | started =>
    dsimp only
    split
    · trivial
    · split
      · trivial
      · trivial
  | found row =>
    dsimp only [branch]
    split
    · trivial
    · split
      · trivial
      · split
        · trivial
        · trivial
  | active row =>
    dsimp only
    split
    · trivial
    · exact Nat.le_refl _
  | rotating row user expiresAt graceUntil =>
    dsimp only
    split
    · trivial
    · trivial
  | grace row =>
    dsimp only
    split
    · trivial
    · trivial
  | accepted row user cookie => trivial
  | reused row => trivial
  | done response => trivial

/-- A token lives for at most a lifetime from when it is given out. -/
theorem Dated.givenOut {env : AuthEnv} {s : TimedService} (h : Dated env s) {a : AuthAction}
    {token : IssuedToken} (htoken : token ∈ givenOut env s.service a) :
    token.row.expiresAt ≤ s.service.clock + env.lifetime := by
  cases GivenOut.of_mem htoken with
  | login i d email password user expiresAt hget htokens =>
    exact h.logins _ (List.mem_of_getElem? hget)
  | rotation i d cookie row current user expiresAt graceUntil hget hmem hfree htokens =>
    exact h.refreshes _ (List.mem_of_getElem? hget)

theorem Dated.step {env : AuthEnv} {s : TimedService} (h : Dated env s) (a : AuthAction) :
    Dated env (timedStep env s a) := by
  have hclock : s.service.clock + env.lifetime ≤
      (authStep env s.service a).clock + env.lifetime :=
    Nat.add_le_add_right (clock_le_step env s.service a) _
  constructor
  · refine forall_logins_step (Login.ExpiresBy · _) h.logins ?_ ?_ ?_
    · intro l hl
      exact hl.mono hclock
    · intro email password
      trivial
    · intro i d l _ _ _
      exact (loginStep_expiresBy env s.service.clock d l s.service.db).mono hclock
  · refine forall_refreshes_step (Refresh.ExpiresBy · _) h.refreshes ?_ ?_ ?_
    · intro r hr
      exact hr.mono hclock
    · intro cookie _
      trivial
    · intro i d r _ _ _
      exact (refreshStep_expiresBy env s.service.clock d r s.service.db).mono hclock
  · intro n hn
    rcases List.mem_append.mp hn with hn | hn
    · exact h.issues n hn
    · obtain ⟨token, htoken, rfl⟩ := List.mem_map.mp hn
      exact h.givenOut htoken

/-! ### Checks -/

/-- The refresh has been answered with an access token. -/
def Refresh.succeeded (r : Refresh) : Bool :=
  match r.stage with
  | .done (.ok ..) => true
  | _ => false

theorem Refresh.stage_of_succeeded {r : Refresh} (h : r.succeeded = true) :
    ∃ accessToken userId cookie, r.stage = .done (.ok accessToken userId cookie) := by
  unfold Refresh.succeeded at h
  split at h
  · exact ⟨_, _, _, by assumption⟩
  · cases h

/-- The refresh compared the expiry of its row with the clock, and was in time. -/
def CheckedInTime (row : RefreshTokenRow) (check : Option Nat) : Prop :=
  ∃ time, check = some time ∧ time < row.expiresAt

/-- A refresh past its check was in time. -/
def AnsweredInTime (env : AuthEnv) (tokens : List RefreshTokenRow) (r : Refresh)
    (check : Option Nat) : Prop :=
  match r.stage with
  | .found row => RowPresented env tokens r.cookie row
  | .active row | .rotating row .. | .grace row | .accepted row .. =>
      RowPresented env tokens r.cookie row ∧ CheckedInTime row check
  | .done (.ok ..) => ∃ row, RowPresented env tokens r.cookie row ∧ CheckedInTime row check
  | .started | .reused _ | .done _ => True

theorem AnsweredInTime.step {env : AuthEnv} {s : AuthService} {r : Refresh} {check : Option Nat}
    (h : AnsweredInTime env s.db.refreshTokens r check) (a : AuthAction) :
    AnsweredInTime env (authStep env s a).db.refreshTokens r check := by
  obtain ⟨cookie, stage⟩ := r
  cases stage with
  | started => trivial
  | found row => exact RowPresented.step h a
  | active row => exact ⟨h.1.step a, h.2⟩
  | rotating row user expiresAt graceUntil => exact ⟨h.1.step a, h.2⟩
  | grace row => exact ⟨h.1.step a, h.2⟩
  | accepted row user cookie => exact ⟨h.1.step a, h.2⟩
  | reused row => trivial
  | done response =>
    cases response with
    | ok accessToken userId cookie =>
      obtain ⟨row, hrow, hcheck⟩ := h
      exact ⟨row, hrow.step a, hcheck⟩
    | unauthorized error => trivial
    | internalError => trivial

theorem AnsweredInTime.refreshStep {env : AuthEnv} {r : Refresh} {db : AuthDb} {check : Option Nat}
    (h : AnsweredInTime env db.refreshTokens r check) (clock : Nat) (d : TokenDraw) :
    AnsweredInTime env db.refreshTokens (refreshStep env clock d r db).1
      (checkAfter clock r check) := by
  obtain ⟨cookie, stage⟩ := r
  unfold SeatReservation.refreshStep
  cases stage with
  | started =>
    dsimp only
    split
    · trivial
    · rename_i raw hpresented
      split
      · trivial
      · rename_i row hfind
        exact RowPresented.of_findByRaw hpresented hfind
  | found row =>
    dsimp only [branch]
    split
    · trivial
    · rename_i hexpired
      have hcheck : CheckedInTime row (some clock) := by
        refine ⟨clock, rfl, ?_⟩
        simpa [RefreshTokenRow.expired] using hexpired
      split
      · exact ⟨h, hcheck⟩
      · split
        · exact ⟨h, hcheck⟩
        · trivial
  | active row =>
    dsimp only
    split
    · trivial
    · exact h
  | rotating row user expiresAt graceUntil =>
    dsimp only
    split
    · exact h
    · trivial
  | grace row =>
    dsimp only
    split
    · trivial
    · exact h
  | accepted row user cookie => exact ⟨row, h⟩
  | reused row => trivial
  | done response => exact h

/-! ### Refreshes and their checks, in parallel -/

theorem forall₂_append {α β : Type*} {R : α → β → Prop} {as : List α} {bs : List β}
    (h : List.Forall₂ R as bs) {a : α} {b : β} (hab : R a b) :
    List.Forall₂ R (as ++ [a]) (bs ++ [b]) :=
  List.rel_append h (.cons hab .nil)

theorem forall₂_eraseIdx {α β : Type*} {R : α → β → Prop} {as : List α} {bs : List β}
    (h : List.Forall₂ R as bs) (i : Nat) : List.Forall₂ R (as.eraseIdx i) (bs.eraseIdx i) := by
  induction h generalizing i with
  | nil => exact .nil
  | cons hab hrest ih =>
    cases i with
    | zero => exact hrest
    | succ i => exact .cons hab (ih i)

theorem forall₂_modify {α β : Type*} {R : α → β → Prop} {as : List α} {bs : List β}
    (h : List.Forall₂ R as bs) {i : Nat} {a a' : α} {f : β → β} (hget : as[i]? = some a)
    (hf : ∀ b, R a b → R a' (f b)) : List.Forall₂ R (as.set i a') (bs.modify i f) := by
  induction h generalizing i with
  | nil => simp at hget
  | @cons a₀ b as bs hab hrest ih =>
    cases i with
    | zero =>
      obtain rfl : a₀ = a := by simpa using hget
      exact .cons (hf b hab) hrest
    | succ i => exact .cons hab (ih (by simpa using hget))

/-- What holds of each refresh and its check. -/
def AllAnsweredInTime (env : AuthEnv) (s : TimedService) : Prop :=
  List.Forall₂ (AnsweredInTime env s.service.db.refreshTokens) s.service.refreshes s.checks

theorem AllAnsweredInTime.step {env : AuthEnv} {s : TimedService} (h : AllAnsweredInTime env s)
    (a : AuthAction) : AllAnsweredInTime env (timedStep env s a) := by
  have hold : List.Forall₂ (AnsweredInTime env (authStep env s.service a).db.refreshTokens)
      s.service.refreshes s.checks := h.imp fun r check hr => hr.step a
  unfold AllAnsweredInTime timedStep
  cases a with
  | refresh cookie => exact forall₂_append hold trivial
  | refreshStep i d =>
    cases hget : s.service.refreshes[i]? with
    | none =>
      have hrefreshes : (authStep env s.service (.refreshStep i d)).refreshes =
          s.service.refreshes := by simp only [authStep, hget]
      simp only [checksAfter, hget, hrefreshes]
      exact hold
    | some r =>
      have hrefreshes : (authStep env s.service (.refreshStep i d)).refreshes =
          s.service.refreshes.set i (refreshStep env s.service.clock d r s.service.db).1 := by
        simp only [authStep, hget]
      have hmoved := forall₂_modify h hget fun check (hr : AnsweredInTime env _ r check) =>
        hr.refreshStep s.service.clock d
      simp only [checksAfter, hget, hrefreshes]
      exact hmoved.imp fun r check hr => hr.step (.refreshStep i d)
  | refreshLost i => exact forall₂_eraseIdx hold i
  | loginStep i d =>
    have hrefreshes : (authStep env s.service (.loginStep i d)).refreshes =
        s.service.refreshes := by
      simp only [authStep]
      split <;> rfl
    simp only [checksAfter, hrefreshes]
    exact hold
  | logoutStep i =>
    have hrefreshes : (authStep env s.service (.logoutStep i)).refreshes =
        s.service.refreshes := by
      simp only [authStep]
      split <;> rfl
    simp only [checksAfter, hrefreshes]
    exact hold
  | advance ms => exact hold
  | register email passwordHash id => exact hold
  | login email password => exact hold
  | loginLost i => exact hold
  | logout cookie all => exact hold
  | logoutLost i => exact hold

/-! ### Every run -/

/-- The refresh was called with the token issued. -/
def Issue.PresentedBy (env : AuthEnv) (n : Issue) (r : Refresh) : Prop :=
  r.cookie.map env.sha256 = some n.token.row.tokenHash

instance (env : AuthEnv) (n : Issue) (r : Refresh) : Decidable (n.PresentedBy env r) := by
  unfold Issue.PresentedBy
  infer_instance

/-- **No refresh succeeds a lifetime after its token was given out**: the refresh was
    called with a token that was given out, and its check was made within a lifetime. -/
def TokensExpire (env : AuthEnv) (s : TimedService) : Prop :=
  List.Forall₂ (fun r check => r.succeeded = true →
    (∃ n ∈ s.issues, n.PresentedBy env r) ∧
    ∀ n ∈ s.issues, n.PresentedBy env r → ∃ time, check = some time ∧ time < n.time + env.lifetime)
    s.service.refreshes s.checks

/-- No refresh succeeds a lifetime after the login that started its session. -/
def SessionsExpire (env : AuthEnv) (s : TimedService) : Prop :=
  List.Forall₂ (fun r check => r.succeeded = true →
    ∀ n ∈ s.issues, n.PresentedBy env r →
      ∀ login ∈ s.issues, login.token.Starts n.token.row.familyId →
        ∀ time ∈ check, time ≤ login.time + env.lifetime)
    s.service.refreshes s.checks

structure ExpiryKept (env : AuthEnv) (s : TimedService) : Prop where
  recorded : TokensRecorded env s.service (s.issues.map (·.token))
  dated : Dated env s
  inTime : AllAnsweredInTime env s

theorem ExpiryKept.step {env : AuthEnv} {s : TimedService} (h : ExpiryKept env s)
    (a : AuthAction) : ExpiryKept env (timedStep env s a) := by
  refine ⟨?_, h.dated.step a, h.inTime.step a⟩
  have hrecorded := h.recorded.step a
  simpa [timedStep, Function.comp_def] using hrecorded

theorem ExpiryKept.tokensExpire {env : AuthEnv} {s : TimedService} (h : ExpiryKept env s) :
    TokensExpire env s := by
  refine h.inTime.imp fun r check hr hsucceeded => ?_
  obtain ⟨accessToken, userId, newCookie, hstage⟩ := r.stage_of_succeeded hsucceeded
  rw [AnsweredInTime, hstage] at hr
  obtain ⟨row, ⟨raw, hcookie, hhash, t, ht, hrow⟩, time, hcheck, htime⟩ := hr
  constructor
  · obtain ⟨token, htoken, hbecomes⟩ := h.recorded.given t ht
    obtain ⟨n, hn, rfl⟩ := List.mem_map.mp htoken
    refine ⟨n, hn, ?_⟩
    simp [Issue.PresentedBy, hcookie, ← hhash, ← hbecomes.tokenHash, hrow.tokenHash]
  · intro n hn hpresented
    refine ⟨time, hcheck, ?_⟩
    have hsame : n.token.row.tokenHash = t.tokenHash := by
      simp only [Issue.PresentedBy, hcookie, Option.map_some, Option.some.injEq] at hpresented
      rw [← hpresented, ← hhash, hrow.tokenHash]
    have hbecomes := h.recorded.becomes_of_hash ht (List.mem_map_of_mem hn) hsame
    have hexpires := h.dated.issues n hn
    rw [← hbecomes.expiresAt, hrow.expiresAt] at hexpires
    omega

/-- **Tokens expire**, in every run. -/
theorem tokens_expire (env : AuthEnv) {s : AuthService} (hseed : s.Seeded) (as : List AuthAction) :
    TokensExpire env (exec (timedStep env) (.start s) as) := by
  have hstart : ExpiryKept env (.start s) := by
    refine ⟨hseed.recorded env, ⟨?_, ?_, ?_⟩, ?_⟩
    all_goals simp [TimedService.start, AllAnsweredInTime, hseed.logins, hseed.refreshes]
  exact (exec_invariant' (ExpiryKept env) (fun _ a h => h.step a) hstart as).tokensExpire

instance (login : IssuedToken) (familyId : Uuid) : Decidable (login.Starts familyId) := by
  unfold IssuedToken.Starts
  infer_instance

instance (env : AuthEnv) (s : TimedService) : Decidable (SessionsExpire env s) := by
  unfold SessionsExpire
  infer_instance

/-- A login, a rotation a second before its token expires, and a refresh with the new
    token two seconds later. -/
def lateRotation : List AuthAction :=
  registerAlice :: loginRun 0 drawA ++ .advance 7775999000 :: refreshRun 0 rawA drawB 5 ++
    .advance 2000 :: refreshRun 1 rawB drawC 5

/-- The session is still alive a lifetime after its login. -/
theorem session_outlives_login :
    emptyAuth.Seeded ∧ ¬ SessionsExpire defaultAuthEnv
      (exec (timedStep defaultAuthEnv) (.start emptyAuth) lateRotation) :=
  ⟨emptyAuth_seeded, by decide +kernel⟩

theorem tokens_expire_lateRotation :
    TokensExpire defaultAuthEnv
      (exec (timedStep defaultAuthEnv) (.start emptyAuth) lateRotation) :=
  tokens_expire defaultAuthEnv emptyAuth_seeded lateRotation

end SeatReservation
