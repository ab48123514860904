import SeatReservation.Accounts
import SeatReservation.SessionOwnership
import SeatReservation.JsStrings

/-!
# Access tokens

`JwtService` signs a token for the user row a request has read, some statements
before the token is signed.  The guards of the other two services verify the
signature and the expiry of a token and look at nothing else, so what a token
says is fixed when its user is read: `Snapshots` relates every row a request
holds to the table, and `Signing.Honest` is what follows for the token.

`jsonwebtoken` is a parameter, with the shared secret inside.
-/

namespace SeatReservation

open Relational TransitionSystem JsStrings

/-! ### Signing and verifying -/

structure AccessTokenClaims extends AccessToken where
  iat : Nat
  exp : Nat
deriving DecidableEq, Repr

/-- `jwt.sign` and `jwt.verify` under the shared secret.  The time `verify` compares with
    `exp` is in seconds. -/
structure Jwt where
  sign : AccessTokenClaims → String
  verify : Nat → String → Option AccessTokenClaims

/-- What `jwt.sign` adds with `expiresIn`, at a time in milliseconds. -/
def AccessToken.claims (ttlSeconds clock : Nat) (token : AccessToken) : AccessTokenClaims :=
  { token with iat := clock / 1000, exp := clock / 1000 + ttlSeconds }

/-- `req.user`. -/
structure AuthenticatedUser where
  userId : Uuid
  email : String
  tokenVersion : Nat
  traceId : String
deriving DecidableEq, Repr

/-- The guard of the seat and the payment service, at a time in milliseconds, for the headers
    `authorization` and `x-request-id`. -/
def JwtAuthGuard.canActivate (jwt : Jwt) (now : Nat) (authorization requestId : Option String) :
    Except String AuthenticatedUser :=
  match authorization with
  | none => .error "missing_token"
  | some auth =>
      if startsWith auth "Bearer " then
        match jwt.verify (now / 1000) (trim (sliceFrom 7 auth)) with
        | some claims => .ok ⟨claims.sub, claims.email, claims.tv, requestId.getD ""⟩
        | none => .error "invalid_token"
      else .error "missing_token"

theorem JwtAuthGuard.canActivate_ok {jwt : Jwt} {now : Nat}
    {authorization requestId : Option String} {user : AuthenticatedUser}
    (h : JwtAuthGuard.canActivate jwt now authorization requestId = .ok user) :
    ∃ auth claims, authorization = some auth ∧
      jwt.verify (now / 1000) (trim (sliceFrom 7 auth)) = some claims ∧
      user = ⟨claims.sub, claims.email, claims.tv, requestId.getD ""⟩ := by
  unfold JwtAuthGuard.canActivate at h
  split at h
  · cases h
  · rename_i auth
    split at h
    · split at h
      · rename_i claims hverify
        cases h
        exact ⟨auth, claims, rfl, hverify, rfl⟩
      · cases h
    · cases h

/-! ### The tokens a run signs -/

/-- What a request showed for the token it gets. -/
inductive Credential where
  | password (email password : String)
  | refreshToken (raw : String)
deriving DecidableEq, Repr

structure Signing where
  token : AccessToken
  clock : Nat
  credential : Credential
deriving DecidableEq, Repr

/-- The token an action signs. -/
def signings (s : AuthService) : AuthAction → List Signing
  | .loginStep i _ =>
      match s.logins[i]? with
      | some ⟨email, password, .issued user _⟩ =>
          [⟨signAccessToken user, s.clock, .password email password⟩]
      | _ => []
  | .refreshStep i _ =>
      match s.refreshes[i]? with
      | some ⟨cookie, .accepted _ user _⟩ =>
          [⟨signAccessToken user, s.clock, .refreshToken (cookie.getD "")⟩]
      | _ => []
  | _ => []

/-- The user row a login has read. -/
@[simp] def LoginStage.user : LoginStage → Option UserRow
  | .found user | .verified user _ | .issued user _ => some user
  | .started | .done _ => none

/-- The user row a refresh has read. -/
@[simp] def RefreshStage.user : RefreshStage → Option UserRow
  | .rotating _ user _ _ | .accepted _ user _ => some user
  | .started | .found _ | .active _ | .grace _ | .reused _ | .done _ => none

/-- The tokens that requests in progress sign, if they come to it. -/
def AuthService.inPreparation (s : AuthService) : List AccessToken :=
  (s.logins.filterMap (·.stage.user) ++ s.refreshes.filterMap (·.stage.user)).map signAccessToken

/-! ### The rows requests have read -/

/-- A login has read the row of the account it names, and goes on with the right password
    only. -/
def Login.Knows (env : AuthEnv) (users : List UserRow) (l : Login) : Prop :=
  match l.stage with
  | .found user => OnFile users user ∧ user.email = env.toLowerCase l.email
  | .verified user _ | .issued user _ =>
      OnFile users user ∧ user.email = env.toLowerCase l.email ∧
        env.verifyPassword user.passwordHash l.password = true
  | .started | .done _ => True

/-- Every row a request holds is that of an account, the one its credential is about. -/
structure Snapshots (env : AuthEnv) (s : AuthService) : Prop where
  logins : ∀ l ∈ s.logins, l.Knows env s.db.users
  refreshes : ∀ r ∈ s.refreshes, ∀ user, r.stage.user = some user → OnFile s.db.users user
  owners : ∀ r ∈ s.refreshes, AnswersOwner env s.db.refreshTokens r

theorem Login.Knows.onFile {env : AuthEnv} {users : List UserRow} {l : Login}
    (h : l.Knows env users) {user : UserRow} (huser : l.stage.user = some user) :
    OnFile users user := by
  obtain ⟨email, password, stage⟩ := l
  cases stage with
  | started => simp at huser
  | found u =>
    cases huser
    exact h.1
  | verified u expiresAt =>
    cases huser
    exact h.1
  | issued u raw =>
    cases huser
    exact h.1
  | done response => simp at huser

theorem Login.Knows.step {env : AuthEnv} {s : AuthService} {l : Login}
    (h : l.Knows env s.db.users) (a : AuthAction) : l.Knows env (authStep env s a).db.users := by
  obtain ⟨email, password, stage⟩ := l
  cases stage with
  | started => trivial
  | found user => exact ⟨h.1.step env a, h.2⟩
  | verified user expiresAt => exact ⟨h.1.step env a, h.2⟩
  | issued user raw => exact ⟨h.1.step env a, h.2⟩
  | done response => trivial

theorem findByEmail_some {env : AuthEnv} {email : String} {db : AuthDb} {user : UserRow}
    (h : findByEmail env email db = some user) :
    user ∈ db.users ∧ user.email = env.toLowerCase email :=
  ⟨List.mem_of_find?_eq_some h, by simpa using List.find?_some h⟩

/-- One step of a login. -/
theorem Login.Knows.loginStep {env : AuthEnv} {clock : Nat} {d : TokenDraw} {l : Login}
    {db : AuthDb} (h : l.Knows env db.users) :
    (loginStep env clock d l db).1.Knows env db.users := by
  obtain ⟨email, password, stage⟩ := l
  unfold SeatReservation.loginStep
  cases stage with
  | started =>
    dsimp only
    split
    · trivial
    · rename_i user hfind
      obtain ⟨hmem, hemail⟩ := findByEmail_some hfind
      exact ⟨⟨user, hmem, .refl user⟩, hemail⟩
  | found user =>
    dsimp only
    split
    · rename_i hpassword
      exact ⟨h.1, h.2, hpassword⟩
    · trivial
  | verified user expiresAt =>
    dsimp only
    split
    · exact h
    · trivial
  | issued user raw => trivial
  | done response => exact h

/-- Everything a step of a refresh can do to its stage. -/
inductive RefreshStage.Next (env : AuthEnv) (clock : Nat) (d : TokenDraw) (db : AuthDb) :
    RefreshStage → RefreshStage → Prop where
  | ended (stage : RefreshStage) (response : AuthResponse) :
      Next env clock d db stage (.done response)
  | found (row : RefreshTokenRow) (hmem : row ∈ db.refreshTokens) :
      Next env clock d db .started (.found row)
  | active (row : RefreshTokenRow) (hactive : row.revokedAt = none) :
      Next env clock d db (.found row) (.active row)
  | grace (row : RefreshTokenRow) : Next env clock d db (.found row) (.grace row)
  | reused (row : RefreshTokenRow) : Next env clock d db (.found row) (.reused row)
  | rotating (row : RefreshTokenRow) (user : UserRow) (hmem : user ∈ db.users) :
      Next env clock d db (.active row)
        (.rotating row user (clock + env.rtTtlSeconds * 1000) (clock + env.rtGraceSeconds * 1000))
  | rotated (row : RefreshTokenRow) (user : UserRow) (expiresAt graceUntil : Nat) :
      Next env clock d db (.rotating row user expiresAt graceUntil)
        (.accepted row user (some d.raw))
  | inGrace (row : RefreshTokenRow) (user : UserRow) (hmem : user ∈ db.users) :
      Next env clock d db (.grace row) (.accepted row user none)

theorem refreshStep_next (env : AuthEnv) (clock : Nat) (d : TokenDraw) (r : Refresh)
    (db : AuthDb) : r.stage.Next env clock d db (refreshStep env clock d r db).1.stage := by
  obtain ⟨cookie, stage⟩ := r
  unfold refreshStep
  cases stage with
  | started =>
    dsimp only
    split
    · exact .ended _ _
    · split
      · exact .ended _ _
      · rename_i hfind
        exact .found _ (List.mem_of_find?_eq_some hfind)
  | found row =>
    dsimp only [branch]
    split
    · exact .ended _ _
    · split
      · rename_i hactive
        exact .active row (by simpa using hactive)
      · split
        · exact .grace row
        · exact .reused row
  | active row =>
    dsimp only
    split
    · exact .ended _ _
    · rename_i hfind
      exact .rotating row _ (List.mem_of_find?_eq_some hfind)
  | rotating row user expiresAt graceUntil =>
    dsimp only
    split
    · exact .rotated row user expiresAt graceUntil
    · exact .ended _ _
  | grace row =>
    dsimp only
    split
    · exact .ended _ _
    · rename_i hfind
      exact .inGrace row _ (List.mem_of_find?_eq_some hfind)
  | accepted row user cookie => exact .ended _ _
  | reused row => exact .ended _ _
  | done response => exact .ended _ _

/-- A refresh reads its user when it starts to rotate or is in its grace window. -/
theorem refreshStep_user {env : AuthEnv} {clock : Nat} {d : TokenDraw} {r : Refresh} {db : AuthDb}
    {user : UserRow} (h : (refreshStep env clock d r db).1.stage.user = some user) :
    r.stage.user = some user ∨ user ∈ db.users := by
  have hnext := refreshStep_next env clock d r db
  generalize (refreshStep env clock d r db).1.stage = after at h hnext
  generalize r.stage = before at hnext ⊢
  cases hnext with
  | ended before response => simp at h
  | found row hmem => simp at h
  | active row hactive => simp at h
  | grace row => simp at h
  | reused row => simp at h
  | rotating row u hmem =>
    cases h
    exact .inr hmem
  | rotated row u expiresAt graceUntil => exact .inl h
  | inGrace row u hmem =>
    cases h
    exact .inr hmem

theorem Snapshots.step {env : AuthEnv} {s : AuthService} (h : Snapshots env s) (a : AuthAction) :
    Snapshots env (authStep env s a) := by
  constructor
  · refine forall_logins_step (fun l => l.Knows env (authStep env s a).db.users) h.logins ?_ ?_ ?_
    · intro l hl
      exact hl.step a
    · intro email password
      trivial
    · intro i d l _ _ hl
      exact hl.loginStep.step a
  · refine forall_refreshes_step
      (fun r => ∀ user, r.stage.user = some user → OnFile (authStep env s a).db.users user)
      h.refreshes ?_ ?_ ?_
    · intro r hr user huser
      exact (hr user huser).step env a
    · intro cookie _ user huser
      simp at huser
    · intro i d r _ _ hr user huser
      rcases refreshStep_user huser with huser | hmem
      · exact (hr user huser).step env a
      · exact OnFile.step ⟨user, hmem, .refl user⟩ env a
  · refine forall_refreshes_step (fun r => AnswersOwner env (authStep env s a).db.refreshTokens r)
      h.owners ?_ ?_ ?_
    · intro r hr
      exact hr.step a
    · intro cookie _
      trivial
    · intro i d r _ _ hr
      exact hr.refreshStep.step a

theorem AuthService.Seeded.snapshots {s : AuthService} (h : s.Seeded) (env : AuthEnv) :
    Snapshots env s := by
  constructor
  · simp [h.logins]
  · simp [h.refreshes]
  · simp [h.refreshes]

/-! ### What a signed token says -/

/-- The credential is one of this user. -/
def Credential.Of (env : AuthEnv) (db : AuthDb) (u : UserRow) : Credential → Prop
  | .password email text =>
      u.email = env.toLowerCase email ∧ env.verifyPassword u.passwordHash text = true
  | .refreshToken raw => ∃ t ∈ db.refreshTokens, t.userId = u.id ∧ t.tokenHash = env.sha256 raw

/-- The token is about the user whose credential was shown, and is not ahead of the table. -/
def Signing.Honest (env : AuthEnv) (db : AuthDb) (g : Signing) : Prop :=
  ∃ u ∈ db.users, u.id = g.token.sub ∧ u.email = g.token.email ∧ g.token.tv ≤ u.tokenVersion ∧
    g.credential.Of env db u

theorem Credential.Of.step {env : AuthEnv} {s : AuthService} {u u' : UserRow} {c : Credential}
    (h : c.Of env s.db u) (hbecomes : u.Becomes u') (a : AuthAction) :
    c.Of env (authStep env s a).db u' := by
  cases c with
  | password email password =>
    unfold Credential.Of at h ⊢
    rwa [hbecomes.email, hbecomes.passwordHash]
  | refreshToken raw =>
    obtain ⟨t, ht, huser, hhash⟩ := h
    obtain ⟨t', ht', hlater⟩ := (authStep_effect env s a).becomes ht
    exact ⟨t', ht', (hlater.userId.trans huser).trans hbecomes.id.symm,
      hlater.tokenHash.trans hhash⟩

theorem Signing.Honest.step {env : AuthEnv} {s : AuthService} {g : Signing}
    (h : g.Honest env s.db) (a : AuthAction) : g.Honest env (authStep env s a).db := by
  obtain ⟨u, hu, hid, hemail, htv, hcredential⟩ := h
  refine ⟨_, (authStep_userEffect env s a).bumps hu, hid, hemail, ?_,
    hcredential.step (u.becomes_bump _) a⟩
  exact htv.trans (Nat.le_add_right _ _)

/-- What a signing step signs, by the kind of the request. -/
theorem mem_signings {s : AuthService} {a : AuthAction} {g : Signing} (h : g ∈ signings s a) :
    g.clock = s.clock ∧
      ((∃ email password user raw, ⟨email, password, .issued user raw⟩ ∈ s.logins ∧
        g = ⟨signAccessToken user, s.clock, .password email password⟩) ∨
      ∃ cookie row user newCookie, ⟨cookie, .accepted row user newCookie⟩ ∈ s.refreshes ∧
        g = ⟨signAccessToken user, s.clock, .refreshToken (cookie.getD "")⟩) := by
  unfold signings at h
  split at h
  · split at h
    · rename_i email password user raw hget
      rw [List.mem_singleton.mp h]
      exact ⟨rfl, .inl ⟨email, password, user, raw, List.mem_of_getElem? hget, rfl⟩⟩
    · simp at h
  · split at h
    · rename_i cookie row user newCookie hget
      rw [List.mem_singleton.mp h]
      exact ⟨rfl, .inr ⟨cookie, row, user, newCookie, List.mem_of_getElem? hget, rfl⟩⟩
    · simp at h
  · simp at h

theorem Snapshots.honest {env : AuthEnv} {s : AuthService} (h : Snapshots env s) {a : AuthAction}
    {g : Signing} (hg : g ∈ signings s a) : g.Honest env s.db := by
  obtain ⟨-, ⟨email, password, user, raw, hmem, rfl⟩ |
    ⟨cookie, row, user, newCookie, hmem, rfl⟩⟩ := mem_signings hg
  · obtain ⟨⟨u, hu, hbecomes⟩, hemail, hpassword⟩ := h.logins _ hmem
    refine ⟨u, hu, hbecomes.id, hbecomes.email, hbecomes.tokenVersion, ?_, ?_⟩
    · rw [hbecomes.email, hemail]
    · rw [hbecomes.passwordHash, hpassword]
  · obtain ⟨u, hu, hbecomes⟩ := h.refreshes _ hmem user rfl
    obtain ⟨⟨raw, rfl, hhash, t, ht, hread⟩, howner⟩ := h.owners _ hmem
    refine ⟨u, hu, hbecomes.id, hbecomes.email, hbecomes.tokenVersion, t, ht, ?_, ?_⟩
    · rw [hread.userId, hbecomes.id, howner]
    · rw [hread.tokenHash, hhash]
      rfl

/-- Every token signed by a run is honest when the run ends. -/
structure AllHonest (env : AuthEnv) (s : AuthService) (signed : List Signing) : Prop where
  snapshots : Snapshots env s
  honest : ∀ g ∈ signed, g.Honest env s.db

theorem AllHonest.step {env : AuthEnv} {s : AuthService} {signed : List Signing}
    (h : AllHonest env s signed) (a : AuthAction) :
    AllHonest env (authStep env s a) (signed ++ signings s a) := by
  refine ⟨h.snapshots.step a, ?_⟩
  intro g hg
  rcases List.mem_append.mp hg with hg | hg
  · exact (h.honest g hg).step a
  · exact (h.snapshots.honest hg).step a

theorem AuthService.Seeded.allHonest {s : AuthService} (h : s.Seeded) (env : AuthEnv)
    (as : List AuthAction) :
    AllHonest env (exec (authStep env) s as) (outputs (authStep env) signings s as) := by
  have hstart : AllHonest env s [] := ⟨h.snapshots env, by simp⟩
  exact exec_outputs_invariant' (AllHonest env) (fun _ _ a h => h.step a) hstart as

/-! ### Token versions -/

theorem Snapshots.inPreparation {env : AuthEnv} {s : AuthService} (h : Snapshots env s)
    {token : AccessToken} (htoken : token ∈ s.inPreparation) :
    ∃ u ∈ s.db.users, u.id = token.sub ∧ u.email = token.email ∧ token.tv ≤ u.tokenVersion := by
  obtain ⟨user, huser, rfl⟩ := List.mem_map.mp htoken
  have hfile : OnFile s.db.users user := by
    rcases List.mem_append.mp huser with huser | huser
    · obtain ⟨l, hl, hread⟩ := List.mem_filterMap.mp huser
      exact (h.logins l hl).onFile hread
    · obtain ⟨r, hr, hread⟩ := List.mem_filterMap.mp huser
      exact h.refreshes r hr user hread
  obtain ⟨u, hu, hbecomes⟩ := hfile
  exact ⟨u, hu, hbecomes.id, hbecomes.email, hbecomes.tokenVersion⟩

/-- **A logout outdates every token.**  However requests interleave, the version of a token
    that has been signed, or that a request in progress is going to sign, is behind the version
    of its user by at least the number of logouts of the user that complete from then on. -/
theorem logout_outdates_tokens (env : AuthEnv) {s : AuthService} (hseed : s.Seeded)
    (as bs : List AuthAction) {token : AccessToken}
    (htoken : token ∈ (outputs (authStep env) signings s as).map (·.token) ++
      (exec (authStep env) s as).inPreparation) :
    ∃ u ∈ (exec (authStep env) s (as ++ bs)).db.users, u.id = token.sub ∧ u.email = token.email ∧
      token.tv + (outputs (authStep env) bumped (exec (authStep env) s as) bs).count token.sub ≤
        u.tokenVersion := by
  have hall := hseed.allHonest env as
  have hbefore : ∃ u ∈ (exec (authStep env) s as).db.users, u.id = token.sub ∧
      u.email = token.email ∧ token.tv ≤ u.tokenVersion := by
    rcases List.mem_append.mp htoken with hsigned | hprepared
    · obtain ⟨g, hg, rfl⟩ := List.mem_map.mp hsigned
      obtain ⟨u, hu, hid, hemail, htv, -⟩ := hall.honest g hg
      exact ⟨u, hu, hid, hemail, htv⟩
    · exact hall.snapshots.inPreparation hprepared
  obtain ⟨u, hu, hid, hemail, htv⟩ := hbefore
  have hafter := user_after_run env hu bs
  rw [exec_append]
  refine ⟨_, hafter, hid, hemail, ?_⟩
  rw [hid]
  exact Nat.add_le_add_right htv _

/-- Alice's token is one version behind after she has logged out everywhere. -/
theorem logout_outdates_tokens_alice :
    ∃ u ∈ (exec (authStep defaultAuthEnv) emptyAuth
        (registerAlice :: loginRun 0 drawA ++ logoutRun 0 rawA true)).db.users,
      u.id = 101 ∧ u.email = "alice@example.com" ∧ 0 + 1 ≤ u.tokenVersion :=
  @logout_outdates_tokens defaultAuthEnv emptyAuth emptyAuth_seeded
    (registerAlice :: loginRun 0 drawA) (logoutRun 0 rawA true) ⟨101, "alice@example.com", 0⟩
    (by decide +kernel)

end SeatReservation
