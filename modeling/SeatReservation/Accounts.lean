import SeatReservation.SessionInvariants
import SeatReservation.Zod

/-!
# Accounts

What an action can do to the table `users` (`UserEffect`): a registration adds a
row, a logout bumps a token version, and nothing else is ever written.  A row is
therefore found again after any run, with the token version it had plus one for
each logout of its user in between (`user_after_run`).

Addresses are compared in lower case, and `users_email_key` is on the column that
has them in lower case, so there is one account for all spellings of an address.
-/

namespace SeatReservation

open Relational TransitionSystem

/-! ### What an action can do to the users -/

/-- `token_version = token_version + n`. -/
def UserRow.bump (n : Nat) (u : UserRow) : UserRow := { u with tokenVersion := u.tokenVersion + n }

@[simp] theorem UserRow.bump_id (n : Nat) (u : UserRow) : (u.bump n).id = u.id := rfl
@[simp] theorem UserRow.bump_email (n : Nat) (u : UserRow) : (u.bump n).email = u.email := rfl
@[simp] theorem UserRow.bump_passwordHash (n : Nat) (u : UserRow) :
    (u.bump n).passwordHash = u.passwordHash := rfl
@[simp] theorem UserRow.bump_tokenVersion (n : Nat) (u : UserRow) :
    (u.bump n).tokenVersion = u.tokenVersion + n := rfl
@[simp] theorem UserRow.bump_zero (u : UserRow) : u.bump 0 = u := rfl

theorem UserRow.bump_bump (m n : Nat) (u : UserRow) : (u.bump m).bump n = u.bump (m + n) := by
  simp [UserRow.bump, Nat.add_assoc]

/-- The user whose token version an action bumps. -/
def bumped (s : AuthService) : AuthAction → List Uuid
  | .logoutStep i =>
      match s.logouts[i]? with
      | some ⟨_, _, .revoked row⟩ => [row.userId]
      | _ => []
  | _ => []

/-- The row of a registration. -/
def registeredUser (env : AuthEnv) (email passwordHash : String) (id : Uuid) : UserRow :=
  ⟨id, env.toLowerCase email, passwordHash, 0⟩

/-- The users after an action, and the one whose token version it has bumped. -/
inductive UserEffect (env : AuthEnv) (s : AuthService) :
    AuthAction → List UserRow → List Uuid → Prop where
  | nothing (a : AuthAction) : UserEffect env s a s.db.users []
  | registered (email passwordHash : String) (id : Uuid)
      (hfree : userViolation s.db.users (registeredUser env email passwordHash id) = none) :
      UserEffect env s (.register email passwordHash id)
        (s.db.users ++ [registeredUser env email passwordHash id]) []
  | loggedOut (i : Nat) (userId : Uuid) :
      UserEffect env s (.logoutStep i)
        (update (fun u => u.id == userId) (UserRow.bump 1) s.db.users) [userId]

theorem loginStep_users (env : AuthEnv) (clock : Nat) (d : TokenDraw) (l : Login) (db : AuthDb) :
    (loginStep env clock d l db).2.users = db.users := by
  obtain ⟨email, password, stage⟩ := l
  unfold loginStep
  cases stage with
  | started =>
    dsimp only
    split
    · rfl
    · rfl
  | found user =>
    dsimp only
    split
    · rfl
    · rfl
  | verified user expiresAt =>
    dsimp only [issueNewFamily]
    cases tokenViolation db (newToken env user.id d.familyId expiresAt d) with
    | none => rfl
    | some err => rfl
  | issued user raw => rfl
  | done response => rfl

theorem rotate_users (env : AuthEnv) (oldId : Uuid) (expiresAt graceUntil now : Nat)
    (d : TokenDraw) (db : AuthDb) :
    (rotate env oldId expiresAt graceUntil now d db).2.users = db.users := by
  unfold rotate
  split
  · rfl
  · dsimp only
    split
    · rfl
    · rfl

theorem refreshStep_users (env : AuthEnv) (clock : Nat) (d : TokenDraw) (r : Refresh)
    (db : AuthDb) : (refreshStep env clock d r db).2.users = db.users := by
  obtain ⟨cookie, stage⟩ := r
  unfold refreshStep
  cases stage with
  | started =>
    dsimp only
    split
    · rfl
    · split
      · rfl
      · rfl
  | found row => rfl
  | active row =>
    dsimp only
    split
    · rfl
    · rfl
  | rotating row user expiresAt graceUntil =>
    have husers := rotate_users env row.id expiresAt graceUntil clock d db
    dsimp only
    split
    · rename_i hrotate
      rw [hrotate] at husers
      exact husers
    · rename_i hrotate
      rw [hrotate] at husers
      exact husers
  | grace row =>
    dsimp only
    split
    · rfl
    · rfl
  | accepted row user cookie => rfl
  | reused row => rfl
  | done response => rfl

/-- **Everything an action of the auth service can do to the users.** -/
theorem authStep_userEffect (env : AuthEnv) (s : AuthService) (a : AuthAction) :
    UserEffect env s a (authStep env s a).db.users (bumped s a) := by
  cases a with
  | register email passwordHash id =>
    simp only [authStep, createUser, bumped]
    cases hviol : userViolation s.db.users ⟨id, env.toLowerCase email, passwordHash, 0⟩ with
    | none => exact .registered email passwordHash id hviol
    | some err => exact .nothing _
  | loginStep i d =>
    simp only [authStep, bumped]
    cases hget : s.logins[i]? with
    | none => exact .nothing _
    | some l =>
      dsimp only
      rw [loginStep_users]
      exact .nothing _
  | refreshStep i d =>
    simp only [authStep, bumped]
    cases hget : s.refreshes[i]? with
    | none => exact .nothing _
    | some r =>
      dsimp only
      rw [refreshStep_users]
      exact .nothing _
  | logoutStep i =>
    simp only [authStep, bumped]
    cases hget : s.logouts[i]? with
    | none => exact .nothing _
    | some l =>
      obtain ⟨cookie, all, stage⟩ := l
      cases stage with
      | started =>
        dsimp only [logoutStep]
        split
        · exact .nothing _
        · exact .nothing _
      | found row =>
        dsimp only [logoutStep]
        split
        · exact .nothing _
        · exact .nothing _
      | revoked row => exact .loggedOut i row.userId
      | done => exact .nothing _
  | advance ms => exact .nothing _
  | login email password => exact .nothing _
  | loginLost i => exact .nothing _
  | refresh cookie => exact .nothing _
  | refreshLost i => exact .nothing _
  | logout cookie all => exact .nothing _
  | logoutLost i => exact .nothing _

/-! ### A row after a run -/

theorem UserEffect.bumps {env : AuthEnv} {s : AuthService} {a : AuthAction} {users : List UserRow}
    {ids : List Uuid} (h : UserEffect env s a users ids) {u : UserRow} (hu : u ∈ s.db.users) :
    u.bump (ids.count u.id) ∈ users := by
  cases h with
  | nothing => exact hu
  | registered email passwordHash id hfree => exact List.mem_append_left _ hu
  | loggedOut i userId =>
    by_cases hid : u.id = userId
    · rw [hid, List.count_singleton_self]
      exact mem_update_of_mem hu (by simp [hid])
    · rw [List.count_eq_zero_of_not_mem (by simpa using hid), UserRow.bump_zero]
      exact mem_update.mpr (.inr ⟨hu, by simpa using hid⟩)

/-- **The token version counts the logouts.**  After a run a user has the row of before,
    with one more in its token version for each logout of the user. -/
theorem user_after_run (env : AuthEnv) {s : AuthService} {u : UserRow} (hu : u ∈ s.db.users)
    (as : List AuthAction) :
    u.bump ((outputs (authStep env) bumped s as).count u.id) ∈
      (exec (authStep env) s as).db.users := by
  have hstart : u.bump (([] : List Uuid).count u.id) ∈ s.db.users := hu
  refine exec_outputs_invariant'
    (fun (s : AuthService) ids => u.bump (ids.count u.id) ∈ s.db.users) ?_ hstart as
  intro s ids a hmem
  have hstep := (authStep_userEffect env s a).bumps hmem
  rwa [UserRow.bump_bump, UserRow.bump_id, ← List.count_append] at hstep

/-- `u'` is the row of the same account at a later time. -/
structure UserRow.Becomes (u u' : UserRow) : Prop where
  id : u'.id = u.id
  email : u'.email = u.email
  passwordHash : u'.passwordHash = u.passwordHash
  tokenVersion : u.tokenVersion ≤ u'.tokenVersion

theorem UserRow.Becomes.refl (u : UserRow) : u.Becomes u := ⟨rfl, rfl, rfl, Nat.le_refl _⟩

theorem UserRow.becomes_bump (n : Nat) (u : UserRow) : u.Becomes (u.bump n) :=
  ⟨rfl, rfl, rfl, Nat.le_add_right _ _⟩

theorem UserRow.Becomes.trans {u u' u'' : UserRow} (h : u.Becomes u') (h' : u'.Becomes u'') :
    u.Becomes u'' :=
  ⟨h'.id.trans h.id, h'.email.trans h.email, h'.passwordHash.trans h.passwordHash,
    h.tokenVersion.trans h'.tokenVersion⟩

/-- The table has a row of the account the row was read of. -/
def OnFile (users : List UserRow) (user : UserRow) : Prop := ∃ u ∈ users, user.Becomes u

theorem OnFile.step {s : AuthService} {user : UserRow} (h : OnFile s.db.users user)
    (env : AuthEnv) (a : AuthAction) : OnFile (authStep env s a).db.users user := by
  obtain ⟨u, hu, hbecomes⟩ := h
  exact ⟨_, (authStep_userEffect env s a).bumps hu, hbecomes.trans (u.becomes_bump _)⟩

/-! ### One account for an address -/

/-- `users_pkey` and `users_email_key`. -/
structure UserKeys (users : List UserRow) : Prop where
  ids : KeyedBy UserRow.id users
  emails : KeyedBy UserRow.email users

theorem userViolation_eq_none_iff {users : List UserRow} {row : UserRow} :
    userViolation users row = none ↔
      (∀ u ∈ users, u.id ≠ row.id) ∧ ∀ u ∈ users, u.email ≠ row.email := by
  unfold userViolation
  split
  · rename_i hid
    refine iff_of_false nofun ?_
    intro hfree
    obtain ⟨u, hu, heq⟩ := List.any_eq_true.mp hid
    exact hfree.1 u hu (by simpa using heq)
  · rename_i hid
    split
    · rename_i hemail
      refine iff_of_false nofun ?_
      intro hfree
      obtain ⟨u, hu, heq⟩ := List.any_eq_true.mp hemail
      exact hfree.2 u hu (by simpa using heq)
    · rename_i hemail
      refine iff_of_true rfl ⟨?_, ?_⟩
      · simpa using hid
      · simpa using hemail

theorem UserKeys.step {s : AuthService} (h : UserKeys s.db.users) (env : AuthEnv)
    (a : AuthAction) : UserKeys (authStep env s a).db.users := by
  have heffect := authStep_userEffect env s a
  generalize (authStep env s a).db.users = users at heffect ⊢
  generalize bumped s a = ids at heffect
  cases heffect with
  | nothing => exact h
  | registered email passwordHash id hfree =>
    obtain ⟨hid, hemail⟩ := userViolation_eq_none_iff.mp hfree
    exact ⟨h.ids.insert hid, h.emails.insert hemail⟩
  | loggedOut i userId =>
    exact ⟨h.ids.update fun u _ => UserRow.bump_id 1 u,
      h.emails.update fun u _ => UserRow.bump_email 1 u⟩

theorem UserKeys.exec {s : AuthService} (h : UserKeys s.db.users) (env : AuthEnv)
    (as : List AuthAction) : UserKeys (exec (authStep env) s as).db.users :=
  exec_invariant' (fun s : AuthService => UserKeys s.db.users) (fun _ a h => h.step env a) h as

theorem emptyAuth_userKeys : UserKeys emptyAuth.db.users :=
  ⟨List.nodup_nil, List.nodup_nil⟩

/-- An account is found under every spelling of its address. -/
theorem UserKeys.findByEmail {env : AuthEnv} {db : AuthDb} (h : UserKeys db.users) {u : UserRow}
    (hu : u ∈ db.users) {email : String} (hemail : u.email = env.toLowerCase email) :
    findByEmail env email db = some u := by
  unfold SeatReservation.findByEmail
  rw [← hemail]
  exact h.emails.find?_eq_some hu

/-! ### Registration -/

inductive RegisterResponse where
  | created (userId : Uuid)
  | badRequest (error : String)
  | internalError
deriving DecidableEq, Repr

/-- The check of the controller's `RegisterDto`; `isEmail` is zod's `.email()`. -/
def RegisterDto.accepts (isEmail : String → Bool) (email password : String) : Bool :=
  isEmail email && decide (8 ≤ utf16Length password) && decide (utf16Length password ≤ 128)

/-- The answer to a registration, and the action it takes.  A body that fails the check
    throws a `ZodError`, which nothing catches. -/
def register (isEmail : String → Bool) (env : AuthEnv) (email password passwordHash : String)
    (id : Uuid) (db : AuthDb) : RegisterResponse × Option AuthAction :=
  if RegisterDto.accepts isEmail email password then
    (match (createUser env email passwordHash id db).1 with
      | .ok user => .created user.id
      | .error err =>
          if err.code = "23505" then .badRequest "email_already_registered" else .internalError,
      some (.register email passwordHash id))
  else (.internalError, none)

theorem userViolation_code {users : List UserRow} {row : UserRow} {err : SqlError}
    (h : userViolation users row = some err) : err.code = "23505" := by
  unfold userViolation at h
  split at h
  · rw [← Option.some.inj h]
    rfl
  · split at h
    · rw [← Option.some.inj h]
      rfl
    · simp at h

/-- A registration is answered `created` iff its body passes the check and neither its id nor
    its address is taken. -/
theorem register_created_iff {isEmail : String → Bool} {env : AuthEnv}
    {email password passwordHash : String} {id userId : Uuid} {db : AuthDb} :
    (register isEmail env email password passwordHash id db).1 = .created userId ↔
      userId = id ∧ RegisterDto.accepts isEmail email password = true ∧
        userViolation db.users (registeredUser env email passwordHash id) = none := by
  unfold register createUser registeredUser
  by_cases hdto : RegisterDto.accepts isEmail email password = true
  · rw [if_pos hdto]
    cases hviol : userViolation db.users ⟨id, env.toLowerCase email, passwordHash, 0⟩ with
    | none => simp [hviol, hdto, eq_comm]
    | some err => simp [hviol, userViolation_code hviol]
  · rw [if_neg hdto]
    simp [hdto]

/-- What a registration in a state where the address is taken comes to. -/
theorem register_taken {isEmail : String → Bool} {env : AuthEnv}
    {email password passwordHash : String} {id : Uuid} {s : AuthService}
    (hdto : RegisterDto.accepts isEmail email password = true)
    (htaken : ∃ u ∈ s.db.users, u.email = env.toLowerCase email) :
    (register isEmail env email password passwordHash id s.db).1 =
        .badRequest "email_already_registered" ∧
      authStep env s (.register email passwordHash id) = s := by
  have hviol : userViolation s.db.users (registeredUser env email passwordHash id) ≠ none := by
    intro hnone
    obtain ⟨u, hu, hemail⟩ := htaken
    exact (userViolation_eq_none_iff.mp hnone).2 u hu hemail
  unfold register
  rw [if_pos hdto]
  simp only [authStep, createUser]
  cases herr : userViolation s.db.users ⟨id, env.toLowerCase email, passwordHash, 0⟩ with
  | none => exact absurd herr hviol
  | some err => exact ⟨if_pos (userViolation_code herr), rfl⟩

/-! ### Logging in to a registered account -/

/-- The check of the controller's `LoginDto`. -/
def LoginDto.accepts (isEmail : String → Bool) (email password : String) : Bool :=
  isEmail email && decide (1 ≤ utf16Length password)

/-- A login up to its decision: the check of the body, which throws like that of a registration,
    the lookup and the check of the password. -/
def checkLogin (isEmail : String → Bool) (env : AuthEnv) (clock : Nat) (d d' : TokenDraw)
    (email password : String) (db : AuthDb) : LoginStage :=
  if LoginDto.accepts isEmail email password then
    (loginStep env clock d' (loginStep env clock d ⟨email, password, .started⟩ db).1 db).1.stage
  else .done .internalError

theorem checkLogin_of_found {isEmail : String → Bool} {env : AuthEnv} {clock : Nat}
    {d d' : TokenDraw} {email password : String} {db : AuthDb} {u : UserRow}
    (h : findByEmail env email db = some u) :
    checkLogin isEmail env clock d d' email password db =
      if LoginDto.accepts isEmail email password then
        if env.verifyPassword u.passwordHash password then
          .verified u (clock + env.rtTtlSeconds * 1000)
        else .done (.unauthorized "invalid_credentials")
      else .done .internalError := by
  unfold checkLogin
  by_cases hdto : LoginDto.accepts isEmail email password = true
  · rw [if_pos hdto, if_pos hdto]
    simp only [loginStep, h]
    split
    · rfl
    · rfl
  · rw [if_neg hdto, if_neg hdto]

/-- ASCII letters in lower case. -/
def lowerAscii (s : String) : String := .ofList (s.toList.map Char.toLower)

def hasAt (s : String) : Bool := s.toList.contains '@'

def loweringEnv : AuthEnv := { defaultAuthEnv with toLowerCase := lowerAscii }

end SeatReservation
