import SeatReservation.Sessions
import SeatReservation.TransitionSystem

/-!
# The auth service as a state machine

Logins, refreshes and logouts are requests that make one database round trip
after the other, so each is kept with the stage it has reached, and one action
moves one request by one stage: a statement or transaction, or what the handler
does with its result.  A list of actions is thus an interleaving of any number
of requests.  The process clock only moves by `advance`; expiry dates and grace
windows are computed from it when the handler computes them, before the
transaction that stores them.  A request may be lost at any stage, by a failed
statement or a stop of the process.
-/

namespace SeatReservation

open Relational TransitionSystem

/-! ### Requests in progress -/

/-- The claims of an access token. -/
structure AccessToken where
  sub : Uuid
  email : String
  tv : Nat
deriving DecidableEq, Repr

def signAccessToken (user : UserRow) : AccessToken := ⟨user.id, user.email, user.tokenVersion⟩

/-- `cookie` is the refresh token the response sets. -/
inductive AuthResponse where
  | ok (accessToken : AccessToken) (userId : Uuid) (cookie : Option String)
  | unauthorized (error : String)
  | internalError
deriving DecidableEq, Repr

inductive LoginStage where
  | started
  | found (user : UserRow)
  | verified (user : UserRow) (expiresAt : Nat)
  | issued (user : UserRow) (raw : String)
  | done (response : AuthResponse)
deriving DecidableEq, Repr

structure Login where
  email : String
  password : String
  stage : LoginStage
deriving DecidableEq, Repr

/-- How far a refresh has got.  The row is the one its lookup read. -/
inductive RefreshStage where
  | started
  | found (row : RefreshTokenRow)
  | active (row : RefreshTokenRow)
  | rotating (row : RefreshTokenRow) (user : UserRow) (expiresAt graceUntil : Nat)
  | grace (row : RefreshTokenRow)
  | accepted (row : RefreshTokenRow) (user : UserRow) (cookie : Option String)
  | reused (row : RefreshTokenRow)
  | done (response : AuthResponse)
deriving DecidableEq, Repr

structure Refresh where
  cookie : Option String
  stage : RefreshStage
deriving DecidableEq, Repr

inductive LogoutStage where
  | started
  | found (row : RefreshTokenRow)
  | revoked (row : RefreshTokenRow)
  | done
deriving DecidableEq, Repr

/-- A logout, or a logout-all. -/
structure Logout where
  cookie : Option String
  all : Bool
  stage : LogoutStage
deriving DecidableEq, Repr

/-- The service.  `issuedAtLogin` lists the ids of the tokens issued at a login; it has
    no counterpart in the database. -/
structure AuthService where
  db : AuthDb
  clock : Nat
  logins : List Login
  refreshes : List Refresh
  logouts : List Logout
  issuedAtLogin : List Uuid
deriving DecidableEq, Repr

/-! ### Handlers -/

def loginStep (env : AuthEnv) (clock : Nat) (d : TokenDraw) (l : Login) (db : AuthDb) :
    Login × AuthDb :=
  match l.stage with
  | .started =>
      match findByEmail env l.email db with
      | none => ({ l with stage := .done (.unauthorized "invalid_credentials") }, db)
      | some user => ({ l with stage := .found user }, db)
  | .found user =>
      if env.verifyPassword user.passwordHash l.password then
        ({ l with stage := .verified user (clock + env.rtTtlSeconds * 1000) }, db)
      else ({ l with stage := .done (.unauthorized "invalid_credentials") }, db)
  | .verified user expiresAt =>
      match issueNewFamily env user.id expiresAt d db with
      | (.ok _, db') => ({ l with stage := .issued user d.raw }, db')
      | (.error _, db') => ({ l with stage := .done .internalError }, db')
  | .issued user raw =>
      ({ l with stage := .done (.ok (signAccessToken user) user.id (some raw)) }, db)
  | .done _ => (l, db)

/-- The token of the cookie; an empty one counts as none. -/
def presented (cookie : Option String) : Option String := cookie.filter (· ≠ "")

/-- `now >= expires_at`. -/
def RefreshTokenRow.expired (now : Nat) (t : RefreshTokenRow) : Bool := decide (t.expiresAt ≤ now)

/-- `grace_until && now <= grace_until`. -/
def RefreshTokenRow.inGrace (now : Nat) (t : RefreshTokenRow) : Bool :=
  t.graceUntil.any fun g => decide (now ≤ g)

/-- The branches of `refresh` for the row it found. -/
def branch (now : Nat) (row : RefreshTokenRow) : RefreshStage :=
  if row.expired now then .done (.unauthorized "expired_refresh_token")
  else if row.revokedAt.isNone then .active row
  else if row.inGrace now then .grace row
  else .reused row

def refreshStep (env : AuthEnv) (clock : Nat) (d : TokenDraw) (r : Refresh) (db : AuthDb) :
    Refresh × AuthDb :=
  match r.stage with
  | .started =>
      match presented r.cookie with
      | none => ({ r with stage := .done (.unauthorized "no_refresh_token") }, db)
      | some raw =>
          match findByRaw env raw db with
          | none => ({ r with stage := .done (.unauthorized "invalid_refresh_token") }, db)
          | some row => ({ r with stage := .found row }, db)
  | .found row => ({ r with stage := branch clock row }, db)
  | .active row =>
      match findById row.userId db with
      | none => ({ r with stage := .done (.unauthorized "user_not_found") }, db)
      | some user =>
          ({ r with
              stage := .rotating row user (clock + env.rtTtlSeconds * 1000)
                (clock + env.rtGraceSeconds * 1000) }, db)
  | .rotating row user expiresAt graceUntil =>
      match rotate env row.id expiresAt graceUntil clock d db with
      | (.ok _, db') => ({ r with stage := .accepted row user (some d.raw) }, db')
      | (.error _, db') => ({ r with stage := .done .internalError }, db')
  | .grace row =>
      match findById row.userId db with
      | none => ({ r with stage := .done (.unauthorized "user_not_found") }, db)
      | some user => ({ r with stage := .accepted row user none }, db)
  | .accepted _ user cookie =>
      ({ r with stage := .done (.ok (signAccessToken user) user.id cookie) }, db)
  | .reused row =>
      ({ r with stage := .done (.unauthorized "reuse_detected") },
        revokeFamily row.familyId clock db)
  | .done _ => (r, db)

def logoutStep (env : AuthEnv) (clock : Nat) (l : Logout) (db : AuthDb) : Logout × AuthDb :=
  match l.stage with
  | .started =>
      match (presented l.cookie).bind fun raw => findByRaw env raw db with
      | none => ({ l with stage := .done }, db)
      | some row => ({ l with stage := .found row }, db)
  | .found row =>
      ({ l with stage := .revoked row },
        if l.all then revokeAllForUser row.userId clock db else revoke row.id clock db)
  | .revoked row => ({ l with stage := .done }, bumpTokenVersion row.userId db)
  | .done => (l, db)

/-! ### Steps -/

inductive AuthAction where
  | advance (ms : Nat)
  | register (email passwordHash : String) (id : Uuid)
  | login (email password : String)
  | loginStep (i : Nat) (d : TokenDraw)
  | loginLost (i : Nat)
  | refresh (cookie : Option String)
  | refreshStep (i : Nat) (d : TokenDraw)
  | refreshLost (i : Nat)
  | logout (cookie : Option String) (all : Bool)
  | logoutStep (i : Nat)
  | logoutLost (i : Nat)
deriving DecidableEq, Repr

/-- The ids of the tokens a step of a login has issued. -/
def issuedBy (l l' : Login) (d : TokenDraw) : List Uuid :=
  match l.stage, l'.stage with
  | .verified .., .issued .. => [d.id]
  | _, _ => []

def authStep (env : AuthEnv) (s : AuthService) : AuthAction → AuthService
  | .advance ms => { s with clock := s.clock + ms }
  | .register email passwordHash id =>
      { s with db := (createUser env email passwordHash id s.db).2 }
  | .login email password => { s with logins := s.logins ++ [⟨email, password, .started⟩] }
  | .loginStep i d =>
      match s.logins[i]? with
      | some l =>
          let (l', db) := SeatReservation.loginStep env s.clock d l s.db
          { s with
            db := db
            logins := s.logins.set i l'
            issuedAtLogin := s.issuedAtLogin ++ issuedBy l l' d }
      | none => s
  | .loginLost i => { s with logins := s.logins.eraseIdx i }
  | .refresh cookie => { s with refreshes := s.refreshes ++ [⟨cookie, .started⟩] }
  | .refreshStep i d =>
      match s.refreshes[i]? with
      | some r =>
          let (r', db) := SeatReservation.refreshStep env s.clock d r s.db
          { s with db := db, refreshes := s.refreshes.set i r' }
      | none => s
  | .refreshLost i => { s with refreshes := s.refreshes.eraseIdx i }
  | .logout cookie all => { s with logouts := s.logouts ++ [⟨cookie, all, .started⟩] }
  | .logoutStep i =>
      match s.logouts[i]? with
      | some l =>
          let (l', db) := SeatReservation.logoutStep env s.clock l s.db
          { s with db := db, logouts := s.logouts.set i l' }
      | none => s
  | .logoutLost i => { s with logouts := s.logouts.eraseIdx i }

/-- Users, and nothing else. -/
structure AuthService.Seeded (s : AuthService) : Prop where
  refreshTokens : s.db.refreshTokens = []
  logins : s.logins = []
  refreshes : s.refreshes = []
  logouts : s.logouts = []
  issuedAtLogin : s.issuedAtLogin = []

/-- The service as the migration leaves it. -/
def emptyAuth : AuthService := ⟨⟨[], []⟩, 0, [], [], [], []⟩

theorem emptyAuth_seeded : emptyAuth.Seeded := ⟨rfl, rfl, rfl, rfl, rfl⟩

/-! ### A user with three tokens -/

def rawA : String := "JTdJW21_kaO1x9nr_Q8hM0VXaXuNn7HD1ef5Cx0vQVNld4mbrb_R4_UHGSs9T2Fz"
def rawB : String := "SmeEob7b-BUyT2yJpsPg_Ro3VHGOq8jlAh88WXaTsM3qByRBXnuYtdLvDClGY4Cd"
def rawC : String := "b5e_5w83X4ev1_8nT3efx-8XP2ePt98HL1d_p8_3H0dvl7_nDzdfh6_X_ydPd5_H"

/-- The draws of the tokens; 301 is the family of the first. -/
def drawA : TokenDraw := ⟨201, rawA, 301⟩
def drawB : TokenDraw := ⟨202, rawB, 302⟩
def drawC : TokenDraw := ⟨203, rawC, 303⟩

/-- The default environment, with the digests of the three tokens and one password. -/
def defaultAuthEnv : AuthEnv where
  rtTtlSeconds := 7776000
  rtGraceSeconds := 10
  sha256 raw :=
    if raw = rawA then 0xa9ea98cb3fb5a22cf7e0a1b4e6f60de42a4254eb0f95cd64589f6b6e0faceca6
    else if raw = rawB then 0x95dcf482a36537dc5b885290e1ed401b72b76e37d9b7fa771e9d6456a5854fdb
    else if raw = rawC then 0xa4803f379a2a08dc7ef02cfe59d3a274bef07ace26821e3f71948c95d57da22a
    else 0
  toLowerCase email := email
  verifyPassword passwordHash password :=
    passwordHash == "$argon2id$v=19$m=65536,t=3,p=1$c2FsdA$aGFzaA" && password == "correct horse"

def registerAlice : AuthAction :=
  .register "alice@example.com" "$argon2id$v=19$m=65536,t=3,p=1$c2FsdA$aGFzaA" 101

/-- A login from its request to its response. -/
def loginRun (i : Nat) (d : TokenDraw) : List AuthAction :=
  .login "alice@example.com" "correct horse" :: List.replicate 4 (.loginStep i d)

/-- A refresh that has got its request and made `n` steps. -/
def refreshRun (i : Nat) (raw : String) (d : TokenDraw) (n : Nat) : List AuthAction :=
  .refresh (some raw) :: List.replicate n (.refreshStep i d)

/-- A logout from its request to its response. -/
def logoutRun (i : Nat) (raw : String) (all : Bool) : List AuthAction :=
  .logout (some raw) all :: List.replicate 3 (.logoutStep i)

end SeatReservation
