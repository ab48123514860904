import SeatReservation.Holds

/-!
# Users and refresh tokens

The database of the auth service and the statements that write it.  A refresh
token is a random text; the table keeps its hash, the family of the login it
descends from and, once it has been rotated, the token that replaced it.  The
hash function and the password check are parameters of the service's
environment, and random values are arguments of the calls that draw them.
-/

namespace SeatReservation

open Relational

structure UserRow where
  id : Uuid
  email : String
  passwordHash : String
  tokenVersion : Nat
deriving DecidableEq, Repr

structure RefreshTokenRow where
  id : Uuid
  userId : Uuid
  familyId : Uuid
  tokenHash : BitVec 256
  rotatedTo : Option Uuid
  revokedAt : Option Nat
  expiresAt : Nat
  graceUntil : Option Nat
deriving DecidableEq, Repr

structure AuthDb where
  users : List UserRow
  refreshTokens : List RefreshTokenRow
deriving DecidableEq, Repr

structure AuthEnv where
  rtTtlSeconds : Nat
  rtGraceSeconds : Nat
  sha256 : String → BitVec 256
  toLowerCase : String → String
  verifyPassword : String → String → Bool

/-! ### UsersRepository -/

def findByEmail (env : AuthEnv) (email : String) (db : AuthDb) : Option UserRow :=
  db.users.find? fun u => u.email == env.toLowerCase email

def findById (id : Uuid) (db : AuthDb) : Option UserRow :=
  db.users.find? fun u => u.id == id

/-- The constraint an `INSERT INTO users` fails on. -/
def userViolation (users : List UserRow) (row : UserRow) : Option SqlError :=
  if users.any fun u => u.id == row.id then some (uniqueViolation "users_pkey")
  else if users.any fun u => u.email == row.email then some (uniqueViolation "users_email_key")
  else none

/-- `create`, with the id the database draws and the hash `hashPassword` made. -/
def createUser (env : AuthEnv) (email passwordHash : String) (id : Uuid) (db : AuthDb) :
    Except SqlError UserRow × AuthDb :=
  let row : UserRow := ⟨id, env.toLowerCase email, passwordHash, 0⟩
  match userViolation db.users row with
  | some err => (.error err, db)
  | none => (.ok row, { db with users := db.users ++ [row] })

def bumpTokenVersion (id : Uuid) (db : AuthDb) : AuthDb :=
  { db with
    users := update (fun u => u.id == id) (fun u => { u with tokenVersion := u.tokenVersion + 1 })
      db.users }

/-! ### SessionsRepository -/

/-- The random values of a new token; a rotation does not use the family. -/
structure TokenDraw where
  id : Uuid
  raw : String
  familyId : Uuid
deriving DecidableEq, Repr

/-- The constraint an `INSERT INTO refresh_tokens` fails on. -/
def tokenViolation (db : AuthDb) (row : RefreshTokenRow) : Option SqlError :=
  if db.refreshTokens.any fun t => t.id == row.id then some (uniqueViolation "refresh_tokens_pkey")
  else if db.refreshTokens.any fun t => t.tokenHash == row.tokenHash then
    some (uniqueViolation "refresh_tokens_token_hash_key")
  else if db.users.any fun u => u.id == row.userId then none
  else some (foreignKeyViolation "refresh_tokens_user_id_fkey")

/-- The row of a new token. -/
def newToken (env : AuthEnv) (userId familyId : Uuid) (expiresAt : Nat) (d : TokenDraw) :
    RefreshTokenRow :=
  ⟨d.id, userId, familyId, env.sha256 d.raw, none, none, expiresAt, none⟩

def issueNewFamily (env : AuthEnv) (userId : Uuid) (expiresAt : Nat) (d : TokenDraw)
    (db : AuthDb) : Except SqlError RefreshTokenRow × AuthDb :=
  let row := newToken env userId d.familyId expiresAt d
  match tokenViolation db row with
  | some err => (.error err, db)
  | none => (.ok row, { db with refreshTokens := db.refreshTokens ++ [row] })

def findByRaw (env : AuthEnv) (raw : String) (db : AuthDb) : Option RefreshTokenRow :=
  db.refreshTokens.find? fun t => t.tokenHash == env.sha256 raw

inductive RotateError where
  | rtNotFound
  | sql (err : SqlError)
deriving DecidableEq, Repr

/-- What the second statement of `rotate` sets on the old row. -/
def RefreshTokenRow.rotate (now : Nat) (rotatedTo : Uuid) (graceUntil : Nat)
    (t : RefreshTokenRow) : RefreshTokenRow :=
  { t with revokedAt := some now, rotatedTo := some rotatedTo, graceUntil := some graceUntil }

/-- The transaction of `rotate`.  The dates were computed when it was called, `now`
    is the transaction's `NOW()`.  The locked row is not looked at any further. -/
def rotate (env : AuthEnv) (oldId : Uuid) (expiresAt graceUntil now : Nat) (d : TokenDraw)
    (db : AuthDb) : Except RotateError RefreshTokenRow × AuthDb :=
  match db.refreshTokens.find? fun t => t.id == oldId with
  | none => (.error .rtNotFound, db)
  | some current =>
      let row := newToken env current.userId current.familyId expiresAt d
      match tokenViolation db row with
      | some err => (.error (.sql err), db)
      | none =>
          (.ok row,
            { db with
              refreshTokens := update (fun t => t.id == current.id)
                (RefreshTokenRow.rotate now row.id graceUntil) (db.refreshTokens ++ [row]) })

def RefreshTokenRow.revoke (now : Nat) (t : RefreshTokenRow) : RefreshTokenRow :=
  { t with revokedAt := some now }

/-- `UPDATE refresh_tokens SET revoked_at = NOW() WHERE ..`. -/
def revokeWhere (p : RefreshTokenRow → Bool) (now : Nat) (db : AuthDb) : AuthDb :=
  { db with refreshTokens := update p (RefreshTokenRow.revoke now) db.refreshTokens }

def revoke (id : Uuid) (now : Nat) (db : AuthDb) : AuthDb :=
  revokeWhere (fun t => t.id == id) now db

def revokeFamily (familyId : Uuid) (now : Nat) (db : AuthDb) : AuthDb :=
  revokeWhere (fun t => t.familyId == familyId && t.revokedAt.isNone) now db

def revokeAllForUser (userId : Uuid) (now : Nat) (db : AuthDb) : AuthDb :=
  revokeWhere (fun t => t.userId == userId && t.revokedAt.isNone) now db

end SeatReservation
