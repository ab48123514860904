/-!
# Scripts on a database connection

A script is what a function does between borrowing a connection and giving it
back: statements, BEGIN, COMMIT and ROLLBACK, with exceptions, `try`/`catch` and
`try`/`finally`.  The connection is idle, in a transaction whose changes are
not durable yet, or in an aborted transaction, where every statement but
ROLLBACK and COMMIT is refused (and COMMIT rolls back without an error, as
PostgreSQL does).  `faults` lets the database report an error at any statement
except ROLLBACK.  `returned` keeps the status of the connection each time it is
given back to the pool.

`Ensures P x Q E` is partial correctness with two postconditions, for a script
that returns and for one that throws; the rules follow the scripts' own
constructs.  `withConnection` is the usual skeleton, and the two rules about it
say that it gives the connection back once and idle, and that a call that throws
has changed nothing.
-/

namespace SeatReservation.SqlSession

/-- A transaction in progress on `σ`. -/
inductive Tx (σ : Type) where
  | idle
  | opened (working : σ)
  | aborted
deriving DecidableEq, Repr

/-- What a script throws: an error of the database or one of its own. -/
inductive Thrown (ε : Type) where
  | db (e : ε)
  | app (message : String)
deriving DecidableEq, Repr

structure Session (ε σ : Type) where
  durable : σ
  tx : Tx σ
  executed : Nat
  /-- The error the database reports at the `n`-th statement. -/
  faults : Nat → Option ε
  /-- The error of a statement in an aborted transaction. -/
  inFailedTransaction : ε
  returned : List (Tx σ)

/-- A connection just borrowed from the pool. -/
def Session.borrowed {ε σ : Type} (durable : σ) (faults : Nat → Option ε)
    (inFailedTransaction : ε) : Session ε σ :=
  ⟨durable, .idle, 0, faults, inFailedTransaction, []⟩

def Script (ε σ α : Type) := Session ε σ → Except (Thrown ε) α × Session ε σ

variable {ε σ α β : Type}

/-! ### Statements and control -/

def Script.pure (a : α) : Script ε σ α := fun s => (.ok a, s)

def Script.bind (x : Script ε σ α) (k : α → Script ε σ β) : Script ε σ β := fun s =>
  match x s with
  | (.ok a, s') => k a s'
  | (.error e, s') => (.error e, s')

instance : Monad (Script ε σ) where
  pure := Script.pure
  bind := Script.bind

def throw (e : Thrown ε) : Script ε σ α := fun s => (.error e, s)

def tryCatch (body : Script ε σ α) (handler : Thrown ε → Script ε σ α) : Script ε σ α := fun s =>
  match body s with
  | (.ok a, s') => (.ok a, s')
  | (.error e, s') => handler e s'

def tryFinally (body : Script ε σ α) (final : Session ε σ → Session ε σ) : Script ε σ α := fun s =>
  ((body s).1, final (body s).2)

/-- A statement; outside a transaction it commits by itself. -/
def query (stmt : σ → Except ε (α × σ)) : Script ε σ α := fun s =>
  let s' := { s with executed := s.executed + 1 }
  match s.tx, s.faults s.executed with
  | .aborted, _ => (.error (.db s.inFailedTransaction), s')
  | .idle, some e => (.error (.db e), s')
  | .idle, none =>
      match stmt s.durable with
      | .error e => (.error (.db e), s')
      | .ok (a, durable) => (.ok a, { s' with durable := durable })
  | .opened _, some e => (.error (.db e), { s' with tx := .aborted })
  | .opened working, none =>
      match stmt working with
      | .error e => (.error (.db e), { s' with tx := .aborted })
      | .ok (a, working) => (.ok a, { s' with tx := .opened working })

/-- A BEGIN inside a transaction is only a warning. -/
def begin : Script ε σ Unit := fun s =>
  let s' := { s with executed := s.executed + 1 }
  match s.tx, s.faults s.executed with
  | .aborted, _ => (.error (.db s.inFailedTransaction), s')
  | .idle, some e => (.error (.db e), s')
  | .idle, none => (.ok (), { s' with tx := .opened s.durable })
  | .opened _, some e => (.error (.db e), { s' with tx := .aborted })
  | .opened _, none => (.ok (), s')

/-- A COMMIT that fails has rolled back. -/
def commit : Script ε σ Unit := fun s =>
  let s' := { s with executed := s.executed + 1, tx := .idle }
  match s.tx, s.faults s.executed with
  | .aborted, _ => (.ok (), s')
  | _, some e => (.error (.db e), s')
  | .idle, none => (.ok (), s')
  | .opened working, none => (.ok (), { s' with durable := working })

def rollback : Script ε σ Unit := fun s =>
  (.ok (), { s with executed := s.executed + 1, tx := .idle })

def release (s : Session ε σ) : Session ε σ := { s with returned := s.returned ++ [s.tx] }

/-- Something done elsewhere while the connection is kept: other connections change
    the database, and it may throw. -/
def elsewhere (act : σ → Except (Thrown ε) σ) : Script ε σ Unit := fun s =>
  match act s.durable with
  | .error e => (.error e, s)
  | .ok durable => (.ok (), { s with durable := durable })

/-- `for (const a of as) { .. }` -/
def forEach (as : List β) (body : β → Script ε σ Unit) : Script ε σ Unit :=
  match as with
  | [] => Pure.pure ()
  | a :: as => do
      body a
      forEach as body

/-- `try { body } catch (e) { ROLLBACK; throw e } finally { conn.release() }` -/
def withConnection (body : Script ε σ α) : Script ε σ α :=
  tryFinally (tryCatch body fun e => do rollback; throw e) release

/-! ### Rules -/

/-- From a session in `P`, the script ends in `Q` or throws in `E`. -/
def Ensures (P : Session ε σ → Prop) (x : Script ε σ α) (Q : α → Session ε σ → Prop)
    (E : Thrown ε → Session ε σ → Prop) : Prop :=
  ∀ s, P s → match x s with
    | (.ok a, s') => Q a s'
    | (.error e, s') => E e s'

variable {P P' : Session ε σ → Prop} {Q : α → Session ε σ → Prop} {R : β → Session ε σ → Prop}
  {E E' : Thrown ε → Session ε σ → Prop}

theorem Ensures.pure {a : α} (h : ∀ s, P s → Q a s) : Ensures P (Pure.pure a) Q E := h

theorem Ensures.throw {e : Thrown ε} (h : ∀ s, P s → E e s) : Ensures P (throw e) Q E := h

theorem Ensures.bind {x : Script ε σ α} {k : α → Script ε σ β} (hx : Ensures P x Q E)
    (hk : ∀ a, Ensures (Q a) (k a) R E) : Ensures P (x >>= k) R E := by
  intro s hs
  have hfirst := hx s hs
  show match Script.bind x k s with
    | (.ok a, s') => R a s'
    | (.error e, s') => E e s'
  unfold Script.bind
  rcases hrun : x s with ⟨result, s'⟩
  rw [hrun] at hfirst
  cases result with
  | ok a => exact hk a s' hfirst
  | error e => exact hfirst

theorem Ensures.tryCatch {x : Script ε σ α} {handler : Thrown ε → Script ε σ α}
    (hx : Ensures P x Q E) (hhandler : ∀ e, Ensures (E e) (handler e) Q E') :
    Ensures P (tryCatch x handler) Q E' := by
  intro s hs
  have hbody := hx s hs
  unfold SqlSession.tryCatch
  rcases hrun : x s with ⟨result, s'⟩
  rw [hrun] at hbody
  cases result with
  | ok a => exact hbody
  | error e => exact hhandler e s' hbody

theorem Ensures.tryFinally {x : Script ε σ α} {final : Session ε σ → Session ε σ}
    (hx : Ensures P x (fun a s => Q a (final s)) fun e s => E e (final s)) :
    Ensures P (tryFinally x final) Q E := by
  intro s hs
  have hbody := hx s hs
  unfold SqlSession.tryFinally
  rcases hrun : x s with ⟨result, s'⟩
  rw [hrun] at hbody
  cases result with
  | ok a => exact hbody
  | error e => exact hbody

theorem Ensures.mono {x : Script ε σ α} {Q' : α → Session ε σ → Prop} (hx : Ensures P x Q E)
    (hpre : ∀ s, P' s → P s) (hpost : ∀ a s, Q a s → Q' a s) (herror : ∀ e s, E e s → E' e s) :
    Ensures P' x Q' E' := by
  intro s hs
  have hbody := hx s (hpre s hs)
  rcases hrun : x s with ⟨result, s'⟩
  rw [hrun] at hbody
  cases result with
  | ok a => exact hpost a s' hbody
  | error e => exact herror e s' hbody

/-! ### The states of a transaction -/

/-- The connection is idle and not given back, the database as it was. -/
structure Idle (d : σ) (s : Session ε σ) : Prop where
  durable : s.durable = d
  tx : s.tx = .idle
  returned : s.returned = []

/-- In a transaction that has turned `d` into `w`. -/
structure InTx (d w : σ) (s : Session ε σ) : Prop where
  durable : s.durable = d
  tx : s.tx = .opened w
  returned : s.returned = []

/-- Nothing is durable and the connection is not given back. -/
structure Unchanged (d : σ) (s : Session ε σ) : Prop where
  durable : s.durable = d
  returned : s.returned = []

theorem Idle.borrowed (d : σ) (faults : Nat → Option ε) (inFailedTransaction : ε) :
    Idle d (Session.borrowed d faults inFailedTransaction) := ⟨rfl, rfl, rfl⟩

theorem ensures_begin (d : σ) :
    Ensures (Idle d) begin (fun _ => InTx (ε := ε) d d) fun _ => Unchanged d := by
  intro s hs
  unfold begin
  rw [hs.tx]
  cases s.faults s.executed with
  | none => exact ⟨hs.durable, by rw [hs.durable], hs.returned⟩
  | some e => exact ⟨hs.durable, hs.returned⟩

/-- A statement of a transaction succeeds with its result, or fails. -/
theorem ensures_query {d w v : σ} {a : α} {stmt : σ → Except ε (α × σ)}
    (hstmt : stmt w = .ok (a, v)) :
    Ensures (InTx d w) (query stmt) (fun r s => r = a ∧ InTx d v s) fun _ => Unchanged d := by
  intro s hs
  unfold query
  rw [hs.tx]
  cases s.faults s.executed with
  | none =>
    simp only [hstmt]
    exact ⟨trivial, hs.durable, rfl, hs.returned⟩
  | some e => exact ⟨hs.durable, hs.returned⟩

/-- A statement that violates a constraint fails. -/
theorem ensures_query_error {d w : σ} {e : ε} {stmt : σ → Except ε (α × σ)}
    (hstmt : stmt w = .error e) (Q : α → Session ε σ → Prop) :
    Ensures (InTx d w) (query stmt) Q fun _ => Unchanged d := by
  intro s hs
  unfold query
  rw [hs.tx]
  cases s.faults s.executed with
  | none =>
    simp only [hstmt]
    exact ⟨hs.durable, hs.returned⟩
  | some e => exact ⟨hs.durable, hs.returned⟩

theorem ensures_commit (d w : σ) :
    Ensures (InTx d w) commit (fun _ => Idle (ε := ε) w) fun _ => Unchanged d := by
  intro s hs
  unfold commit
  rw [hs.tx]
  cases s.faults s.executed with
  | none => exact ⟨rfl, rfl, hs.returned⟩
  | some e => exact ⟨hs.durable, hs.returned⟩

theorem ensures_rollback (d : σ) (E : Thrown ε → Session ε σ → Prop) :
    Ensures (Unchanged d) rollback (fun _ => Idle d) E :=
  fun _ hs => ⟨hs.durable, rfl, hs.returned⟩

theorem InTx.unchanged {d w : σ} {s : Session ε σ} (h : InTx d w s) : Unchanged d s :=
  ⟨h.durable, h.returned⟩

theorem Idle.unchanged {d : σ} {s : Session ε σ} (h : Idle d s) : Unchanged d s :=
  ⟨h.durable, h.returned⟩

/-! ### Steps of a transaction, as they are used -/

variable {d w v : σ} {k : α → Script ε σ β}

theorem Ensures.begin_then {k : Unit → Script ε σ β}
    (hk : Ensures (InTx d d) (k ()) R fun _ => Unchanged d) :
    Ensures (Idle d) (begin >>= k) R fun _ => Unchanged d :=
  (ensures_begin d).bind fun _ => hk

theorem Ensures.query_then {a : α} {stmt : σ → Except ε (α × σ)} (hstmt : stmt w = .ok (a, v))
    (hk : Ensures (InTx d v) (k a) R fun _ => Unchanged d) :
    Ensures (InTx d w) (query stmt >>= k) R fun _ => Unchanged d := by
  apply (ensures_query hstmt).bind
  rintro r s ⟨rfl, hs⟩
  exact hk s hs

theorem Ensures.query_fails {e : ε} {stmt : σ → Except ε (α × σ)} (hstmt : stmt w = .error e) :
    Ensures (InTx d w) (query stmt >>= k) R fun _ => Unchanged d :=
  (ensures_query_error hstmt fun _ _ => False).bind fun _ _ hs => hs.elim

/-- The last statement of a loop body. -/
theorem Ensures.query_last {stmt : σ → Except ε (Unit × σ)} (hstmt : stmt w = .ok ((), v)) :
    Ensures (InTx d w) (query stmt) (fun _ => InTx d v) fun _ => Unchanged d :=
  (ensures_query hstmt).mono (fun _ hs => hs) (fun _ _ hs => hs.2) fun _ _ hs => hs

/-- A loop whose body turns `w` into `f w b` folds `f` over the list. -/
theorem ensures_forEach {body : β → Script ε σ Unit} {f : σ → β → σ}
    (hbody : ∀ w b, Ensures (InTx d w) (body b) (fun _ => InTx d (f w b)) fun _ => Unchanged d)
    (bs : List β) (w : σ) :
    Ensures (InTx d w) (forEach bs body) (fun _ => InTx d (bs.foldl f w)) fun _ => Unchanged d := by
  induction bs generalizing w with
  | nil => exact .pure fun _ hs => hs
  | cons b bs ih => exact (hbody w b).bind fun _ => ih (f w b)

/-- `COMMIT; return a`. -/
theorem Ensures.commit_return {b : β} (h : ∀ s, Idle w s → R b s) :
    Ensures (InTx d w) (commit >>= fun _ => Pure.pure b) R fun _ => Unchanged d :=
  (ensures_commit d w).bind fun _ => .pure h

/-- `ROLLBACK; return a`. -/
theorem Ensures.rollback_return {b : β} (h : ∀ s, Idle d s → R b s) :
    Ensures (InTx d w) (rollback >>= fun _ => Pure.pure b) R fun _ => Unchanged d :=
  ((ensures_rollback d _).mono (fun _ hs => hs.unchanged) (fun _ _ hs => hs) fun _ _ hs => hs).bind
    fun _ => .pure h

/-! ### The skeleton -/

/-- Given back once, and idle. -/
def ReturnedIdle (s : Session ε σ) : Prop := s.returned = [.idle]

/-- From `d` the script returns with `done`, or throws and has done nothing; either
    way the connection has been given back once and idle. -/
def Script.Does (x : Script ε σ α) (d : σ) (done : α → σ → Prop) : Prop :=
  Ensures (Idle d) x (fun a s => ReturnedIdle s ∧ done a s.durable)
    fun _ s => ReturnedIdle s ∧ s.durable = d

/-- **The skeleton gives the connection back once and idle**, and leaves the database
    as the body left it, or as it was when the body threw. -/
theorem does_withConnection {body : Script ε σ α} {done : α → σ → Prop}
    (hbody : Ensures (Idle d) body (fun a s => ∃ d', Idle d' s ∧ done a d') fun _ => Unchanged d) :
    (withConnection body).Does d done := by
  apply Ensures.tryFinally
  have hcaught : ∀ e : Thrown ε, Ensures (Unchanged d)
      ((do rollback; throw e) : Script ε σ α) (fun a s => ∃ d', Idle d' s ∧ done a d')
      fun _ => Idle d :=
    fun e => (ensures_rollback d _).bind fun _ => .throw fun _ hs => hs
  apply (hbody.tryCatch hcaught).mono (fun _ hs => hs)
  · rintro a s ⟨d', hidle, hdone⟩
    refine ⟨?_, ?_⟩
    · simp [ReturnedIdle, release, hidle.returned, hidle.tx]
    · simpa [release, hidle.durable] using hdone
  · intro e s hidle
    exact ⟨by simp [ReturnedIdle, release, hidle.returned, hidle.tx], hidle.durable⟩

end SeatReservation.SqlSession
