import SeatReservation.Json
import SeatReservation.JsStrings
import SeatReservation.Relational
import SeatReservation.SqlSession
import SeatReservation.TransitionSystem
import Mathlib.Data.List.Sort

/-!
# Migrations are applied once and in order

Every process runs `runMigrations` when it boots: it reads the set of applied
files once, and then applies each of the others in a transaction that also
inserts the file's name into `_migrations`.  Another process may be at the same
file; the primary key lets only one of the two commit (`migrations_applied_once`).
The statements of a file are known by their file and their position, and their
effects are what the database has committed of them; they touch neither
`_migrations` nor the transaction they run in.
-/

namespace SeatReservation

open Relational TransitionSystem SqlSession

/-! ### Statements of a file -/

/-- The length of the longest `\s*\n` in front. -/
def newlineLength : List Char → Option Nat
  | [] => none
  | c :: rest =>
      if JsStrings.isWhiteSpace c then
        match newlineLength rest with
        | some n => some (n + 1)
        | none => if c = '\n' then some 1 else none
      else none

/-- The pieces between the matches of `/;\s*\n/g`; the first `skip` characters belong to
    a match. -/
def splitAtSeparators (skip : Nat) : List Char → List (List Char)
  | [] => [[]]
  | c :: rest =>
      match skip with
      | n + 1 => splitAtSeparators n rest
      | 0 =>
          match (if c = ';' then newlineLength rest else none) with
          | some n => [] :: splitAtSeparators n rest
          | none =>
              match splitAtSeparators 0 rest with
              | [] => [[c]]
              | piece :: pieces => (c :: piece) :: pieces

/-- `sql.split(/;\s*\n/g).map((s) => s.trim()).filter(Boolean)`. -/
def sqlStatements (sql : String) : List String :=
  ((splitAtSeparators 0 sql.toList).map fun piece => JsStrings.trim (.ofList piece)).filter
    fun s => s != ""

example : sqlStatements "CREATE TABLE a (b INT); \n\nSELECT ';x';\n -- end\n;\n" =
    ["CREATE TABLE a (b INT)", "SELECT ';x'", "-- end"] := by decide

/-! ### Files -/

structure MigrationFile where
  name : String
  sql : String
deriving DecidableEq, Repr

/-- A statement of a file, with its position. -/
structure MigrationStatement where
  file : String
  position : Nat
  sql : String
deriving DecidableEq, Repr

def MigrationFile.statements (f : MigrationFile) : List MigrationStatement :=
  (sqlStatements f.sql).zipIdx.map fun x => ⟨f.name, x.2, x.1⟩

/-- The order of `Array.prototype.sort`, by code units. -/
def codeUnitsLe : List UInt16 → List UInt16 → Bool
  | [], _ => true
  | _ :: _, [] => false
  | a :: as, b :: bs => decide (a < b) || (a == b && codeUnitsLe as bs)

def MigrationFile.codeUnits (f : MigrationFile) : List UInt16 := f.name.toList.flatMap Json.utf16

def MigrationFile.le (f g : MigrationFile) : Prop := codeUnitsLe f.codeUnits g.codeUnits = true

instance : DecidableRel MigrationFile.le := fun f g =>
  inferInstanceAs (Decidable (codeUnitsLe f.codeUnits g.codeUnits = true))

/-- What is in the directory of the migrations. -/
structure MigrationsDir where
  entries : List MigrationFile
  distinct : (entries.map (·.name)).Nodup

/-- `readdirSync(migrationsDir).filter((f) => f.endsWith('.sql')).sort()`. -/
def MigrationsDir.files (dir : MigrationsDir) : List MigrationFile :=
  (dir.entries.filter fun f => ".sql".toList.isSuffixOf f.name.toList).insertionSort
    MigrationFile.le

/-! ### The database and the runs -/

structure MigrationDb where
  /-- The names in `_migrations`, once there is such a table. -/
  table : Option (List String)
  /-- The statements of migrations that have been committed, in order. -/
  effects : List MigrationStatement

def MigrationDb.recorded (db : MigrationDb) : List String := db.table.getD []

/-- What a transaction has done so far. -/
structure MigrationChanges where
  effects : List MigrationStatement
  records : List String

/-- What is waited for: `applying` is the next statement of a file, or the INSERT when
    there is none left, and `later` the files after it. -/
inductive MigrationPoint where
  | createTable
  | select
  | begin (f : MigrationFile) (later : List MigrationFile)
  | applying (f : MigrationFile) (later : List MigrationFile) (todo : List MigrationStatement)
  | commit (f : MigrationFile) (later : List MigrationFile)
  | rollback
  | ended (failed : Bool)

/-- A call of `runMigrations`. -/
structure MigrationRun where
  point : MigrationPoint
  applied : List String
  /-- Its connection, as the server sees it. -/
  tx : Tx MigrationChanges
  /-- The files it has had committed. -/
  committed : List MigrationFile

def MigrationRun.boot : MigrationRun := ⟨.createTable, [], .idle, []⟩

structure MigrationSystem where
  db : MigrationDb
  runs : List MigrationRun

def MigrationSystem.fresh : MigrationSystem := ⟨⟨none, []⟩, []⟩

/-- How a query ends: the server reports an error, or the connection (or the process) is
    lost, before or after the query has taken effect. -/
inductive QueryReply where
  | ok
  | error
  | lost
  | unanswered
deriving DecidableEq, Repr

inductive MigrationAction where
  | boot
  | query (i : Nat) (reply : QueryReply)

/-! ### Steps -/

def MigrationDb.createTable (db : MigrationDb) : MigrationDb :=
  { db with table := some db.recorded }

def MigrationDb.commit (db : MigrationDb) (changes : MigrationChanges) : MigrationDb where
  table := some (db.recorded ++ changes.records)
  effects := db.effects ++ changes.effects

/-- The loop goes on with the next file that is not in the set. -/
def nextFile (applied : List String) : List MigrationFile → MigrationPoint
  | [] => .ended false
  | f :: later => if applied.contains f.name then nextFile applied later else .begin f later

/-- The call throws; the connection is given back, or is lost and rolled back. -/
def MigrationRun.fail (r : MigrationRun) : MigrationRun :=
  { r with point := .ended true, tx := .idle }

/-- `catch`: the transaction has been aborted. -/
def MigrationRun.abort (r : MigrationRun) : MigrationRun :=
  { r with point := .rollback, tx := .aborted }

/-- The names a transaction has inserted and not committed. -/
def MigrationRun.held (r : MigrationRun) : List String :=
  match r.tx with
  | .opened changes => changes.records
  | _ => []

def MigrationRun.changes (r : MigrationRun) : MigrationChanges :=
  match r.tx with
  | .opened changes => changes
  | _ => ⟨[], []⟩

/-- `INSERT INTO _migrations`: a name that is there is an error, and one that another
    transaction has inserted is waited for. -/
def MigrationRun.insert (r : MigrationRun) (db : MigrationDb) (held : List String)
    (f : MigrationFile) (later : List MigrationFile) : MigrationRun :=
  if db.table.isNone ∨ f.name ∈ db.recorded then r.abort
  else if f.name ∈ held then r
  else
    { r with
      point := .commit f later
      tx := .opened ⟨r.changes.effects, r.changes.records ++ [f.name]⟩ }

/-- The transaction of a file has been committed. -/
def MigrationRun.commit (r : MigrationRun) (f : MigrationFile) : MigrationRun :=
  { r with tx := .idle, committed := r.committed ++ [f] }

/-- The query a run is at ends; `held` are the names in open transactions. -/
def MigrationRun.query (dir : MigrationsDir) (db : MigrationDb) (held : List String)
    (r : MigrationRun) (reply : QueryReply) : MigrationDb × MigrationRun :=
  match r.point with
  | .createTable =>
      match reply with
      | .ok => (db.createTable, { r with point := .select })
      | .unanswered => (db.createTable, r.fail)
      | _ => (db, r.fail)
  | .select =>
      match reply, db.table with
      | .ok, some names => (db, { r with point := nextFile names dir.files, applied := names })
      | _, _ => (db, r.fail)
  | .begin f later =>
      match reply with
      | .ok => (db, { r with point := .applying f later f.statements, tx := .opened ⟨[], []⟩ })
      | _ => (db, r.fail)
  | .applying f later (statement :: todo) =>
      match reply with
      | .ok =>
          (db, { r with
            point := .applying f later todo
            tx := .opened ⟨r.changes.effects ++ [statement], r.changes.records⟩ })
      | .error => (db, r.abort)
      | _ => (db, r.fail)
  | .applying f later [] =>
      match reply with
      | .ok => (db, r.insert db held f later)
      | .error => (db, r.abort)
      | _ => (db, r.fail)
  | .commit f later =>
      match reply with
      | .ok =>
          (db.commit r.changes, { r.commit f with point := nextFile r.applied later })
      | .error => (db, { r with point := .rollback, tx := .idle })
      | .lost => (db, r.fail)
      | .unanswered => (db.commit r.changes, (r.commit f).fail)
  | .rollback => (db, r.fail)
  | .ended _ => (db, r)

def MigrationSystem.step (dir : MigrationsDir) (s : MigrationSystem) :
    MigrationAction → MigrationSystem
  | .boot => { s with runs := s.runs ++ [.boot] }
  | .query i reply =>
      match s.runs[i]? with
      | none => s
      | some r =>
          let (db, r) := r.query dir s.db (s.runs.flatMap (·.held)) reply
          ⟨db, s.runs.set i r⟩

/-! ### What a query does -/

/-- What the database has is what the applied files, each of them once, have done. -/
def MigrationDb.Exact (dir : MigrationsDir) (db : MigrationDb) : Prop :=
  ∃ applied : List MigrationFile, applied ⊆ dir.files ∧ db.recorded = applied.map (·.name) ∧
    db.effects = applied.flatMap (·.statements)

/-- The run has dealt with the files before `rest`. -/
def MigrationRun.Reached (dir : MigrationsDir) (db : MigrationDb) (r : MigrationRun)
    (rest : List MigrationFile) : Prop :=
  ∃ before, dir.files = before ++ rest ∧ r.committed.Sublist before ∧
    ∀ f ∈ before, f.name ∈ db.recorded

/-- What holds at each point of the program. -/
def MigrationRun.At (dir : MigrationsDir) (db : MigrationDb) (r : MigrationRun) :
    MigrationPoint → Prop
  | .createTable => r.tx = .idle ∧ r.committed = []
  | .select => r.tx = .idle ∧ r.committed = []
  | .begin f later => r.tx = .idle ∧ r.Reached dir db (f :: later)
  | .applying f later todo =>
      (∃ executed, r.tx = .opened ⟨executed, []⟩ ∧ executed ++ todo = f.statements) ∧
        r.Reached dir db (f :: later)
  | .commit f later => r.tx = .opened ⟨f.statements, [f.name]⟩ ∧ r.Reached dir db (f :: later)
  | .rollback => r.held = []
  | .ended failed => r.tx = .idle ∧ (failed = false → r.Reached dir db [])

/-- What holds of a run between its queries. -/
structure MigrationRun.Ok (dir : MigrationsDir) (db : MigrationDb) (r : MigrationRun) : Prop where
  snapshot : r.applied ⊆ db.recorded
  order : r.committed.Sublist dir.files
  recorded : (r.committed.map (·.name)).Sublist db.recorded
  here : r.At dir db r.point

/-- What a query can do to the database and to the names in open transactions. -/
inductive QueryEffect (dir : MigrationsDir) (db : MigrationDb) (held : List String)
    (r : MigrationRun) : MigrationDb → MigrationRun → Prop where
  | quiet {db' : MigrationDb} {r' : MigrationRun} (recorded : db'.recorded = db.recorded)
      (effects : db'.effects = db.effects) (keeps : r'.held.Sublist r.held) :
      QueryEffect dir db held r db' r'
  | inserts {r' : MigrationRun} {name : String} (before : r.held = [])
      (unrecorded : name ∉ db.recorded) (free : name ∉ held) (after : r'.held = [name]) :
      QueryEffect dir db held r db r'
  | commits {db' : MigrationDb} {r' : MigrationRun} {f : MigrationFile} (file : f ∈ dir.files)
      (before : r.held = [f.name]) (after : r'.held = [])
      (recorded : db'.recorded = db.recorded ++ [f.name])
      (effects : db'.effects = db.effects ++ f.statements) :
      QueryEffect dir db held r db' r'

section Query

variable {dir : MigrationsDir} {db db' : MigrationDb} {held : List String} {r : MigrationRun}

theorem MigrationRun.Reached.mem {f : MigrationFile} {later : List MigrationFile}
    (h : r.Reached dir db (f :: later)) : f ∈ dir.files := by
  obtain ⟨before, hfiles, -⟩ := h
  rw [hfiles]
  simp

theorem MigrationRun.Reached.mono {rest : List MigrationFile} (h : r.Reached dir db rest)
    (hgrows : db.recorded ⊆ db'.recorded) : r.Reached dir db' rest := by
  obtain ⟨before, hfiles, hcommitted, hrecorded⟩ := h
  exact ⟨before, hfiles, hcommitted, fun f hf => hgrows (hrecorded f hf)⟩

/-- A file that is recorded has been dealt with. -/
theorem MigrationRun.Reached.skip {f : MigrationFile} {later : List MigrationFile}
    (h : r.Reached dir db (f :: later)) (hf : f.name ∈ db.recorded) : r.Reached dir db later := by
  obtain ⟨before, hfiles, hcommitted, hrecorded⟩ := h
  refine ⟨before ++ [f], by simp [hfiles], hcommitted.trans (List.sublist_append_left _ _), ?_⟩
  intro g hg
  rcases List.mem_append.mp hg with hg | hg
  · exact hrecorded g hg
  · rw [List.mem_singleton.mp hg]
    exact hf

/-- The next file of the loop, or the end. -/
theorem MigrationRun.Reached.next {rest : List MigrationFile} (h : r.Reached dir db rest)
    (hidle : r.tx = .idle) {applied : List String} (happlied : applied ⊆ db.recorded) :
    r.At dir db (nextFile applied rest) := by
  induction rest with
  | nil => exact ⟨hidle, fun _ => h⟩
  | cons f later ih =>
    rw [nextFile]
    split
    · rename_i hskip
      exact ih (h.skip (happlied (by simpa using hskip)))
    · exact ⟨hidle, h⟩

theorem MigrationRun.At.mono {p : MigrationPoint} (h : r.At dir db p)
    (hgrows : db.recorded ⊆ db'.recorded) : r.At dir db' p := by
  cases p with
  | createTable => exact h
  | select => exact h
  | begin f later => exact ⟨h.1, h.2.mono hgrows⟩
  | applying f later todo => exact ⟨h.1, h.2.mono hgrows⟩
  | commit f later => exact ⟨h.1, h.2.mono hgrows⟩
  | rollback => exact h
  | ended failed => exact ⟨h.1, fun hok => (h.2 hok).mono hgrows⟩

theorem MigrationRun.Ok.mono (h : r.Ok dir db) (hgrows : db.recorded.Sublist db'.recorded) :
    r.Ok dir db' where
  snapshot := fun _ hx => hgrows.subset (h.snapshot hx)
  order := h.order
  recorded := h.recorded.trans hgrows
  here := h.here.mono hgrows.subset

/-- A run that goes on to another point of the program. -/
theorem MigrationRun.Ok.goTo (h : r.Ok dir db) {tx : Tx MigrationChanges} {p : MigrationPoint}
    (hp : MigrationRun.At dir db { r with point := p, tx := tx } p) :
    MigrationRun.Ok dir db { r with point := p, tx := tx } :=
  ⟨h.snapshot, h.order, h.recorded, hp⟩

theorem MigrationRun.Ok.fail (h : r.Ok dir db) : r.fail.Ok dir db :=
  h.goTo ⟨rfl, fun hfailed => by cases hfailed⟩

theorem MigrationRun.Ok.abort (h : r.Ok dir db) : r.abort.Ok dir db := h.goTo rfl

/-- A step of a run, as the other runs and the invariant see it. -/
structure MigrationRun.Steps (dir : MigrationsDir) (db : MigrationDb) (held : List String)
    (r : MigrationRun) (x : MigrationDb × MigrationRun) : Prop where
  effect : QueryEffect dir db held r x.1 x.2
  ok : x.2.Ok dir x.1

theorem MigrationRun.Ok.steps_fail (h : r.Ok dir db) : r.Steps dir db held (db, r.fail) :=
  ⟨.quiet rfl rfl (List.nil_sublist _), h.fail⟩

theorem MigrationRun.Ok.steps_abort (h : r.Ok dir db) : r.Steps dir db held (db, r.abort) :=
  ⟨.quiet rfl rfl (List.nil_sublist _), h.abort⟩

/-- The transaction of a file is committed, and the run is past it. -/
theorem MigrationRun.Ok.commit (h : r.Ok dir db) {f : MigrationFile} {later : List MigrationFile}
    (hpoint : r.point = .commit f later) {p : MigrationPoint}
    (hp : (r.commit f).Reached dir (db.commit r.changes) later →
      (r.commit f).At dir (db.commit r.changes) p) :
    r.Steps dir db held (db.commit r.changes, { r.commit f with point := p }) := by
  have hhere := h.here
  rw [hpoint] at hhere
  obtain ⟨htx, hreached⟩ := hhere
  have hchanges : r.changes = ⟨f.statements, [f.name]⟩ := by rw [MigrationRun.changes, htx]
  have hrecorded : (db.commit r.changes).recorded = db.recorded ++ [f.name] := by
    rw [hchanges]
    rfl
  have hgrows : db.recorded.Sublist (db.commit r.changes).recorded := by
    rw [hrecorded]
    exact List.sublist_append_left _ _
  have hpast : (r.commit f).Reached dir (db.commit r.changes) later := by
    obtain ⟨before, hfiles, hcommitted, hbefore⟩ := hreached
    refine ⟨before ++ [f], by simp [hfiles], hcommitted.append (List.Sublist.refl _), ?_⟩
    intro g hg
    rw [hrecorded]
    rcases List.mem_append.mp hg with hg | hg
    · exact List.mem_append_left _ (hbefore g hg)
    · rw [List.mem_singleton.mp hg]
      simp
  constructor
  · refine .commits hreached.mem ?_ rfl hrecorded ?_
    · rw [MigrationRun.held, htx]
    · rw [hchanges]
      rfl
  · refine ⟨fun _ hx => hgrows.subset (h.snapshot hx), ?_, ?_, hp hpast⟩
    · obtain ⟨before, hfiles, hcommitted, -⟩ := hpast
      rw [hfiles]
      exact hcommitted.trans (List.sublist_append_left _ _)
    · rw [hrecorded]
      show ((r.committed ++ [f]).map (·.name)).Sublist _
      rw [List.map_append]
      exact h.recorded.append (List.Sublist.refl _)

theorem MigrationRun.Ok.insert (h : r.Ok dir db) {f : MigrationFile} {later : List MigrationFile}
    (hpoint : r.point = .applying f later []) :
    r.Steps dir db held (db, r.insert db held f later) := by
  have hhere := h.here
  rw [hpoint] at hhere
  obtain ⟨⟨executed, htx, hexecuted⟩, hreached⟩ := hhere
  rw [List.append_nil] at hexecuted
  subst hexecuted
  unfold MigrationRun.insert
  split
  · exact h.steps_abort
  · rename_i hnew
    split
    · exact ⟨.quiet rfl rfl (List.Sublist.refl _), h⟩
    · rename_i hfree
      have hchanges : r.changes = ⟨f.statements, []⟩ := by rw [MigrationRun.changes, htx]
      rw [hchanges]
      refine ⟨.inserts ?_ (fun hrecorded => hnew (Or.inr hrecorded)) hfree rfl, ?_⟩
      · rw [MigrationRun.held, htx]
      · exact h.goTo ⟨rfl, hreached⟩

/-- The set of applied files is read, and the loop begins. -/
theorem MigrationRun.Ok.select (h : r.Ok dir db) (hpoint : r.point = .select)
    {names : List String} (htable : db.table = some names) :
    r.Steps dir db held (db, { r with point := nextFile names dir.files, applied := names }) := by
  have hhere := h.here
  rw [hpoint] at hhere
  have hnames : names ⊆ db.recorded := by
    rw [MigrationDb.recorded, htable]
    exact List.Subset.refl _
  have hstart : r.Reached dir db dir.files := ⟨[], rfl, by rw [hhere.2], by simp⟩
  exact ⟨.quiet rfl rfl (List.Sublist.refl _),
    ⟨hnames, h.order, h.recorded, hstart.next hhere.1 hnames⟩⟩

/-- A statement of the file has been executed. -/
theorem MigrationRun.Ok.execute (h : r.Ok dir db) {f : MigrationFile}
    {later : List MigrationFile} {statement : MigrationStatement} {todo : List MigrationStatement}
    (hpoint : r.point = .applying f later (statement :: todo)) :
    r.Steps dir db held (db, { r with
      point := .applying f later todo
      tx := .opened ⟨r.changes.effects ++ [statement], r.changes.records⟩ }) := by
  have hhere := h.here
  rw [hpoint] at hhere
  obtain ⟨⟨executed, htx, hexecuted⟩, hreached⟩ := hhere
  have hchanges : r.changes = ⟨executed, []⟩ := by rw [MigrationRun.changes, htx]
  have hnext : executed ++ [statement] ++ todo = f.statements := by
    rw [List.append_assoc]
    exact hexecuted
  rw [hchanges]
  exact ⟨.quiet rfl rfl (List.nil_sublist _), h.goTo ⟨⟨_, rfl, hnext⟩, hreached⟩⟩

/-- **What the query of a run can do.** -/
theorem MigrationRun.Ok.query (h : r.Ok dir db) (held : List String) (reply : QueryReply) :
    r.Steps dir db held (r.query dir db held reply) := by
  have hhere := h.here
  unfold MigrationRun.query
  cases hpoint : r.point with
  | createTable =>
    rw [hpoint] at hhere
    have hcreated : r.Ok dir db.createTable := h.mono (List.Sublist.refl _)
    cases reply with
    | ok => exact ⟨.quiet rfl rfl (List.Sublist.refl _), hcreated.goTo hhere⟩
    | error => exact h.steps_fail
    | lost => exact h.steps_fail
    | unanswered => exact ⟨.quiet rfl rfl (List.nil_sublist _), hcreated.fail⟩
  | select =>
    simp only
    split
    · rename_i names htable
      exact h.select hpoint htable
    · exact h.steps_fail
  | begin f later =>
    rw [hpoint] at hhere
    cases reply with
    | ok =>
      exact ⟨.quiet rfl rfl (List.nil_sublist _), h.goTo ⟨⟨[], rfl, rfl⟩, hhere.2⟩⟩
    | error => exact h.steps_fail
    | lost => exact h.steps_fail
    | unanswered => exact h.steps_fail
  | applying f later todo =>
    cases todo with
    | nil =>
      cases reply with
      | ok => exact h.insert hpoint
      | error => exact h.steps_abort
      | lost => exact h.steps_fail
      | unanswered => exact h.steps_fail
    | cons statement todo =>
      cases reply with
      | ok => exact h.execute hpoint
      | error => exact h.steps_abort
      | lost => exact h.steps_fail
      | unanswered => exact h.steps_fail
  | commit f later =>
    cases reply with
    | ok =>
      apply h.commit hpoint
      intro hpast
      exact hpast.next rfl fun _ hx => List.mem_append_left _ (h.snapshot hx)
    | error => exact ⟨.quiet rfl rfl (List.nil_sublist _), h.goTo rfl⟩
    | lost => exact h.steps_fail
    | unanswered => exact h.commit hpoint fun _ => ⟨rfl, fun hfailed => by cases hfailed⟩
  | rollback => exact h.steps_fail
  | ended failed => exact ⟨.quiet rfl rfl (List.Sublist.refl _), h⟩

end Query

theorem QueryEffect.grows {dir : MigrationsDir} {db db' : MigrationDb} {held : List String}
    {r r' : MigrationRun} (h : QueryEffect dir db held r db' r') :
    db.recorded.Sublist db'.recorded := by
  cases h with
  | quiet recorded effects keeps => exact recorded ▸ List.Sublist.refl _
  | inserts before unrecorded free after => exact List.Sublist.refl _
  | commits file before after recorded effects =>
    rw [recorded]
    exact List.sublist_append_left _ _

/-! ### The invariant -/

/-- No name is recorded or held twice, and every run is where its program says. -/
structure MigrationSystem.Valid (dir : MigrationsDir) (s : MigrationSystem) : Prop where
  exact : s.db.Exact dir
  distinct : (s.db.recorded ++ s.runs.flatMap (·.held)).Nodup
  runs : ∀ r ∈ s.runs, r.Ok dir s.db

theorem MigrationSystem.valid_fresh (dir : MigrationsDir) : MigrationSystem.fresh.Valid dir where
  exact := ⟨[], by simp, rfl, rfl⟩
  distinct := List.nodup_nil
  runs := by simp [MigrationSystem.fresh]

theorem QueryEffect.exact {dir : MigrationsDir} {db db' : MigrationDb} {held : List String}
    {r r' : MigrationRun} (h : QueryEffect dir db held r db' r') (hexact : db.Exact dir) :
    db'.Exact dir := by
  obtain ⟨applied, hfiles, hrecorded, heffects⟩ := hexact
  cases h with
  | quiet recorded effects keeps =>
    exact ⟨applied, hfiles, recorded.trans hrecorded, effects.trans heffects⟩
  | inserts before unrecorded free after => exact ⟨applied, hfiles, hrecorded, heffects⟩
  | @commits _ _ f file before after recorded effects =>
    refine ⟨applied ++ [f], ?_, ?_, ?_⟩
    · exact List.append_subset.mpr ⟨hfiles, by simpa using file⟩
    · rw [recorded, hrecorded, List.map_append]
      rfl
    · rw [effects, heffects, List.flatMap_append]
      simp

/-- The primary key: a name that is inserted is nobody's, and a commit moves it from the
    transaction to the table. -/
theorem QueryEffect.distinct {dir : MigrationsDir} {db db' : MigrationDb}
    {before after : List MigrationRun} {r r' : MigrationRun}
    (h : QueryEffect dir db ((before ++ r :: after).flatMap (·.held)) r db' r')
    (hdistinct : (db.recorded ++ (before ++ r :: after).flatMap (·.held)).Nodup) :
    (db'.recorded ++ (before ++ r' :: after).flatMap (·.held)).Nodup := by
  rw [List.flatMap_append, List.flatMap_cons] at hdistinct ⊢
  cases h with
  | quiet recorded effects keeps =>
    rw [recorded]
    apply List.Nodup.sublist _ hdistinct
    exact (List.Sublist.refl _).append ((List.Sublist.refl _).append (keeps.append_right _))
  | inserts hbefore unrecorded free hafter =>
    rw [List.flatMap_append, List.flatMap_cons] at free
    rw [hbefore, List.nil_append] at hdistinct free
    rw [hafter, List.singleton_append, ← List.append_assoc, List.nodup_middle, List.nodup_cons,
      List.append_assoc]
    refine ⟨?_, hdistinct⟩
    rw [List.mem_append]
    exact fun hmem => hmem.elim unrecorded free
  | commits file hbefore hafter recorded effects =>
    rw [hbefore, List.singleton_append, ← List.append_assoc, List.nodup_middle] at hdistinct
    rw [hafter, recorded, List.nil_append, List.append_assoc, List.singleton_append,
      List.nodup_middle, ← List.append_assoc]
    exact hdistinct

theorem MigrationSystem.Valid.step {dir : MigrationsDir} {s : MigrationSystem}
    (h : s.Valid dir) (a : MigrationAction) : (s.step dir a).Valid dir := by
  cases a with
  | boot =>
    refine ⟨h.exact, ?_, ?_⟩
    · simpa [MigrationSystem.step, MigrationRun.held, MigrationRun.boot] using h.distinct
    · intro r hr
      rcases List.mem_append.mp hr with hr | hr
      · exact h.runs r hr
      · rw [List.mem_singleton.mp hr]
        exact ⟨List.nil_subset _, List.nil_sublist _, List.nil_sublist _, rfl, rfl⟩
  | query i reply =>
    simp only [MigrationSystem.step]
    cases hi : s.runs[i]? with
    | none => exact h
    | some r =>
      obtain ⟨before, after, hruns, rfl⟩ := exists_split_of_getElem? hi
      have hmem : r ∈ s.runs := List.mem_of_getElem? hi
      have hsteps := (h.runs r hmem).query (s.runs.flatMap (·.held)) reply
      have hothers : ∀ q ∈ before ++ r :: after,
          q.Ok dir (r.query dir s.db (s.runs.flatMap (·.held)) reply).1 := by
        rw [← hruns]
        exact fun q hq => (h.runs q hq).mono hsteps.effect.grows
      have hdistinct := h.distinct
      have heffect := hsteps.effect
      rw [hruns] at hdistinct heffect
      constructor
      · exact hsteps.effect.exact h.exact
      · show (_ ++ (s.runs.set _ _).flatMap _).Nodup
        rw [hruns, set_split]
        exact heffect.distinct hdistinct
      · show ∀ q ∈ s.runs.set _ _, _
        rw [hruns, set_split]
        rw [hruns] at hothers hsteps
        exact forall_mem_replace hothers hsteps.ok

/-! ### Names and statements -/

theorem codeUnitsLe_total : ∀ as bs : List UInt16,
    codeUnitsLe as bs = true ∨ codeUnitsLe bs as = true
  | [], _ => Or.inl rfl
  | _ :: _, [] => Or.inr rfl
  | a :: as, b :: bs => by
      simp only [codeUnitsLe, Bool.or_eq_true, Bool.and_eq_true, decide_eq_true_eq, beq_iff_eq]
      have ih := codeUnitsLe_total as bs
      by_cases heq : a = b
      · exact ih.imp (fun h => Or.inr ⟨heq, h⟩) fun h => Or.inr ⟨heq.symm, h⟩
      · exact (UInt16.lt_or_lt_of_ne heq).imp Or.inl Or.inl

theorem codeUnitsLe_trans : ∀ {as bs cs : List UInt16}, codeUnitsLe as bs = true →
    codeUnitsLe bs cs = true → codeUnitsLe as cs = true
  | [], _, _, _, _ => rfl
  | _ :: _, [], _, h, _ => by simp [codeUnitsLe] at h
  | _ :: _, _ :: _, [], _, h => by simp [codeUnitsLe] at h
  | a :: as, b :: bs, c :: cs, hab, hbc => by
      simp only [codeUnitsLe, Bool.or_eq_true, Bool.and_eq_true, decide_eq_true_eq,
        beq_iff_eq] at hab hbc ⊢
      rcases hab with hab | ⟨rfl, hab⟩
      · rcases hbc with hbc | ⟨rfl, -⟩
        · exact Or.inl (UInt16.lt_trans hab hbc)
        · exact Or.inl hab
      · rcases hbc with hbc | ⟨rfl, hbc⟩
        · exact Or.inl hbc
        · exact Or.inr ⟨rfl, codeUnitsLe_trans hab hbc⟩

instance : Std.Total MigrationFile.le := ⟨fun f g => codeUnitsLe_total f.codeUnits g.codeUnits⟩

instance : IsTrans MigrationFile MigrationFile.le := ⟨fun _ _ _ => codeUnitsLe_trans⟩

/-- The file comes first in the order of the names. -/
def MigrationFile.Before (f g : MigrationFile) : Prop := f.le g ∧ f.name ≠ g.name

theorem MigrationsDir.keyedBy_files (dir : MigrationsDir) : KeyedBy (·.name) dir.files := by
  have hentries : KeyedBy (·.name) dir.entries := dir.distinct
  exact (hentries.sublist List.filter_sublist).perm (List.perm_insertionSort _ _).symm

theorem MigrationsDir.files_sorted (dir : MigrationsDir) :
    dir.files.Pairwise MigrationFile.Before :=
  (List.pairwise_insertionSort _ _).and (List.pairwise_map.mp dir.keyedBy_files)

theorem MigrationFile.file_of_mem {f : MigrationFile} {statement : MigrationStatement}
    (h : statement ∈ f.statements) : statement.file = f.name := by
  obtain ⟨x, -, rfl⟩ := List.mem_map.mp h
  rfl

theorem MigrationFile.nodup_statements (f : MigrationFile) : f.statements.Nodup := by
  apply List.Nodup.of_map MigrationStatement.position
  rw [MigrationFile.statements, List.map_map]
  show ((sqlStatements f.sql).zipIdx.map Prod.snd).Nodup
  rw [List.zipIdx_map_snd]
  exact List.nodup_range'

/-- A statement has been committed once when its file is recorded, and else never. -/
theorem MigrationSystem.Valid.count_effects {dir : MigrationsDir} {s : MigrationSystem}
    (h : s.Valid dir) {f : MigrationFile} (hf : f ∈ dir.files) {statement : MigrationStatement}
    (hstatement : statement ∈ f.statements) :
    s.db.effects.count statement = if f.name ∈ s.db.recorded then 1 else 0 := by
  obtain ⟨applied, hfiles, hrecorded, heffects⟩ := h.exact
  have hkeyed : KeyedBy (·.name) applied := by
    have hdistinct := (List.nodup_append.mp h.distinct).1
    rw [hrecorded] at hdistinct
    exact hdistinct
  have hnodup : s.db.effects.Nodup := by
    rw [heffects, List.nodup_flatMap]
    refine ⟨fun g _ => g.nodup_statements, (List.pairwise_map.mp hkeyed).imp ?_⟩
    intro g g' hne x hx hx'
    exact hne ((MigrationFile.file_of_mem hx).symm.trans (MigrationFile.file_of_mem hx'))
  have hmem : statement ∈ s.db.effects ↔ f.name ∈ s.db.recorded := by
    rw [heffects, hrecorded, List.mem_flatMap, List.mem_map]
    constructor
    · rintro ⟨g, hg, hx⟩
      exact ⟨g, hg,
        (MigrationFile.file_of_mem hx).symm.trans (MigrationFile.file_of_mem hstatement)⟩
    · rintro ⟨g, hg, hname⟩
      rw [dir.keyedBy_files.eq_of_mem (hfiles hg) hf hname] at hg
      exact ⟨f, hg, hstatement⟩
  rw [hnodup.count, if_congr hmem rfl rfl]

/-! ### Failed runs -/

/-- A query has failed. -/
def MigrationRun.failed (r : MigrationRun) : Bool :=
  match r.point with
  | .rollback => true
  | .ended failed => failed
  | _ => false

theorem MigrationRun.query_failed {r : MigrationRun} (h : r.failed = true) (dir : MigrationsDir)
    (db : MigrationDb) (held : List String) (reply : QueryReply) :
    (r.query dir db held reply).2.failed = true ∧
      (r.query dir db held reply).2.committed = r.committed := by
  unfold MigrationRun.failed at h
  unfold MigrationRun.query
  cases hpoint : r.point with
  | rollback => exact ⟨rfl, rfl⟩
  | ended failed =>
    rw [hpoint] at h
    refine ⟨?_, rfl⟩
    rw [MigrationRun.failed, hpoint]
    exact h
  | createTable => simp [hpoint] at h
  | select => simp [hpoint] at h
  | begin f later => simp [hpoint] at h
  | applying f later todo => simp [hpoint] at h
  | commit f later => simp [hpoint] at h

/-- A query that does not succeed stops the run: nothing more is committed, except that
    a COMMIT without an answer may have taken effect. -/
theorem MigrationRun.query_stops {r : MigrationRun} (hrunning : ∀ failed, r.point ≠ .ended failed)
    {reply : QueryReply} (hreply : reply ≠ .ok) (dir : MigrationsDir) (db : MigrationDb)
    (held : List String) :
    (r.query dir db held reply).2.failed = true ∧
      ((r.query dir db held reply).2.committed = r.committed ∨
        ∃ f later, r.point = .commit f later ∧
          (r.query dir db held reply).2.committed = r.committed ++ [f]) := by
  unfold MigrationRun.query
  cases hpoint : r.point with
  | commit f later =>
    cases reply with
    | ok => exact absurd rfl hreply
    | error => exact ⟨rfl, Or.inl rfl⟩
    | lost => exact ⟨rfl, Or.inl rfl⟩
    | unanswered => exact ⟨rfl, Or.inr ⟨f, later, rfl, rfl⟩⟩
  | ended failed => exact absurd hpoint (hrunning failed)
  | applying f later todo =>
    cases todo <;> cases reply <;> first | exact absurd rfl hreply | exact ⟨rfl, Or.inl rfl⟩
  | _ => cases reply <;> first | exact absurd rfl hreply | exact ⟨rfl, Or.inl rfl⟩

/-- Run `i` has failed with these files committed. -/
def MigrationSystem.FailedWith (s : MigrationSystem) (i : Nat) (files : List MigrationFile) :
    Prop :=
  ∃ r, s.runs[i]? = some r ∧ r.failed = true ∧ r.committed = files

theorem MigrationSystem.FailedWith.step {dir : MigrationsDir} {s : MigrationSystem} {i : Nat}
    {files : List MigrationFile} (h : s.FailedWith i files) (a : MigrationAction) :
    (s.step dir a).FailedWith i files := by
  obtain ⟨r, hr, hfailed, hcommitted⟩ := h
  have hlt : i < s.runs.length := (List.getElem?_eq_some_iff.mp hr).1
  cases a with
  | boot =>
    refine ⟨r, ?_, hfailed, hcommitted⟩
    simp only [MigrationSystem.step]
    rw [List.getElem?_append_left hlt]
    exact hr
  | query j reply =>
    simp only [MigrationSystem.step]
    cases hj : s.runs[j]? with
    | none => exact ⟨r, hr, hfailed, hcommitted⟩
    | some q =>
      by_cases hij : j = i
      · subst hij
        rw [hr, Option.some.injEq] at hj
        subst hj
        obtain ⟨hstill, hsame⟩ :=
          MigrationRun.query_failed hfailed dir s.db (s.runs.flatMap (·.held)) reply
        exact ⟨_, List.getElem?_set_self hlt, hstill, hsame.trans hcommitted⟩
      · refine ⟨r, ?_, hfailed, hcommitted⟩
        show (s.runs.set j _)[i]? = some r
        rw [List.getElem?_set_ne hij]
        exact hr

/-! ### The result -/

/-- **Migrations are applied once and in order.**  However many runs there are, whatever
    they are interleaved with and wherever they end, each file is committed as a whole and
    at most once, together with its record; a run commits files in the order of their
    names, and none after a query of it has failed; and a run that ends without an error
    leaves all files applied. -/
theorem migrations_applied_once (dir : MigrationsDir) (as : List MigrationAction) :
    let s := exec (MigrationSystem.step dir) MigrationSystem.fresh as
    s.db.recorded.Nodup ∧
    (∀ f ∈ dir.files, ∀ statement ∈ f.statements,
      s.db.effects.count statement = if f.name ∈ s.db.recorded then 1 else 0) ∧
    (∀ r ∈ s.runs, r.committed.Pairwise MigrationFile.Before ∧ r.committed ⊆ dir.files ∧
      (r.committed.map (·.name)).Sublist s.db.recorded) ∧
    (∀ i r reply, s.runs[i]? = some r → (∀ failed, r.point ≠ .ended failed) → reply ≠ .ok →
      ∃ files, (s.step dir (.query i reply)).FailedWith i files ∧
        (files = r.committed ∨
          ∃ f later, r.point = .commit f later ∧ files = r.committed ++ [f])) ∧
    (∀ i files, s.FailedWith i files → ∀ bs,
      (exec (MigrationSystem.step dir) s bs).FailedWith i files) ∧
    ∀ r ∈ s.runs, r.point = .ended false → ∀ f ∈ dir.files, f.name ∈ s.db.recorded := by
  intro s
  have hvalid : s.Valid dir := exec_invariant' (MigrationSystem.Valid dir)
    (fun s a h => h.step a) (MigrationSystem.valid_fresh dir) as
  refine ⟨(List.nodup_append.mp hvalid.distinct).1, ?_, ?_, ?_, ?_, ?_⟩
  · intro f hf statement hstatement
    exact hvalid.count_effects hf hstatement
  · intro r hr
    have hok := hvalid.runs r hr
    exact ⟨dir.files_sorted.sublist hok.order, hok.order.subset, hok.recorded⟩
  · intro i r reply hr hrunning hreply
    obtain ⟨hfailed, hcommitted⟩ :=
      MigrationRun.query_stops hrunning hreply dir s.db (s.runs.flatMap (·.held))
    refine ⟨_, ⟨_, ?_, hfailed, rfl⟩, hcommitted⟩
    simp only [MigrationSystem.step, hr]
    exact List.getElem?_set_self (List.getElem?_eq_some_iff.mp hr).1
  · intro i files hfailed bs
    exact exec_invariant' (fun s => MigrationSystem.FailedWith s i files)
      (fun s a h => h.step a) hfailed bs
  · intro r hr hended f hf
    have hhere := (hvalid.runs r hr).here
    rw [hended] at hhere
    obtain ⟨before, hfiles, -, hrecorded⟩ := hhere.2 rfl
    rw [List.append_nil] at hfiles
    exact hrecorded f (hfiles ▸ hf)

/-- The two files of the payment service, with a statement each. -/
def paymentMigrations : MigrationsDir where
  entries := [⟨"20240101000001_seed_seat_prices.sql", "INSERT INTO seat_prices"⟩,
    ⟨"20240101000000_init.sql", "CREATE TABLE seat_prices"⟩, ⟨"run.js", ""⟩]
  distinct := by decide

/-- Two processes boot together: the second waits for the first at its INSERT, and fails. -/
example :
    let together := [.query 0 .ok, .query 1 .ok]
    let s := exec (MigrationSystem.step paymentMigrations) MigrationSystem.fresh
      (.boot :: .boot :: (List.replicate 5 together).flatten ++
        List.replicate 5 (.query 0 .ok) ++ [.query 1 .ok, .query 1 .ok])
    s.db.recorded = ["20240101000000_init.sql", "20240101000001_seed_seat_prices.sql"] ∧
      s.runs.map (·.failed) = [false, true] := by
  decide +kernel

end SeatReservation
