import Mathlib.Data.List.Dedup
import Mathlib.Data.List.Infix
import Mathlib.Tactic.TypeStar

/-!
# A broker with topic exchanges

Exchanges, queues and bindings are declared and stay (all are durable).  A
message published to an exchange is put into every queue that has a binding to
it whose pattern accepts the routing key; without the mandatory flag a message
that no binding accepts is confirmed all the same and dropped.  `enqueued`
records every message ever put into a queue.
-/

namespace SeatReservation.TopicExchange

/-! ### Patterns -/

/-- A word of a binding pattern: `*` is one word, `#` any number of them. -/
inductive Word where
  | literal (w : List Char)
  | star
  | hash
deriving DecidableEq, Repr

/-- The words of a routing key, between the dots. -/
def words (key : String) : List (List Char) := key.toList.splitOn '.'

def Word.ofChars (w : List Char) : Word :=
  if w = ['*'] then .star else if w = ['#'] then .hash else .literal w

def accepts : List Word → List (List Char) → Bool
  | [], ws => ws.isEmpty
  | .literal w :: p, ws =>
      match ws with
      | [] => false
      | v :: ws => w == v && accepts p ws
  | .star :: p, ws =>
      match ws with
      | [] => false
      | _ :: ws => accepts p ws
  | .hash :: p, ws => ws.tails.any (accepts p)

/-- Does a binding with this pattern take messages with this routing key? -/
def patternAccepts (pattern key : String) : Bool :=
  accepts ((words pattern).map Word.ofChars) (words key)

/-! ### Broker -/

structure Binding where
  queue : String
  exchange : String
  pattern : String
deriving DecidableEq, Repr

inductive Declaration where
  | assertExchange (name : String)
  | assertQueue (name : String)
  | bindQueue (b : Binding)
deriving DecidableEq, Repr

structure Broker (μ : Type*) where
  exchanges : List String
  queues : List String
  bindings : List Binding
  enqueued : List (String × μ)

variable {μ : Type*}

def Broker.fresh : Broker μ := ⟨[], [], [], []⟩

/-- A binding needs its queue and its exchange. -/
def Broker.declare (b : Broker μ) : Declaration → Broker μ
  | .assertExchange name => { b with exchanges := b.exchanges ++ [name] }
  | .assertQueue name => { b with queues := b.queues ++ [name] }
  | .bindQueue x =>
      if x.queue ∈ b.queues ∧ x.exchange ∈ b.exchanges then
        { b with bindings := b.bindings ++ [x] }
      else b

/-- The queues a message reaches, once each. -/
def Broker.route (b : Broker μ) (exchange key : String) : List String :=
  ((b.bindings.filter fun x => x.exchange == exchange && patternAccepts x.pattern key).map
    (·.queue)).dedup

/-- A publish to a declared exchange; it is confirmed whatever it reaches. -/
def Broker.publish (b : Broker μ) (exchange key : String) (m : μ) : Broker μ :=
  { b with enqueued := b.enqueued ++ (b.route exchange key).map fun queue => (queue, m) }

/-- The declaration is in effect. -/
def Broker.Has (b : Broker μ) : Declaration → Prop
  | .assertExchange name => name ∈ b.exchanges
  | .assertQueue name => name ∈ b.queues
  | .bindQueue x => x ∈ b.bindings

/-- Declarations stay in effect. -/
theorem Broker.Has.declare {b : Broker μ} {x : Declaration} (h : b.Has x) (y : Declaration) :
    (b.declare y).Has x := by
  cases y with
  | assertExchange name =>
    cases x with
    | assertExchange name' => exact List.mem_append_left _ h
    | assertQueue name' => exact h
    | bindQueue z => exact h
  | assertQueue name =>
    cases x with
    | assertExchange name' => exact h
    | assertQueue name' => exact List.mem_append_left _ h
    | bindQueue z => exact h
  | bindQueue y =>
    rw [Broker.declare]
    split
    · cases x with
      | assertExchange name' => exact h
      | assertQueue name' => exact h
      | bindQueue z => exact List.mem_append_left _ h
    · exact h

/-- What a declaration needs. -/
def Declaration.needs : Declaration → List Declaration
  | .bindQueue x => [.assertQueue x.queue, .assertExchange x.exchange]
  | _ => []

theorem Broker.has_declare_self {b : Broker μ} {x : Declaration} (h : ∀ y ∈ x.needs, b.Has y) :
    (b.declare x).Has x := by
  cases x with
  | assertExchange name => exact List.mem_append_right _ (List.mem_singleton_self _)
  | assertQueue name => exact List.mem_append_right _ (List.mem_singleton_self _)
  | bindQueue x =>
    have hqueue : x.queue ∈ b.queues := h (.assertQueue x.queue) (by simp [Declaration.needs])
    have hexchange : x.exchange ∈ b.exchanges :=
      h (.assertExchange x.exchange) (by simp [Declaration.needs])
    rw [Broker.declare, if_pos ⟨hqueue, hexchange⟩]
    exact List.mem_append_right _ (List.mem_singleton_self _)

/-- Nothing else comes into effect. -/
theorem Broker.has_of_declare {b : Broker μ} {x y : Declaration} (h : (b.declare y).Has x) :
    b.Has x ∨ x = y := by
  cases y with
  | assertExchange name =>
    cases x with
    | assertExchange name' =>
      rcases List.mem_append.mp h with h | h
      · exact Or.inl h
      · rw [List.mem_singleton.mp h]
        exact Or.inr rfl
    | assertQueue name' => exact Or.inl h
    | bindQueue z => exact Or.inl h
  | assertQueue name =>
    cases x with
    | assertExchange name' => exact Or.inl h
    | assertQueue name' =>
      rcases List.mem_append.mp h with h | h
      · exact Or.inl h
      · rw [List.mem_singleton.mp h]
        exact Or.inr rfl
    | bindQueue z => exact Or.inl h
  | bindQueue y =>
    rw [Broker.declare] at h
    split at h
    · cases x with
      | assertExchange name' => exact Or.inl h
      | assertQueue name' => exact Or.inl h
      | bindQueue z =>
        rcases List.mem_append.mp h with h | h
        · exact Or.inl h
        · rw [List.mem_singleton.mp h]
          exact Or.inr rfl
    · exact Or.inl h

@[simp] theorem Broker.declare_enqueued (b : Broker μ) (x : Declaration) :
    (b.declare x).enqueued = b.enqueued := by
  cases x with
  | assertExchange name => rfl
  | assertQueue name => rfl
  | bindQueue x =>
    rw [Broker.declare]
    split <;> rfl

theorem Broker.mem_route {b : Broker μ} {exchange key queue : String} :
    queue ∈ b.route exchange key ↔
      ∃ x ∈ b.bindings, x.queue = queue ∧ x.exchange = exchange ∧
        patternAccepts x.pattern key = true := by
  simp only [Broker.route, List.mem_dedup, List.mem_map, List.mem_filter, Bool.and_eq_true,
    beq_iff_eq]
  constructor
  · rintro ⟨x, ⟨hx, hexchange, haccepts⟩, hqueue⟩
    exact ⟨x, hx, hqueue, hexchange, haccepts⟩
  · rintro ⟨x, hx, hqueue, hexchange, haccepts⟩
    exact ⟨x, ⟨hx, hexchange, haccepts⟩, hqueue⟩

/-- A message is put into a queue iff a binding takes it there. -/
theorem Broker.mem_publish {b : Broker μ} {exchange key queue : String} {m m' : μ} :
    (queue, m') ∈ (b.publish exchange key m).enqueued ↔
      (queue, m') ∈ b.enqueued ∨ (m' = m ∧ queue ∈ b.route exchange key) := by
  simp only [Broker.publish, List.mem_append, List.mem_map, Prod.mk.injEq]
  constructor
  · rintro (h | ⟨queue', hroute, rfl, rfl⟩)
    · exact Or.inl h
    · exact Or.inr ⟨rfl, hroute⟩
  · rintro (h | ⟨rfl, hroute⟩)
    · exact Or.inl h
    · exact Or.inr ⟨queue, hroute, rfl, rfl⟩

end SeatReservation.TopicExchange
