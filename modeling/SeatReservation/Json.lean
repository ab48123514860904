import Mathlib.Data.List.Basic

/-!
# JSON texts

The grammar of RFC 8259 on lists of characters (`Derives`) and a recursive
descent parser for it (`parse`).  Strings are UTF-16, since an escape names one
code unit, and a number is its literal.
-/

namespace SeatReservation.Json

abbrev Units := List UInt16

inductive Value where
  | null
  | bool (b : Bool)
  | number (literal : List Char)
  | string (units : Units)
  | array (elements : List Value)
  | object (members : List (Units × Value))

/-! ### Characters -/

def isWs (c : Char) : Bool := c == ' ' || c == '\t' || c == '\n' || c == '\r'

def hexDigit (c : Char) : Option Nat :=
  if '0' ≤ c ∧ c ≤ '9' then some (c.toNat - 48)
  else if 'a' ≤ c ∧ c ≤ 'f' then some (c.toNat - 87)
  else if 'A' ≤ c ∧ c ≤ 'F' then some (c.toNat - 55)
  else none

/-- The code units of a character, a surrogate pair from U+10000 on. -/
def utf16 (c : Char) : Units :=
  if c.toNat < 0x10000 then [.ofNat c.toNat]
  else [.ofNat (0xD800 + (c.toNat - 0x10000) / 0x400), .ofNat (0xDC00 + c.toNat % 0x400)]

/-- The escapes of one letter. -/
def escapes : List (Char × UInt16) :=
  [('"', 0x22), ('\\', 0x5C), ('/', 0x2F), ('b', 0x08), ('f', 0x0C), ('n', 0x0A), ('r', 0x0D),
    ('t', 0x09)]

def hexUnit (a b c d : Char) : Option UInt16 := do
  let a ← hexDigit a
  let b ← hexDigit b
  let c ← hexDigit c
  let d ← hexDigit d
  return .ofNat (((a * 16 + b) * 16 + c) * 16 + d)

/-! ### Numbers -/

def isDigits (text : List Char) : Bool := !text.isEmpty && text.all Char.isDigit

def dropSign : List Char → List Char
  | [] => []
  | c :: rest => if c = '+' ∨ c = '-' then rest else c :: rest

/-- `[ exp ]` -/
def isExp : List Char → Bool
  | [] => true
  | c :: rest => (c == 'e' || c == 'E') && isDigits (dropSign rest)

/-- `[ frac ] [ exp ]` -/
def isFracExp : List Char → Bool
  | [] => true
  | c :: rest =>
      if c = '.' then isDigits (rest.takeWhile Char.isDigit) && isExp (rest.dropWhile Char.isDigit)
      else isExp (c :: rest)

/-- `int [ frac ] [ exp ]` -/
def isUnsigned : List Char → Bool
  | [] => false
  | c :: rest =>
      if c = '0' then isFracExp rest else c.isDigit && isFracExp (rest.dropWhile Char.isDigit)

/-- `number = [ minus ] int [ frac ] [ exp ]` -/
def isNumber : List Char → Bool
  | [] => false
  | c :: rest => if c = '-' then isUnsigned rest else isUnsigned (c :: rest)

/-! ### The grammar -/

def Ws (w : List Char) : Prop := ∀ c ∈ w, isWs c = true

/-- `char = unescaped / escape ( … )` -/
inductive CharText : List Char → Units → Prop
  | unescaped {c : Char} (hquote : c ≠ '"') (hescape : c ≠ '\\') (hcontrol : 0x20 ≤ c.toNat) :
      CharText [c] (utf16 c)
  | letter {c : Char} {unit : UInt16} (h : escapes.lookup c = some unit) :
      CharText ['\\', c] [unit]
  | hex {a b c d : Char} {unit : UInt16} (h : hexUnit a b c d = some unit) :
      CharText ['\\', 'u', a, b, c, d] [unit]

/-- The rest of a string behind its opening quotation mark. -/
inductive StringText : List Char → Units → Prop
  | close : StringText ['"'] []
  | char {s rest : List Char} {units more : Units} (hchar : CharText s units)
      (hrest : StringText rest more) : StringText (s ++ rest) (units ++ more)

/-- What a text may be derived from. -/
inductive Node where
  | value (v : Value)
  | element (v : Value)
  | elements (vs : List Value)
  | member (m : Units × Value)
  | members (ms : List (Units × Value))

/-- The text is one of the node; an element is a value with the white space around it. -/
inductive Derives : Node → List Char → Prop
  | null : Derives (.value .null) ['n', 'u', 'l', 'l']
  | true : Derives (.value (.bool true)) ['t', 'r', 'u', 'e']
  | false : Derives (.value (.bool false)) ['f', 'a', 'l', 's', 'e']
  | number {s : List Char} (h : isNumber s = true) : Derives (.value (.number s)) s
  | string {s : List Char} {units : Units} (h : StringText s units) :
      Derives (.value (.string units)) ('"' :: s)
  | emptyArray {w : List Char} (h : Ws w) : Derives (.value (.array [])) ('[' :: (w ++ [']']))
  | array {s : List Char} {vs : List Value} (h : Derives (.elements vs) s) :
      Derives (.value (.array vs)) ('[' :: (s ++ [']']))
  | emptyObject {w : List Char} (h : Ws w) : Derives (.value (.object [])) ('{' :: (w ++ ['}']))
  | object {s : List Char} {ms : List (Units × Value)} (h : Derives (.members ms) s) :
      Derives (.value (.object ms)) ('{' :: (s ++ ['}']))
  | element {w₁ s w₂ : List Char} {v : Value} (h₁ : Ws w₁) (h : Derives (.value v) s)
      (h₂ : Ws w₂) : Derives (.element v) (w₁ ++ (s ++ w₂))
  | lastElement {s : List Char} {v : Value} (h : Derives (.element v) s) :
      Derives (.elements [v]) s
  | moreElements {s rest : List Char} {v : Value} {vs : List Value}
      (h : Derives (.element v) s) (hrest : Derives (.elements vs) rest) :
      Derives (.elements (v :: vs)) (s ++ ',' :: rest)
  | member {w₁ k w₂ s : List Char} {key : Units} {v : Value} (h₁ : Ws w₁)
      (hkey : StringText k key) (h₂ : Ws w₂) (h : Derives (.element v) s) :
      Derives (.member (key, v)) (w₁ ++ '"' :: (k ++ (w₂ ++ ':' :: s)))
  | lastMember {s : List Char} {m : Units × Value} (h : Derives (.member m) s) :
      Derives (.members [m]) s
  | moreMembers {s rest : List Char} {m : Units × Value} {ms : List (Units × Value)}
      (h : Derives (.member m) s) (hrest : Derives (.members ms) rest) :
      Derives (.members (m :: ms)) (s ++ ',' :: rest)

/-! ### The parser -/

/-- Reads from the front of a text and returns what is left of it. -/
abbrev Reader (α : Type) := List Char → Option (α × List Char)

def skipWs (text : List Char) : List Char := text.dropWhile isWs

/-- The text behind the character it has to start with. -/
def expect (c : Char) : List Char → Option (List Char)
  | [] => none
  | d :: rest => if d = c then some rest else none

def escape : Reader Units
  | 'u' :: a :: b :: c :: d :: rest => (hexUnit a b c d).map fun unit => ([unit], rest)
  | c :: rest => (escapes.lookup c).map fun unit => ([unit], rest)
  | [] => none

def char : Reader Units
  | [] => none
  | c :: rest =>
      if c = '\\' then escape rest
      else if c = '"' ∨ c.toNat < 0x20 then none
      else some (utf16 c, rest)

/-- Behind the opening quotation mark. -/
def string : Nat → Reader Units
  | 0, _ => none
  | fuel + 1, text =>
      match expect '"' text with
      | some rest => some ([], rest)
      | none => do
          let (units, rest) ← char text
          let (more, rest) ← string fuel rest
          return (units ++ more, rest)

def isNumberChar (c : Char) : Bool := c.isDigit || ['+', '-', '.', 'e', 'E'].contains c

/-- A number ends where none of its characters follows. -/
def number : Reader Value := fun text =>
  if isNumber (text.takeWhile isNumberChar) then
    some (.number (text.takeWhile isNumberChar), text.dropWhile isNumberChar)
  else none

def keyword (word : List Char) (v : Value) : Reader Value := fun text =>
  (word.isPrefixOf? text).map fun rest => (v, rest)

def element (value : Reader Value) : Reader Value := fun text => do
  let (v, rest) ← value (skipWs text)
  return (v, skipWs rest)

def member (value : Reader Value) : Reader (Units × Value) := fun text => do
  let rest ← expect '"' (skipWs text)
  let (key, rest) ← string rest.length rest
  let rest ← expect ':' (skipWs rest)
  let (v, rest) ← element value rest
  return ((key, v), rest)

/-- Items with commas between them, up to the closing character. -/
def items {α : Type} (item : Reader α) (close : Char) : Nat → Reader (List α)
  | 0, _ => none
  | fuel + 1, text => do
      let (x, rest) ← item text
      match expect ',' rest with
      | some rest => do
          let (xs, rest) ← items item close fuel rest
          return (x :: xs, rest)
      | none => do
          let rest ← expect close rest
          return ([x], rest)

def bracketed {α : Type} (item : Reader α) (close : Char) : Reader (List α) := fun text =>
  match expect close (skipWs text) with
  | some rest => some ([], rest)
  | none => items item close text.length text

def value : Nat → Reader Value
  | 0, _ => none
  | _ + 1, [] => none
  | fuel + 1, c :: rest =>
      if c = '"' then (string rest.length rest).map fun (units, rest) => (.string units, rest)
      else if c = '[' then
        (bracketed (element (value fuel)) ']' rest).map fun (vs, rest) => (.array vs, rest)
      else if c = '{' then
        (bracketed (member (value fuel)) '}' rest).map fun (ms, rest) => (.object ms, rest)
      else if c = 'n' then keyword ['n', 'u', 'l', 'l'] .null (c :: rest)
      else if c = 't' then keyword ['t', 'r', 'u', 'e'] (.bool true) (c :: rest)
      else if c = 'f' then keyword ['f', 'a', 'l', 's', 'e'] (.bool false) (c :: rest)
      else number (c :: rest)

/-- Nesting is bounded by the length of the text. -/
def parse (text : List Char) : Option Value :=
  match element (value text.length) text with
  | some (v, []) => some v
  | _ => none

end SeatReservation.Json
