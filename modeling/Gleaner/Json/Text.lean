import Gleaner.Json.Value
import Gleaner.Number.Shortest
import Gleaner.Text.Digits
/-!
# JSON texts

A text is cut into tokens, and a machine with a stack of open arrays and objects reads the tokens
one by one. No more than `maxOpen` may be open at once. `parse?` reads a whole text and keeps
repeated field names; `render` writes a value without blanks.

Numbers with a point, an exponent or too many digits are floating-point numbers. Their digits are
taken into a 64-bit word as long as they fit, the word is rounded, and powers of ten are multiplied
or divided into it with one rounding each.
-/
namespace Gleaner.Json

/-- The greatest number of arrays and objects open at once. -/
def maxOpen : Nat := 127

/-- A symbol of a text. A string may be a value or a field name. -/
inductive Token where
  | openArray | closeArray | openObject | closeObject | comma | colon
  | string (value : String)
  | atom (value : Json)
  deriving Inhabited

def isBlank (c : Char) : Bool := c == ' ' || c == '\n' || c == '\t' || c == '\r'

def unit? (a b c d : Char) : Option Nat :=
  Text.digits? 16 [a, b, c, d]

def escapeLetter? : Char → Option Char
  | '"' => some '"'
  | '\\' => some '\\'
  | '/' => some '/'
  | 'b' => some '\x08'
  | 'f' => some '\x0c'
  | 'n' => some '\n'
  | 'r' => some '\r'
  | 't' => some '\t'
  | _ => none

/-- A high and a low surrogate together stand for one character. -/
def pairChar (high low : Nat) : Char :=
  Char.ofNat (0x10000 + (high - 0xD800) * 0x400 + (low - 0xDC00))

/-- Reads a string after its opening quote, and gives it with what follows its closing quote.
Control characters must be escaped, and surrogates must come in pairs. -/
def readString (read : List Char) : List Char → Option (List Char × List Char)
  | '"' :: rest => some (read.reverse, rest)
  | '\\' :: 'u' :: a :: b :: c :: d :: rest =>
    match unit? a b c d with
    | none => none
    | some u =>
      if u < 0xD800 ∨ 0xDFFF < u then readString (Char.ofNat u :: read) rest
      else if 0xDC00 ≤ u then none
      else match rest with
        | '\\' :: 'u' :: e :: f :: g :: h :: rest =>
          match unit? e f g h with
          | none => none
          | some v =>
            if 0xDC00 ≤ v ∧ v ≤ 0xDFFF then readString (pairChar u v :: read) rest else none
        | _ => none
  | '\\' :: c :: rest =>
    match escapeLetter? c with
    | none => none
    | some e => readString (e :: read) rest
  | c :: rest => if c.toNat < 0x20 then none else readString (c :: read) rest
  | [] => none

structure NumberText where
  negative : Bool
  whole : List Char
  fraction : Option (List Char)
  exponent : Option Int

namespace NumberText

def digitValue (c : Char) : Nat := c.toNat - '0'.toNat

/-- Takes digits into a word as long as they fit 64 bits; gives the word and the digits left. -/
def absorb (word : Nat) : List Char → Nat × List Char
  | [] => (word, [])
  | c :: rest =>
    if word * 10 + digitValue c < 0x10000000000000000 then absorb (word * 10 + digitValue c) rest
    else (word, c :: rest)

/-- Scales a number by a power of ten, by at most `10 ^ 308` at a time. There is no result when the
number grows past the largest one. -/
def scale : Nat → Binary64 → Int → Option Binary64
  | fuel, x, e =>
    if e.natAbs ≤ 308 then
      if 0 ≤ e then
        let y := x.mulMagnitude (.ofNat (Nat.pow 10 e.natAbs))
        if y.isFinite then some y else none
      else some (x.divMagnitude (.ofNat (Nat.pow 10 e.natAbs)))
    else if x.isZero then some x
    else if 0 ≤ e then none
    else match fuel with
      | 0 => some ⟨0⟩
      | fuel + 1 => scale fuel (x.divMagnitude (.ofNat (Nat.pow 10 308))) (e + 308)

/-- The value of a number, an integer where the text has neither point nor exponent and the number
fits 64 bits. Negative zero is a floating-point number. -/
def value? (t : NumberText) : Option Json :=
  let (word, left) := absorb 0 t.whole
  let sign (x : Binary64) : Binary64 := if t.negative then x.neg else x
  match t.fraction, t.exponent, left with
  | none, none, [] =>
    if !t.negative then some (.int word)
    else if word ≠ 0 ∧ word ≤ 0x8000000000000000 then some (.int (-word))
    else some (.float (sign (.ofNat word)))
  | fraction, exponent, left =>
    let digits := fraction.getD []
    let (word, unused) := absorb word digits
    let places : Int := left.length - (digits.length - unused.length : Nat)
    (scale 8 (.ofNat word) (places + exponent.getD 0)).map fun x => .float (sign x)

end NumberText

def decimal (digits : List Char) : Nat :=
  digits.foldl (fun n c => n * 10 + NumberText.digitValue c) 0

def readSign : List Char → Bool × List Char
  | '+' :: rest => (false, rest)
  | '-' :: rest => (true, rest)
  | rest => (false, rest)

def readExponent : List Char → Option (Option Int × List Char)
  | [] => some (none, [])
  | c :: rest =>
    if c = 'e' ∨ c = 'E' then
      let digits := (readSign rest).2.takeWhile Char.isDigit
      if digits.isEmpty then none
      else
        let n : Int := decimal digits
        some (some (if (readSign rest).1 then -n else n), (readSign rest).2.dropWhile Char.isDigit)
    else some (none, c :: rest)

def readFraction : List Char → Option (Option (List Char) × List Char)
  | [] => some (none, [])
  | c :: rest =>
    if c = '.' then
      let digits := rest.takeWhile Char.isDigit
      if digits.isEmpty then none else some (some digits, rest.dropWhile Char.isDigit)
    else some (none, c :: rest)

/-- Reads the digits before the point, at least one. A leading zero stands alone. -/
def readWhole : List Char → Option (List Char × List Char)
  | [] => none
  | c :: rest =>
    if c = '0' then some (['0'], rest)
    else if c.isDigit then some (c :: rest.takeWhile Char.isDigit, rest.dropWhile Char.isDigit)
    else none

def readNumber (negative : Bool) (cs : List Char) : Option (Json × List Char) := do
  let (whole, rest) ← readWhole cs
  let (fraction, rest) ← readFraction rest
  let (exponent, rest) ← readExponent rest
  let value ← NumberText.value? ⟨negative, whole, fraction, exponent⟩
  return (value, rest)

def readToken (c : Char) (rest : List Char) : Option (Token × List Char) :=
  match c, rest with
  | '[', rest => some (.openArray, rest)
  | ']', rest => some (.closeArray, rest)
  | '{', rest => some (.openObject, rest)
  | '}', rest => some (.closeObject, rest)
  | ',', rest => some (.comma, rest)
  | ':', rest => some (.colon, rest)
  | '"', rest => (readString [] rest).map fun (s, rest) => (.string (String.ofList s), rest)
  | 'n', 'u' :: 'l' :: 'l' :: rest => some (.atom .null, rest)
  | 't', 'r' :: 'u' :: 'e' :: rest => some (.atom (.bool true), rest)
  | 'f', 'a' :: 'l' :: 's' :: 'e' :: rest => some (.atom (.bool false), rest)
  | '-', rest => (readNumber true rest).map fun (j, rest) => (.atom j, rest)
  | c, rest => (readNumber false (c :: rest)).map fun (j, rest) => (.atom j, rest)

theorem readString_length {read cs s rest : List Char} (h : readString read cs = some (s, rest)) :
    rest.length < cs.length := by
  fun_induction readString read cs <;> simp_all <;> omega

theorem length_dropWhile_le (p : Char → Bool) (cs : List Char) :
    (cs.dropWhile p).length ≤ cs.length :=
  (List.dropWhile_sublist p).length_le

theorem readSign_length (cs : List Char) : (readSign cs).2.length ≤ cs.length := by
  unfold readSign
  split <;> simp

theorem readExponent_length {cs rest : List Char} {e : Option Int}
    (h : readExponent cs = some (e, rest)) : rest.length ≤ cs.length := by
  cases cs with
  | nil => simp_all [readExponent]
  | cons c tail =>
    have hs := readSign_length tail
    have hd := length_dropWhile_le Char.isDigit (readSign tail).2
    simp only [readExponent] at h
    split at h
    · split at h
      · simp at h
      · simp only [Option.some.injEq, Prod.mk.injEq] at h
        simp only [List.length_cons, ← h.2]
        omega
    · simp_all

theorem readFraction_length {cs rest : List Char} {f : Option (List Char)}
    (h : readFraction cs = some (f, rest)) : rest.length ≤ cs.length := by
  cases cs with
  | nil => simp_all [readFraction]
  | cons c tail =>
    have hd := length_dropWhile_le Char.isDigit tail
    simp only [readFraction] at h
    split at h
    · split at h
      · simp at h
      · simp only [Option.some.injEq, Prod.mk.injEq] at h
        simp only [List.length_cons, ← h.2]
        omega
    · simp_all

theorem readWhole_length {cs whole rest : List Char} (h : readWhole cs = some (whole, rest)) :
    rest.length < cs.length := by
  cases cs with
  | nil => simp [readWhole] at h
  | cons c tail =>
    have hd := length_dropWhile_le Char.isDigit tail
    simp only [readWhole] at h
    split at h
    · simp_all
    · split at h
      · simp only [Option.some.injEq, Prod.mk.injEq] at h
        simp only [List.length_cons, ← h.2]
        omega
      · simp at h

theorem readNumber_length {negative : Bool} {cs rest : List Char} {j : Json}
    (h : readNumber negative cs = some (j, rest)) : rest.length < cs.length := by
  simp only [readNumber, Option.bind_eq_bind, Option.bind_eq_some_iff, Option.pure_def,
    Option.some.injEq, Prod.exists, Prod.mk.injEq] at h
  obtain ⟨whole, rest₁, hw, f, rest₂, hf, e, rest₃, he, v, -, -, rfl⟩ := h
  have h₁ := readWhole_length hw
  have h₂ := readFraction_length hf
  have h₃ := readExponent_length he
  omega

theorem readToken_length {c : Char} {rest rest' : List Char} {t : Token}
    (h : readToken c rest = some (t, rest')) : rest'.length ≤ rest.length := by
  unfold readToken at h
  split at h <;> simp_all
  · obtain ⟨s, hs, -⟩ := h
    exact Nat.le_of_lt (readString_length hs)
  · omega
  · omega
  · omega
  · obtain ⟨j, hj, -⟩ := h
    exact Nat.le_of_lt (readNumber_length hj)
  · obtain ⟨j, hj, -⟩ := h
    have := readNumber_length hj
    simp only [List.length_cons] at this
    omega

/-- Cuts a text into tokens; `read` holds those already read, the last one first. -/
def tokens? (read : List Token) (cs : List Char) : Option (List Token) :=
  match cs with
  | [] => some read.reverse
  | c :: rest =>
    if isBlank c then tokens? read rest
    else match _h : readToken c rest with
      | none => none
      | some (t, rest') => tokens? (t :: read) rest'
termination_by cs.length
decreasing_by
  · simp
  · have := readToken_length _h
    simp only [List.length_cons]
    omega

/-- An array or object that is being read, with what it holds so far, the last part first. -/
inductive Frame where
  | array (items : List Json)
  | object (fields : List (String × Json)) (name : String)

inductive Awaiting where
  | value | valueOrClose | name | nameOrClose | colon | separator

/-- The machine that reads tokens: busy with a stack of open frames, or done. -/
inductive Reader where
  | busy (stack : List Frame) (awaiting : Awaiting)
  | done (value : Json)

namespace Reader

def supply (value : Json) : List Frame → Reader
  | [] => .done value
  | .array items :: rest => .busy (.array (value :: items) :: rest) .separator
  | .object fields name :: rest => .busy (.object ((name, value) :: fields) name :: rest) .separator

/-- Opens an array or object where there is room for one. -/
def enter (frame : Frame) (awaiting : Awaiting) (stack : List Frame) : Option Reader :=
  if stack.length < maxOpen then some (.busy (frame :: stack) awaiting) else none

def startValue (stack : List Frame) : Token → Option Reader
  | .openArray => enter (.array []) .valueOrClose stack
  | .openObject => enter (.object [] "") .nameOrClose stack
  | .string s => some (supply (.string s) stack)
  | .atom j => some (supply j stack)
  | _ => none

def step : Reader → Token → Option Reader
  | .done _, _ => none
  | .busy stack .value, t => startValue stack t
  | .busy (.array items :: rest) .valueOrClose, .closeArray =>
    some (supply (.array items.reverse) rest)
  | .busy stack .valueOrClose, t => startValue stack t
  | .busy (.object fields _ :: rest) .nameOrClose, .closeObject =>
    some (supply (.object fields.reverse) rest)
  | .busy (.object fields _ :: rest) .nameOrClose, .string s =>
    some (.busy (.object fields s :: rest) .colon)
  | .busy (.object fields _ :: rest) .name, .string s =>
    some (.busy (.object fields s :: rest) .colon)
  | .busy stack .colon, .colon => some (.busy stack .value)
  | .busy (.array items :: rest) .separator, .comma => some (.busy (.array items :: rest) .value)
  | .busy (.array items :: rest) .separator, .closeArray =>
    some (supply (.array items.reverse) rest)
  | .busy (.object fields name :: rest) .separator, .comma =>
    some (.busy (.object fields name :: rest) .name)
  | .busy (.object fields _ :: rest) .separator, .closeObject =>
    some (supply (.object fields.reverse) rest)
  | _, _ => none

def run (r : Reader) : List Token → Option Reader
  | [] => some r
  | t :: rest => match r.step t with
    | none => none
    | some r => run r rest

def value? : Reader → Option Json
  | .done j => some j
  | .busy .. => none

end Reader

/-- The value of a text, repeated field names kept. -/
def parse? (text : String) : Option Json := do
  let ts ← tokens? [] text.toList
  let r ← Reader.run (.busy [] .value) ts
  r.value?

/-- The value of a text, where a repeated field name keeps its first place and its last value. -/
def read? (text : String) : Option Json := (parse? text).map mergeFields

def hexChar (n : Nat) : Char := if n < 10 then Char.ofNat (48 + n) else Char.ofNat (87 + n)

def escape (c : Char) : List Char :=
  if c = '"' then ['\\', '"']
  else if c = '\\' then ['\\', '\\']
  else if c = '\x08' then ['\\', 'b']
  else if c = '\x0c' then ['\\', 'f']
  else if c = '\n' then ['\\', 'n']
  else if c = '\r' then ['\\', 'r']
  else if c = '\t' then ['\\', 't']
  else if c.toNat < 0x20 then
    ['\\', 'u', '0', '0', hexChar (c.toNat / 16), hexChar (c.toNat % 16)]
  else [c]

def quote (s : String) : String :=
  String.ofList ('"' :: (s.toList.flatMap escape ++ ['"']))

mutual
/-- The text of a value, without blanks. -/
def render : Json → String
  | .null => "null"
  | .bool b => if b then "true" else "false"
  | .int n => toString n
  | .float x => x.render
  | .string s => quote s
  | .array items => "[" ++ String.intercalate "," (renderItems items) ++ "]"
  | .object fields => "\x7b" ++ String.intercalate "," (renderFields fields) ++ "\x7d"
def renderItems : List Json → List String
  | [] => []
  | j :: rest => render j :: renderItems rest
def renderFields : List (String × Json) → List String
  | [] => []
  | (name, j) :: rest => (quote name ++ ":" ++ render j) :: renderFields rest
end

end Gleaner.Json
