import Gleaner.Unicode.Age
import Gleaner.Unicode.CaseFolding
import Gleaner.Unicode.GeneralCategory
import Gleaner.Unicode.Property
import Gleaner.Unicode.Script
import Gleaner.Unicode.ScriptExtension
import Gleaner.Unicode.Segmentation
/-!
# Named classes of characters

Digits, blanks and word characters, the bracketed names such as `alpha`, and the Unicode properties.
Names of properties are compared without regard to case, blanks, hyphens and underscores, and a
leading `is` is left out.
-/
namespace Gleaner.Regex

open Gleaner.Unicode

inductive LetterClass where
  | digit | blank | word
  deriving DecidableEq, Repr

def whiteSpace : CharSet := .unionNamed binaryProperties ["whitespace"]

def decimalDigits : CharSet := .unionNamed generalCategories ["nd"]

/-- Word characters: letters, marks, decimal digits, connecting punctuation and join controls. -/
def wordChars : CharSet :=
  (CharSet.unionNamed binaryProperties ["alphabetic", "joincontrol"]).union
    (.unionNamed generalCategories ["mn", "mc", "me", "nd", "pc"])

def alphabetic : CharSet := .unionNamed binaryProperties ["alphabetic"]

def alphanumeric : CharSet := alphabetic.union (.unionNamed generalCategories ["nd", "nl", "no"])

def isBlank (c : Char) : Bool := whiteSpace.contains c.toNat

def bracketName? : List Char → Option CharSet
  | ['a', 'l', 'n', 'u', 'm'] => some ⟨[(0x30, 0x39), (0x41, 0x5A), (0x61, 0x7A)]⟩
  | ['a', 'l', 'p', 'h', 'a'] => some ⟨[(0x41, 0x5A), (0x61, 0x7A)]⟩
  | ['a', 's', 'c', 'i', 'i'] => some ⟨[(0, 0x7F)]⟩
  | ['b', 'l', 'a', 'n', 'k'] => some ⟨[(9, 9), (0x20, 0x20)]⟩
  | ['c', 'n', 't', 'r', 'l'] => some ⟨[(0, 0x1F), (0x7F, 0x7F)]⟩
  | ['d', 'i', 'g', 'i', 't'] => some ⟨[(0x30, 0x39)]⟩
  | ['g', 'r', 'a', 'p', 'h'] => some ⟨[(0x21, 0x7E)]⟩
  | ['l', 'o', 'w', 'e', 'r'] => some ⟨[(0x61, 0x7A)]⟩
  | ['p', 'r', 'i', 'n', 't'] => some ⟨[(0x20, 0x7E)]⟩
  | ['p', 'u', 'n', 'c', 't'] =>
    some ⟨[(0x21, 0x2F), (0x3A, 0x40), (0x5B, 0x60), (0x7B, 0x7E)]⟩
  | ['s', 'p', 'a', 'c', 'e'] => some ⟨[(9, 0xD), (0x20, 0x20)]⟩
  | ['u', 'p', 'p', 'e', 'r'] => some ⟨[(0x41, 0x5A)]⟩
  | ['w', 'o', 'r', 'd'] => some ⟨[(0x30, 0x39), (0x41, 0x5A), (0x5F, 0x5F), (0x61, 0x7A)]⟩
  | ['x', 'd', 'i', 'g', 'i', 't'] => some ⟨[(0x30, 0x39), (0x41, 0x46), (0x61, 0x66)]⟩
  | _ => none

/-- The characters of a letter class, ASCII alone unless Unicode counts. -/
def LetterClass.chars (unicode : Bool) : LetterClass → CharSet
  | .digit => if unicode then decimalDigits else ⟨[(0x30, 0x39)]⟩
  | .blank => if unicode then whiteSpace else ⟨[(9, 0xD), (0x20, 0x20)]⟩
  | .word =>
    if unicode then wordChars else ⟨[(0x30, 0x39), (0x41, 0x5A), (0x5F, 0x5F), (0x61, 0x7A)]⟩

def normalName (name : List Char) : String :=
  let dropsIs := (name.take 2).map Char.toLower == ['i', 's']
  let kept := (if dropsIs then name.drop 2 else name).filter fun c =>
    c.toNat < 0x80 && c != ' ' && c != '_' && c != '-'
  let small := kept.map Char.toLower
  String.ofList (if dropsIs && small == ['c'] then ['i', 's', 'c'] else small)

def categoryGroups : List (List String × List String) := [
  (["l", "letter"], ["lu", "ll", "lt", "lm", "lo"]),
  (["lc", "casedletter"], ["lu", "ll", "lt"]),
  (["m", "mark", "combiningmark"], ["mn", "mc", "me"]),
  (["n", "number"], ["nd", "nl", "no"]),
  (["p", "punctuation", "punct"], ["pc", "pd", "ps", "pe", "pi", "pf", "po"]),
  (["s", "symbol"], ["sm", "sc", "sk", "so"]),
  (["z", "separator"], ["zs", "zl", "zp"]),
  (["c", "other"], ["cc", "cf", "co", "cn"])]

/-- The code points of a general category, of a group of them, or of one of three larger sets. -/
def category? (name : String) : Option CharSet :=
  if name = "any" then some .all
  else if name = "ascii" then some ⟨[(0, 0x7F)]⟩
  else if name = "assigned" then some (CharSet.unionNamed generalCategories ["cn"]).compl
  else match categoryGroups.find? (·.1.contains name) with
    | some (_, members) => some (.unionNamed generalCategories members)
    | none => CharSet.named? generalCategories name

/-- The code points of a property that has only a name. Three short names are general categories,
although properties with values go by them too. -/
def property? (name : String) : Option CharSet :=
  let asProperty :=
    if ["cf", "sc", "lc"].contains name then none else CharSet.named? binaryProperties name
  (asProperty.or (category? name)).or (CharSet.named? scripts name)

/-- The code points assigned in some version or in one before it. -/
def assignedBy? (version : String) (before : CharSet) : List NamedSet → Option CharSet
  | [] => none
  | age :: later =>
    let sofar := before.union (.parse age.ranges)
    if age.names.contains version then some sofar else assignedBy? version sofar later

def propertyValue? (name value : String) : Option CharSet :=
  if name = "gc" ∨ name = "generalcategory" then category? value
  else if name = "sc" ∨ name = "script" then CharSet.named? scripts value
  else if name = "scx" ∨ name = "scriptextensions" then CharSet.named? scriptExtensions value
  else if name = "age" then assignedBy? value .empty ages
  else if name = "gcb" ∨ name = "graphemeclusterbreak" then
    CharSet.named? graphemeClusterBreaks value
  else if name = "wb" ∨ name = "wordbreak" then CharSet.named? wordBreaks value
  else if name = "sb" ∨ name = "sentencebreak" then CharSet.named? sentenceBreaks value
  else none

/-- Splits at the first character that `stop` accepts; the rest starts with it. -/
def splitAt? (stop : List Char → Option (List Char)) (before : List Char) :
    List Char → Option (List Char × List Char)
  | [] => none
  | c :: rest => match stop (c :: rest) with
    | some after => some (before.reverse, after)
    | none => splitAt? stop (c :: before) rest

/-- The code points of a property as written between braces: a name, or a name and a value joined
by `!=`, `:` or `=`. -/
def propertyQuery? (written : List Char) : Option CharSet :=
  let joined (stop : List Char → Option (List Char)) := splitAt? stop [] written
  let unequal := joined fun cs => match cs with
    | '!' :: '=' :: rest => some rest
    | _ => none
  let colon := joined fun cs => match cs with
    | ':' :: rest => some rest
    | _ => none
  let equal := joined fun cs => match cs with
    | '=' :: rest => some rest
    | _ => none
  match (unequal.or colon).or equal with
  | some (name, value) => propertyValue? (normalName name) (normalName value)
  | none => property? (normalName written)

end Gleaner.Regex
