import Gleaner.Regex.Flags
/-!
# Starts of groups

A parenthesis opens a group, which may capture, have a name or set flags, or it sets flags for what
follows it. Groups that look around are refused.
-/
namespace Gleaner.Regex

/-- Reads flags up to the character that ends them, and gives the flags as they are then, that
character and what follows. No flag and no minus sign may be repeated, and none may end with a
minus sign. -/
def readFlags (flags : Flags) (seen : List Char) : List Char → Option (Flags × Char × List Char)
  | [] => none
  | c :: rest =>
    if c = ':' ∨ c = ')' then
      if seen.head? = some '-' then none else some (flags, c, rest)
    else if seen.contains c then none
    else if c = '-' then readFlags flags (c :: seen) rest
    else match flags.set? c (!seen.contains '-') with
      | none => none
      | some flags => readFlags flags (c :: seen) rest

def isNameChar (first : Bool) (c : Char) : Bool :=
  c == '_' ||
    (if first then alphabetic.contains c.toNat
      else c == '.' || c == '[' || c == ']' || alphanumeric.contains c.toNat)

def readName (read : List Char) : List Char → Option (List Char × List Char)
  | [] => none
  | c :: rest =>
    if c = '>' then (if read.isEmpty then none else some (read.reverse, rest))
    else if isNameChar read.isEmpty c then readName (c :: read) rest
    else none

inductive Opening where
  | group (flags : Flags) (capturing : Bool) (name : Option (List Char))
  | setFlags (flags : Flags)

/-- Reads what follows an opening parenthesis. Groups that look around are refused. -/
def readOpening (flags : Flags) (cs : List Char) : Option (Opening × List Char) :=
  match skip flags cs with
  | '?' :: '=' :: _ => none
  | '?' :: '!' :: _ => none
  | '?' :: '<' :: '=' :: _ => none
  | '?' :: '<' :: '!' :: _ => none
  | '?' :: 'P' :: '<' :: rest =>
    (readName [] rest).map fun (name, rest) => (.group flags true (some name), rest)
  | '?' :: '<' :: rest =>
    (readName [] rest).map fun (name, rest) => (.group flags true (some name), rest)
  | '?' :: rest =>
    match readFlags flags [] rest with
    | none => none
    | some (newFlags, ending, after) =>
      if ending = ':' then some (.group newFlags false none, after)
      else if rest.head? = some ')' then none
      else some (.setFlags newFlags, after)
  | cs => some (.group flags true none, cs)

end Gleaner.Regex
