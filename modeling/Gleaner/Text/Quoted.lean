import Gleaner.Unicode.GeneralCategory
import Gleaner.Unicode.Property
/-!
# Quoted texts

A text in a description of a value stands between double quotes. Quotes, backslashes and a few
control characters have short escapes; characters that do not show on their own are written as
their hexadecimal code point.
-/
namespace Gleaner.Text

open Gleaner.Unicode

/-- Code points that the property tables still leave unassigned and that show all the same. Marks
among the newest ones are missing here, since they are hidden as marks. -/
def newlyShown : CharSet := .parse
  "88F C5C CDC 20C1 2B96 A7CE-A7CF A7D2 A7D4 A7F1 FBC3-FBD2 FD90-FD91 FDC8-FDCE 10940-10959
  10EC5-10EC7 10ED0-10ED8 11B61 11B65 11B67 11DB0-11DDB 11DE0-11DE9 16EA0-16EB8 16EBB-16ED3
  16FF2-16FF6 187F8-187FF 18D09-18D1E 18D80-18DF2 1CCFA-1CCFC 1CEBA-1CED0 1CEE0-1CEF0
  1E6C0-1E6DE 1E6E0-1E6E2 1E6E4-1E6E5 1E6E7-1E6ED 1E6F0-1E6F4 1E6FE-1E6FF 1F6D8 1F777-1F77A
  1F8D0-1F8D8 1FA54-1FA57 1FA8A 1FA8E 1FAC8 1FACD 1FAEA 1FAEF 1FBFA 2B73A-2B73F 2CEA2-2CEAD
  323B0-33479"

/-- Letters that are blank: the fillers for absent parts of a syllable. -/
def fillers : CharSet := .parse "115F-1160 3164 FFA0"

/-- Marks of a width of their own, which stand beside the character they extend. -/
def spacedMarks : CharSet := .parse "FF9E-FF9F"

/-- The characters that do not show on their own: controls, formats, unassigned and private ones,
all separators but the space, blank letters, and marks that join the character before them. -/
def hidden : CharSet :=
  let unseen := CharSet.unionNamed generalCategories ["cc", "cf", "co", "cn", "zl", "zp", "zs"]
  let joining := (CharSet.unionNamed binaryProperties ["graphemeextend"]).diff spacedMarks
  ((unseen.diff (newlyShown.union (.singleton ' '))).union joining).union fillers

def hexEscape (c : Char) : List Char :=
  ['\\', 'u', '\x7b'] ++ Nat.toDigits 16 c.toNat ++ ['\x7d']

def quotedChar (c : Char) : List Char :=
  if c = '"' then ['\\', '"']
  else if c = '\\' then ['\\', '\\']
  else if c = '\n' then ['\\', 'n']
  else if c = '\r' then ['\\', 'r']
  else if c = '\t' then ['\\', 't']
  else if c.toNat = 0 then ['\\', '0']
  else if ' ' ≤ c ∧ c ≤ '~' then [c]
  else if hidden.contains c.toNat then hexEscape c
  else [c]

def quoted (s : String) : String :=
  String.ofList ('"' :: (s.toList.flatMap quotedChar ++ ['"']))

def quotedList (texts : List String) : String :=
  "[" ++ String.intercalate ", " (texts.map quoted) ++ "]"

end Gleaner.Text
