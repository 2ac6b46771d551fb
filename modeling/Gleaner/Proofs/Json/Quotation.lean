import Mathlib.Tactic.SplitIfs
import Gleaner.Proofs.Json.Depth
/-!
# Quoted texts

Escaping turns each character into a few that are read as that character again, whatever follows
them. So a quoted text is one token, and reading it as JSON gives back the text.
-/
namespace Gleaner.Json

theorem unit?_hexChar : ∀ n < 0x20,
    unit? '0' '0' (hexChar (n / 16)) (hexChar (n % 16)) = some n := by
  decide

theorem readString_escape (read : List Char) (c : Char) (rest : List Char) :
    readString read (escape c ++ rest) = readString (c :: read) rest := by
  unfold escape
  split_ifs with hquote hbackslash _ _ _ _ _ hcontrol
  -- seven characters have an escape of their own
  any_goals
    subst c
    rfl
  · have hunit := unit?_hexChar c.toNat hcontrol
    simp only [List.cons_append, List.nil_append]
    rw [readString, hunit]
    dsimp only
    rw [if_pos (.inl (by omega)), Char.ofNat_toNat]
  · rw [List.singleton_append, readString, if_neg hcontrol]
    all_goals simp [hquote, hbackslash]

/-- A string is read up to the first quote that is not escaped. -/
theorem readString_escaped (read cs rest : List Char) :
    readString read (cs.flatMap escape ++ '"' :: rest) = some (read.reverse ++ cs, rest) := by
  induction cs generalizing read with
  | nil => rw [List.flatMap_nil, List.nil_append, readString, List.append_nil]
  | cons c cs ih =>
    rw [List.flatMap_cons, List.append_assoc, readString_escape, ih, List.reverse_cons,
      List.append_assoc, List.singleton_append]

theorem tokens?_quote_append (read : List Token) (s : String) (rest : List Char) :
    tokens? read ((quote s).toList ++ rest) = tokens? (.string s :: read) rest := by
  have htoken :
      readToken '"' (s.toList.flatMap escape ++ '"' :: rest) = some (.string s, rest) := by
    rw [readToken, readString_escaped, Option.map_some, List.reverse_nil, List.nil_append]
    dsimp only
    rw [String.ofList_toList]
  rw [quote, String.toList_ofList, List.cons_append, List.append_assoc, List.singleton_append,
    tokens?_cons read (by decide) htoken]

theorem tokens?_quote (s : String) : tokens? [] (quote s).toList = some [.string s] := by
  have h := tokens?_quote_append [] s []
  rw [List.append_nil, tokens?, List.reverse_singleton] at h
  exact h

theorem read?_quote (s : String) : read? (quote s) = some (.string s) := by
  rw [read?, parse?, tokens?_quote]
  rfl

theorem quote_injective : Function.Injective quote := by
  intro s t h
  have hread : read? (quote s) = read? (quote t) := congrArg read? h
  rw [read?_quote, read?_quote] at hread
  cases hread
  rfl

theorem toNode_of_quote (s : String) : (read? (quote s)).map toNode = some (.text s) := by
  rw [read?_quote]
  rfl

end Gleaner.Json
