import Gleaner.Predicate.Matcher
import Gleaner.Proofs.Text.Comparison
/-!
# What matchers accept

Literals are compared byte by byte and by slices of bytes. What this comes to in characters is what
a reader expects: equality, being a front, an end or a run of the text, with the capitals of both
made small where case is ignored. To ignore case is therefore to compare what is left when capitals
are made small beforehand (`accepts_ignoreCase`), although the slices are taken of the texts as they
are.
-/
namespace Gleaner

open Text

/-- How the characters of a text relate to those of a literal. -/
def Comparison.Relates : Comparison → List Char → List Char → Prop
  | .exact, value, text => value = text
  | .leading, value, text => value <+: text
  | .trailing, value, text => value <:+ text
  | .containing, value, text => value <:+: text

instance : (c : Comparison) → (value text : List Char) → Decidable (c.Relates value text)
  | .exact, value, text => inferInstanceAs (Decidable (value = text))
  | .leading, value, text => inferInstanceAs (Decidable (value <+: text))
  | .trailing, value, text => inferInstanceAs (Decidable (value <:+ text))
  | .containing, value, text => inferInstanceAs (Decidable (value <:+: text))

namespace Matcher

variable {ignoreCase : Bool} {value text : String}

theorem isExact_iff :
    isExact ignoreCase value text = true ↔ folded ignoreCase value = folded ignoreCase text := by
  rw [isExact, alike_iff (sameByte_iff ignoreCase), map_foldByte_bytes, map_foldByte_bytes,
    utf8_inj]

theorem isContained_iff : isContained ignoreCase value text = true ↔
    folded ignoreCase value <:+: folded ignoreCase text := by
  rw [isContained, occurs_iff (sameByte_iff ignoreCase), map_foldByte_bytes, map_foldByte_bytes,
    utf8_infix_iff]

theorem alike_lower_iff {cs : List Char} : alike (sameByte true) (bytes value) (utf8 cs) = true ↔
    value.toList.map lowerChar = cs.map lowerChar := by
  rw [← utf8_inj, utf8_map_lowerChar, utf8_map_lowerChar]
  exact alike_iff (sameByte_iff true)

/-- Characters that are the same but for case take the same number of bytes. -/
theorem length_utf8_of_lower {as cs : List Char} (h : as.map lowerChar = cs.map lowerChar) :
    (utf8 as).length = (utf8 cs).length := by
  have hbytes := congrArg (fun l => (utf8 l).length) h
  simpa only [utf8_map_lowerChar, List.length_map] using hbytes

theorem isLeading_iff : isLeading ignoreCase value text = true ↔
    folded ignoreCase value <+: folded ignoreCase text := by
  cases ignoreCase with
  | false =>
    have hsame : ∀ x y : UInt8, (x == y) = true ↔ id x = id y := fun x y => beq_iff_eq
    rw [isLeading, if_neg Bool.false_ne_true, leads_iff hsame, List.map_id, List.map_id, bytes,
      bytes, utf8_prefix_iff]
    rfl
  | true =>
    rw [isLeading, if_pos rfl, folded, if_pos rfl, folded, if_pos rfl]
    constructor
    · intro h
      split at h
      · rename_i front hfront
        rw [alike_lower_iff.mp h]
        exact (takeBytes?_eq_some.mp hfront).1.map lowerChar
      · cases h
    · intro h
      -- Small letters take as many bytes as their capitals, so the slice is as long as the value.
      obtain ⟨front, hfront, hvalue⟩ := List.prefix_map_iff.mp h
      have hslice : takeBytes? (bytes value).length text.toList = some front :=
        takeBytes?_eq_some.mpr ⟨hfront, (length_utf8_of_lower hvalue).symm⟩
      rw [hslice]
      exact alike_lower_iff.mpr hvalue

theorem isTrailing_iff : isTrailing ignoreCase value text = true ↔
    folded ignoreCase value <:+ folded ignoreCase text := by
  cases ignoreCase with
  | false =>
    have hsame : ∀ x y : UInt8, (x == y) = true ↔ id x = id y := fun x y => beq_iff_eq
    simp only [isTrailing, if_neg Bool.false_ne_true]
    rw [leads_iff hsame, List.map_id, List.map_id, List.reverse_prefix, bytes, bytes,
      utf8_suffix_iff]
    rfl
  | true =>
    simp only [isTrailing, if_pos, folded]
    constructor
    · intro h
      split at h
      · cases h
      · split at h
        · rename_i back hback
          obtain ⟨front, htext, _⟩ := dropBytes?_eq_some.mp hback
          rw [alike_lower_iff.mp h, htext]
          exact (List.suffix_append front back).map lowerChar
        · cases h
    · intro h
      obtain ⟨back, ⟨front, htext⟩, hvalue⟩ := List.suffix_map_iff.mp h
      have hback : (utf8 back).length = (bytes value).length := (length_utf8_of_lower hvalue).symm
      have hsize : (bytes text).length = (utf8 front).length + (utf8 back).length := by
        rw [bytes, ← htext, utf8_append, List.length_append]
      have hslice : dropBytes? ((bytes text).length - (bytes value).length) text.toList =
          some back := dropBytes?_eq_some.mpr ⟨front, htext.symm, by omega⟩
      rw [if_neg (by omega), hslice]
      exact alike_lower_iff.mpr hvalue

/-- A literal accepts a text if the characters of both are related as its comparison says, with
capitals made small where case is ignored. -/
theorem accepts_literal (c : Comparison) (value text : String) (ignoreCase : Bool) :
    (Matcher.literal c value ignoreCase).accepts text =
      decide (c.Relates (folded ignoreCase value) (folded ignoreCase text)) := by
  rw [Bool.eq_iff_iff, decide_eq_true_eq]
  cases c with
  | exact => exact isExact_iff
  | leading => exact isLeading_iff
  | trailing => exact isTrailing_iff
  | containing => exact isContained_iff

/-- A comparison that ignores case, made of the slices it takes; nothing where a list of windows
of no bytes would be asked for. -/
def sliced? : Comparison → (value text : String) → Option Bool
  | .exact, value, text => some (alike (sameByte true) (bytes value) (bytes text))
  | .leading, value, text =>
    some ((takeBytes? (bytes value).length text.toList).any fun front =>
      alike (sameByte true) (bytes value) (utf8 front))
  | .trailing, value, text =>
    let start? := if (bytes text).length < (bytes value).length then none
      else some ((bytes text).length - (bytes value).length)
    some ((start?.bind (dropBytes? · text.toList)).any fun back =>
      alike (sameByte true) (bytes value) (utf8 back))
  | .containing, value, text =>
    if value.isEmpty then some true
    else (windows? (bytes value).length (bytes text)).map
      (·.any (alike (sameByte true) (bytes value)))

/-- A run of no bytes occurs in every text, and windows are only asked for of other lengths. -/
theorem sliced?_containing (value text : String) :
    sliced? .containing value text = some (isContained true value text) := by
  rw [sliced?, isContained]
  by_cases hempty : value = ""
  · subst hempty
    have hoccurs : occurs (sameByte true) (bytes "") (bytes text) = true := by
      rw [occurs_iff (sameByte_iff true)]
      exact List.nil_infix
    rw [hoccurs]
    rfl
  · have hbytes : bytes value ≠ [] := by
      rw [bytes, Ne, utf8_eq_nil]
      simpa using hempty
    rw [if_neg (by simpa using hempty)]
    exact any_windows (sameByte_iff true) hbytes

theorem sliced?_eq (c : Comparison) (value text : String) :
    sliced? c value text = some ((literal c value true).accepts text) := by
  cases c with
  | exact => rfl
  | leading =>
    rw [sliced?, accepts, isLeading, if_pos rfl]
    cases takeBytes? (bytes value).length text.toList <;> rfl
  | trailing =>
    rw [sliced?, accepts, isTrailing, if_pos rfl]
    split
    · rfl
    · rw [Option.bind_some]
      cases dropBytes? ((bytes text).length - (bytes value).length) text.toList <;> rfl
  | containing => exact sliced?_containing value text

/-- A literal that ignores case accepts the texts whose small letters the literal in small letters
accepts: those whose small letters relate as the comparison says. A slice that would cut through a
character is not taken and changes no answer, and no list of windows of no bytes is asked for. -/
theorem accepts_ignoreCase (c : Comparison) (value text : String) :
    (literal c value true).accepts text = (literal c (lower value) false).accepts (lower text) ∧
      (literal c value true).accepts text =
        decide (c.Relates (lower value).toList (lower text).toList) ∧
      sliced? c value text = some ((literal c value true).accepts text) := by
  have hfolded : ∀ s, folded true s = (lower s).toList := fun s => (toList_lower s).symm
  have hlower : ∀ s, folded true s = folded false (lower s) := fun s => hfolded s
  refine ⟨?_, ?_, sliced?_eq c value text⟩
  · rw [accepts_literal, accepts_literal, hlower, hlower]
  · rw [accepts_literal, hfolded, hfolded]

end Matcher

/-- Whether a text matches a pattern of a kind: the characters of both are related as a literal's
comparison says, or the regular expression that the pattern is finds something in the text. -/
def MatchKind.accepts : MatchKind → (pattern : String) → (ignoreCase : Bool) → String → Bool
  | .literal c, pattern, ignoreCase, text =>
    decide (c.Relates (folded ignoreCase pattern) (folded ignoreCase text))
  | .regex, pattern, ignoreCase, text => match Regex.compile pattern ignoreCase with
    | .ok r => r.isMatch text
    | .error _ => false

namespace Matcher

/-- The matcher of the given kind, with the limits that configurations are held to. -/
def load (kind : MatchKind) (pattern : String) (ignoreCase : Bool) : Except SchemaError Matcher :=
  match checkLength pattern (kind == .regex) with
  | .error e => .error e
  | .ok () => match build kind pattern ignoreCase with
    | .ok m => .ok m
    | .error e => .error (.invalidPattern pattern e)

theorem load_literal (c : Comparison) (pattern : String) (ignoreCase : Bool) :
    load (.literal c) pattern ignoreCase =
      (checkLength pattern false).map fun _ => .literal c pattern ignoreCase := by
  have hkind : (MatchKind.literal c == .regex) = false := by cases c <;> rfl
  rw [load, hkind]
  cases checkLength pattern false <;> rfl

theorem accepts_of_load {kind : MatchKind} {pattern : String} {ignoreCase : Bool}
    {m : Matcher} (h : load kind pattern ignoreCase = .ok m) (text : String) :
    m.accepts text = kind.accepts pattern ignoreCase text := by
  rw [load] at h
  split at h
  · cases h
  · cases kind with
    | literal c =>
      cases h
      exact accepts_literal c pattern text ignoreCase
    | regex =>
      rw [build] at h
      rw [MatchKind.accepts]
      cases hcompile : Regex.compile pattern ignoreCase with
      | ok r =>
        rw [hcompile] at h
        cases h
        rfl
      | error e =>
        rw [hcompile] at h
        cases h

theorem checkLength_ne_depthExceeded (pattern : String) (isRegex : Bool) (depth max : Nat) :
    checkLength pattern isRegex ≠ .error (.depthExceeded depth max) := by
  intro h
  simp only [checkLength] at h
  generalize (if isRegex = true then maxRegexLength else maxPatternLength) = limit at h
  split at h <;> cases h

theorem load_ne_depthExceeded (kind : MatchKind) (pattern : String) (ignoreCase : Bool)
    (depth max : Nat) : load kind pattern ignoreCase ≠ .error (.depthExceeded depth max) := by
  intro h
  rw [load] at h
  split at h
  · rename_i e hlength
    cases h
    exact checkLength_ne_depthExceeded _ _ depth max hlength
  · split at h <;> cases h

end Matcher

theorem MatchSpec.matcher_eq (spec : MatchSpec) :
    spec.matcher = Matcher.load spec.kind spec.pattern false := by
  obtain ⟨kind, pattern⟩ := spec
  rw [matcher]
  cases kind with
  | literal c =>
    rw [Matcher.load_literal]
    cases c <;> rfl
  | regex =>
    rw [Matcher.load, Matcher.build]
    cases Matcher.checkLength pattern (MatchKind.regex == .regex) with
    | error e => rfl
    | ok _ => cases Regex.compile pattern false <;> rfl

end Gleaner
