import Gleaner.CommandLine.Arguments
import Mathlib.Data.List.Basic
/-!
# What the arguments of `find` ask for

Flags stand anywhere among the other arguments. While arguments are read two things are kept, the
mode of the last flag and the arguments that are no flags in their order, so nothing depends on
where the flag of a mode stands (`parseFrom_eq`). An unknown flag is met before the other arguments
are counted.
-/
namespace Gleaner.CommandLine.FindArguments

/-- A flag that is not known: it starts with two dashes and names no mode. -/
def IsUnknown (arg : String) : Prop :=
  arg.startsWith "--" = true ∧ arg ≠ "--count" ∧ arg ≠ "--trace"

instance : DecidablePred IsUnknown := fun _ => inferInstanceAs (Decidable (_ ∧ _ ∧ _))

/-- The mode of the last flag that names one, or else that of texts. -/
def lastMode (args : List String) : FindMode := (args.filterMap mode?).getLastD .values

def positionals (args : List String) : List String :=
  args.filter fun arg => !arg.startsWith "--"

def modeFlags (args : List String) : List String := args.filter fun arg => (mode? arg).isSome

def withoutModes (args : List String) : List String := args.filter fun arg => (mode? arg).isNone

theorem mode?_eq_none {arg : String} : mode? arg = none ↔ arg ≠ "--count" ∧ arg ≠ "--trace" := by
  unfold mode?
  split_ifs with hcount htrace <;> simp [*]

theorem startsWith_of_mode? {arg : String} {mode : FindMode} (h : mode? arg = some mode) :
    arg.startsWith "--" = true := by
  have hname : arg = "--count" ∨ arg = "--trace" := by
    by_contra hne
    rw [mode?_eq_none.mpr (not_or.mp hne)] at h
    cases h
  rcases hname with rfl | rfl <;> simp

theorem arg_cases (arg : String) :
    (∃ mode, mode? arg = some mode ∧ arg.startsWith "--" = true ∧ ¬IsUnknown arg) ∨
    (mode? arg = none ∧ arg.startsWith "--" = true ∧ IsUnknown arg) ∨
    (mode? arg = none ∧ arg.startsWith "--" = false ∧ ¬IsUnknown arg) := by
  cases hmode : mode? arg with
  | some mode =>
    have hflag := startsWith_of_mode? hmode
    have hknown : ¬IsUnknown arg := by
      intro hunknown
      rw [mode?_eq_none.mpr hunknown.2] at hmode
      cases hmode
    exact .inl ⟨mode, rfl, hflag, hknown⟩
  | none =>
    cases hflag : arg.startsWith "--" with
    | true => exact .inr (.inl ⟨rfl, rfl, hflag, mode?_eq_none.mp hmode⟩)
    | false => exact .inr (.inr ⟨rfl, rfl, fun hunknown => by simp [hunknown.1] at hflag⟩)

/-- Three arguments are the schema, the type and the document. -/
def assign (mode : FindMode) : List String → Except UsageError FindArguments
  | [schema, typeName, document] => .ok ⟨schema, typeName, document, mode⟩
  | _ => .error .findArguments

theorem assign_of_length {others : List String} (h : others.length ≠ 3) (mode : FindMode) :
    assign mode others = .error .findArguments := by
  unfold assign
  split
  · exact absurd rfl h
  · rfl

theorem assign_eq_error {mode : FindMode} {others : List String} {e : UsageError} :
    assign mode others = .error e ↔ others.length ≠ 3 ∧ e = .findArguments := by
  constructor
  · intro h
    by_cases hlength : others.length = 3
    · obtain ⟨schema, typeName, document, rfl⟩ := List.length_eq_three.mp hlength
      cases h
    · rw [assign_of_length hlength] at h
      exact ⟨hlength, (Except.error.inj h).symm⟩
  · rintro ⟨hlength, rfl⟩
    exact assign_of_length hlength mode

theorem assign_eq_ok {mode : FindMode} {others : List String} {found : FindArguments} :
    assign mode others = .ok found ↔
      others = [found.schema, found.typeName, found.document] ∧ found.mode = mode := by
  obtain ⟨schema, typeName, document, m⟩ := found
  constructor
  · intro h
    unfold assign at h
    split at h
    · cases h
      exact ⟨rfl, rfl⟩
    · cases h
  · rintro ⟨rfl, rfl⟩
    rfl

theorem parseFrom_nil (mode : FindMode) (others : List String) :
    parseFrom mode others [] = assign mode others.reverse := by
  by_cases hlength : others.length = 3
  · obtain ⟨document, typeName, schema, rfl⟩ := List.length_eq_three.mp hlength
    rfl
  · have hreverse : others.reverse.length ≠ 3 := by rwa [List.length_reverse]
    rw [assign_of_length hreverse]
    unfold parseFrom
    split
    · exact absurd rfl hlength
    · rfl

/-- What reading arguments comes to: the mode of the last flag takes the place of the mode so far,
and the arguments that are no flags come after those so far. -/
theorem parseFrom_eq (mode : FindMode) (others args : List String) :
    parseFrom mode others args = match args.find? IsUnknown with
      | some flag => .error (.unexpectedArgument flag)
      | none =>
        assign ((args.filterMap mode?).getLastD mode) (others.reverse ++ positionals args) := by
  induction args generalizing mode others with
  | nil => simp [parseFrom_nil, positionals]
  | cons arg rest ih =>
    rw [parseFrom]
    rcases arg_cases arg with
      ⟨next, hmode, hflag, hknown⟩ | ⟨hmode, hflag, hunknown⟩ | ⟨hmode, hflag, hknown⟩
    · -- a flag of a mode: the modes of the rest follow it
      simp only [hmode, ih, List.find?_cons, hknown, decide_false, List.filterMap_cons,
        List.getLastD_cons, positionals, List.filter_cons, hflag, Bool.not_true]
      rfl
    · simp [hmode, isFlag, hflag, hunknown]
    · simp [hmode, isFlag, hflag, hknown, ih, positionals]

theorem parse_eq (args : List String) : parse args = match args.find? IsUnknown with
    | some flag => .error (.unexpectedArgument flag)
    | none => assign (lastMode args) (positionals args) :=
  parseFrom_eq .values [] args

theorem parse_of_known {args : List String} (h : ∀ arg ∈ args, ¬IsUnknown arg) :
    parse args = assign (lastMode args) (positionals args) := by
  have hnone : args.find? IsUnknown = none := by simpa using h
  rw [parse_eq, hnone]

theorem parse_of_unknown {front : List String} {flag : String}
    (hfront : ∀ arg ∈ front, ¬IsUnknown arg) (hflag : IsUnknown flag) (back : List String) :
    parse (front ++ flag :: back) = .error (.unexpectedArgument flag) := by
  have hfirst : (front ++ flag :: back).find? IsUnknown = some flag := by
    refine List.find?_eq_some_iff_append.mpr ⟨by simpa using hflag, front, back, rfl, ?_⟩
    simpa using hfront
  rw [parse_eq, hfirst]

theorem known_or_first_unknown (args : List String) : (∀ arg ∈ args, ¬IsUnknown arg) ∨
    ∃ front flag back, args = front ++ flag :: back ∧ (∀ arg ∈ front, ¬IsUnknown arg) ∧
      IsUnknown flag := by
  cases hfind : args.find? IsUnknown with
  | none => exact .inl (by simpa using hfind)
  | some flag =>
    obtain ⟨hflag, front, back, hsplit, hfront⟩ := List.find?_eq_some_iff_append.mp hfind
    exact .inr ⟨front, flag, back, hsplit, by simpa using hfront, by simpa using hflag⟩

theorem parse_eq_ok {args : List String} {found : FindArguments} :
    parse args = .ok found ↔ (∀ arg ∈ args, ¬IsUnknown arg) ∧
      positionals args = [found.schema, found.typeName, found.document] ∧
      found.mode = lastMode args := by
  constructor
  · intro h
    rcases known_or_first_unknown args with hknown | ⟨front, flag, back, rfl, hfront, hflag⟩
    · rw [parse_of_known hknown] at h
      exact ⟨hknown, assign_eq_ok.mp h⟩
    · rw [parse_of_unknown hfront hflag] at h
      cases h
  · rintro ⟨hknown, hassign⟩
    rw [parse_of_known hknown]
    exact assign_eq_ok.mpr hassign

theorem parse_eq_error {args : List String} {e : UsageError} : parse args = .error e ↔
    (∃ front flag back, args = front ++ flag :: back ∧ (∀ arg ∈ front, ¬IsUnknown arg) ∧
      IsUnknown flag ∧ e = .unexpectedArgument flag) ∨
    ((∀ arg ∈ args, ¬IsUnknown arg) ∧ (positionals args).length ≠ 3 ∧ e = .findArguments) := by
  constructor
  · intro h
    rcases known_or_first_unknown args with hknown | ⟨front, flag, back, rfl, hfront, hflag⟩
    · rw [parse_of_known hknown] at h
      exact .inr ⟨hknown, assign_eq_error.mp h⟩
    · rw [parse_of_unknown hfront hflag] at h
      cases h
      exact .inl ⟨front, flag, back, rfl, hfront, hflag, rfl⟩
  · rintro (⟨front, flag, back, rfl, hfront, hflag, rfl⟩ | ⟨hknown, hassign⟩)
    · exact parse_of_unknown hfront hflag back
    · rw [parse_of_known hknown]
      exact assign_eq_error.mpr hassign

theorem lastMode_modeFlags (args : List String) : lastMode (modeFlags args) = lastMode args := by
  have hmodes : (modeFlags args).filterMap mode? = args.filterMap mode? := by
    rw [modeFlags, List.filterMap_filter]
    congr 1
    funext arg
    cases mode? arg <;> rfl
  rw [lastMode, lastMode, hmodes]

theorem positionals_withoutModes (args : List String) :
    positionals (withoutModes args) = positionals args := by
  rw [positionals, positionals, withoutModes, List.filter_filter]
  refine List.filter_congr fun arg _ => ?_
  rcases arg_cases arg with ⟨mode, hmode, hflag, _⟩ | ⟨hmode, hflag, _⟩ | ⟨hmode, hflag, _⟩ <;>
    simp [hmode, hflag]

theorem find?_withoutModes (args : List String) :
    (withoutModes args).find? IsUnknown = args.find? IsUnknown := by
  rw [withoutModes, List.find?_filter]
  congr 1
  funext arg
  rcases arg_cases arg with ⟨mode, hmode, _, hknown⟩ | ⟨hmode, _, hunknown⟩ | ⟨hmode, _, hknown⟩ <;>
    simp [*]

/-- Only the order of the flags of modes counts, and that of the other arguments. -/
theorem parse_congr {args moved : List String} (hmodes : modeFlags moved = modeFlags args)
    (hrest : withoutModes moved = withoutModes args) : parse moved = parse args := by
  have hunknown : moved.find? IsUnknown = args.find? IsUnknown := by
    rw [← find?_withoutModes moved, hrest, find?_withoutModes]
  have hmode : lastMode moved = lastMode args := by
    rw [← lastMode_modeFlags moved, hmodes, lastMode_modeFlags]
  have hothers : positionals moved = positionals args := by
    rw [← positionals_withoutModes moved, hrest, positionals_withoutModes]
  rw [parse_eq, parse_eq, hunknown, hmode, hothers]

/-- Which arguments are accepted, and what they mean. Every flag has to be known and three arguments
have to be left, which are taken in order, with the mode of the last flag. Otherwise the first
unknown flag is named, however many arguments there are, and only without one their number is wrong.
Flags of modes may be moved among the other arguments as long as both keep their order. -/
theorem parse_decides (args : List String) :
    (∀ found, parse args = .ok found ↔ (∀ arg ∈ args, ¬IsUnknown arg) ∧
      positionals args = [found.schema, found.typeName, found.document] ∧
      found.mode = lastMode args) ∧
    (∀ e, parse args = .error e ↔
      (∃ front flag back, args = front ++ flag :: back ∧ (∀ arg ∈ front, ¬IsUnknown arg) ∧
        IsUnknown flag ∧ e = .unexpectedArgument flag) ∨
      ((∀ arg ∈ args, ¬IsUnknown arg) ∧ (positionals args).length ≠ 3 ∧ e = .findArguments)) ∧
    (∀ flag, (UsageError.unexpectedArgument flag).message =
      "unexpected argument \"" ++ flag ++ "\"") ∧
    UsageError.findArguments.message = "find requires <schema> <type> <document>" ∧
    ∀ moved, modeFlags moved = modeFlags args → withoutModes moved = withoutModes args →
      parse moved = parse args := by
  refine ⟨fun found => parse_eq_ok, fun e => parse_eq_error, fun flag => rfl, rfl, ?_⟩
  intro moved hmodes hrest
  exact parse_congr hmodes hrest

/-- Two flags of modes are moved to the front, where the last of them still counts. -/
theorem parse_decides_moved :
    let args := ["s", "--trace", "t", "d", "--count"]
    let moved := ["--trace", "--count", "s", "t", "d"]
    (∀ arg ∈ args, ¬IsUnknown arg) ∧ modeFlags moved = modeFlags args ∧
      withoutModes moved = withoutModes args ∧ parse moved = parse args ∧
      parse args = .ok ⟨"s", "t", "d", .count⟩ ∧
      parse ["s", "--verbose", "--count"] = .error (.unexpectedArgument "--verbose") := by
  intro args moved
  have hknown : ∀ arg ∈ args, ¬IsUnknown arg := by simp [args, IsUnknown]
  have hmodes : modeFlags moved = modeFlags args := by decide
  have hrest : withoutModes moved = withoutModes args := by decide
  have hthree : positionals args = ["s", "t", "d"] := by simp [args, positionals]
  have hflag : IsUnknown "--verbose" := by simp [IsUnknown]
  have hfront : ∀ arg ∈ ["s"], ¬IsUnknown arg := by simp [IsUnknown]
  obtain ⟨haccepts, _, _, _, hmoved⟩ := parse_decides args
  have hrefused := (parse_decides ["s", "--verbose", "--count"]).2.1
  refine ⟨hknown, hmodes, hrest, hmoved moved hmodes hrest, ?_, ?_⟩
  · exact (haccepts _).mpr ⟨hknown, hthree, by decide⟩
  · exact (hrefused _).mpr (.inl ⟨["s"], _, ["--count"], rfl, hfront, hflag, rfl⟩)

end Gleaner.CommandLine.FindArguments
