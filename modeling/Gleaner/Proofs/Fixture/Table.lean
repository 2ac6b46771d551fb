import Gleaner.Proofs.Fixture.Configuration
/-!
# Tables of verdicts

A table is put together by calls, each of which accepts a text or rejects it. A call sets one
verdict, so a table answers with the verdict of the last call that names a text, and calls on
different texts change places without a change to any answer (`lastVerdict?_swap`). A configuration
makes the calls of two lists. It may not name a text in both, and then neither the order of its
lists matters nor how often they name a text (`LookupConfig.Answers`).
-/
namespace Gleaner

namespace Lookup

inductive Call where
  | accept (text : String)
  | reject (text : String)

namespace Call

def text : Call → String
  | accept text => text
  | reject text => text

def verdict : Call → Bool
  | accept _ => true
  | reject _ => false

def apply (table : Lookup) : Call → Lookup
  | accept text => table.accept text
  | reject text => table.reject text

def entry (call : Call) : String × Bool := (call.text, call.verdict)

end Call

def ofCalls (calls : List Call) : Lookup := calls.foldl Call.apply empty

/-- The verdict of the last call that names a text. -/
def lastVerdict? (calls : List Call) (name : String) : Option Bool :=
  (calls.map Call.entry).reverse.lookup name

theorem get?_ofCalls (calls : List Call) (name : String) :
    (ofCalls calls).get? name = lastVerdict? calls name := by
  have hstep : ∀ (table : Lookup) (call : Call),
      call.apply table = table.set call.entry.1 call.entry.2 := by
    intro table call
    cases call <;> rfl
  have hentries : ofCalls calls =
      (calls.map Call.entry).foldl (fun table entry => table.set entry.1 entry.2) empty := by
    simp only [ofCalls, List.foldl_map, ← hstep]
  rw [hentries]
  exact (get_foldl_set get? _ (fun table entry name => get?_set table entry.1 name entry.2)
    empty _ name).trans Option.or_none

theorem lastVerdict?_append (front back : List Call) (name : String) :
    lastVerdict? (front ++ back) name = (lastVerdict? back name).or (lastVerdict? front name) := by
  rw [lastVerdict?, List.map_append, List.reverse_append, List.lookup_append]
  rfl

theorem lastVerdict?_eq_none {calls : List Call} {name : String} :
    lastVerdict? calls name = none ↔ ∀ call ∈ calls, call.text ≠ name := by
  rw [lastVerdict?, List.lookup_eq_none_iff]
  simp only [List.mem_reverse, List.forall_mem_map, bne_iff_ne, Call.entry, ne_comm]

theorem lastVerdict?_cons_of_none {call : Call} {rest : List Call}
    (hrest : ∀ later ∈ rest, later.text ≠ call.text) :
    lastVerdict? (call :: rest) call.text = some call.verdict := by
  rw [← List.singleton_append, lastVerdict?_append, lastVerdict?_eq_none.mpr hrest, Option.none_or]
  exact List.lookup_cons_self

theorem lastVerdict?_eq_some {calls : List Call} {name : String} {verdict : Bool} :
    lastVerdict? calls name = some verdict ↔ ∃ front call back, calls = front ++ call :: back ∧
      call.text = name ∧ call.verdict = verdict ∧ ∀ later ∈ back, later.text ≠ name := by
  constructor
  · intro h
    -- The first entry of the reversed calls with the name is the last call with it.
    rw [lastVerdict?, List.lookup_eq_some_iff] at h
    obtain ⟨after, before, hsplit, hafter⟩ := h
    rw [List.reverse_eq_append_iff, List.reverse_cons, List.append_assoc,
      List.singleton_append] at hsplit
    obtain ⟨front, tail, rfl, _, htail⟩ := List.map_eq_append_iff.mp hsplit
    obtain ⟨call, back, rfl, hcall, hback⟩ := List.map_eq_cons_iff.mp htail
    obtain ⟨rfl, rfl⟩ := Prod.mk.inj hcall
    refine ⟨front, call, back, rfl, rfl, rfl, fun later hlater hname => ?_⟩
    have hmem : later.entry ∈ after := by
      rw [← List.mem_reverse, ← hback]
      exact List.mem_map_of_mem hlater
    exact bne_iff_ne.mp (hafter later.entry hmem) hname.symm
  · rintro ⟨front, call, back, rfl, rfl, rfl, hback⟩
    rw [lastVerdict?_append, lastVerdict?_cons_of_none hback, Option.some_or]

theorem lastVerdict?_swap {c d : Call} (hne : c.text ≠ d.text) (front back : List Call)
    (name : String) :
    lastVerdict? (front ++ c :: d :: back) name = lastVerdict? (front ++ d :: c :: back) name := by
  have hsplit : ∀ x y : Call, lastVerdict? (front ++ x :: y :: back) name =
      ((lastVerdict? back name).or (([y.entry] ++ [x.entry]).lookup name)).or
        (lastVerdict? front name) := by
    intro x y
    rw [show front ++ x :: y :: back = front ++ ([x, y] ++ back) from rfl, lastVerdict?_append,
      lastVerdict?_append]
    rfl
  rw [hsplit, hsplit, lookup_append_comm]
  simpa [Call.entry] using Ne.symm hne

theorem verdict_eq_ok {table : Lookup} {text : String} {verdict : Bool} :
    table.verdict text = .ok verdict ↔ table.get? text = some verdict := by
  rw [Lookup.verdict]
  cases table.get? text <;> simp

theorem verdict_eq_error {table : Lookup} {text : String} {e : Failure} :
    table.verdict text = .error e ↔
      table.get? text = none ∧ e = ⟨"no table entry for \"" ++ text ++ "\""⟩ := by
  rw [Lookup.verdict]
  cases table.get? text <;> simp [eq_comm]

theorem test_congr {table other : Lookup} (h : ∀ name, table.get? name = other.get? name)
    (node : Node) : table.check.test node = other.check.test node := by
  simp only [Lookup.check]
  cases node.text? with
  | none => rfl
  | some text => simp only [Lookup.verdict, h]

/-- A table answers for a text with the verdict of the last call that names it, and fails on a text
that no call names. Nodes that are not text never conform. -/
structure Follows (table : Lookup) (calls : List Call) : Prop where
  verdict : ∀ name verdict, table.check.test (.text name) = .ok verdict ↔
    ∃ front call back, calls = front ++ call :: back ∧ call.text = name ∧
      call.verdict = verdict ∧ ∀ later ∈ back, later.text ≠ name
  unknown : ∀ name e, table.check.test (.text name) = .error e ↔
    (∀ call ∈ calls, call.text ≠ name) ∧ e = ⟨"no table entry for \"" ++ name ++ "\""⟩
  other : ∀ node, node.text? = none → table.check.test node = .ok false

theorem follows_ofCalls (calls : List Call) : (ofCalls calls).Follows calls where
  verdict name verdict := by
    rw [← lastVerdict?_eq_some, ← get?_ofCalls]
    exact verdict_eq_ok
  unknown name e := by
    rw [← lastVerdict?_eq_none, ← get?_ofCalls]
    exact verdict_eq_error
  other node htext := by
    simp only [Lookup.check, htext]

end Lookup

namespace LookupConfig

variable (config : LookupConfig)

/-- The calls that a configuration stands for: all texts are accepted first, and then all others are
rejected. -/
def calls : List Lookup.Call := config.accepted.map .accept ++ config.rejected.map .reject

theorem ofLists_eq_ofCalls :
    Lookup.ofLists config.accepted config.rejected = Lookup.ofCalls config.calls := by
  rw [Lookup.ofCalls, calls, List.foldl_append, List.foldl_map, List.foldl_map]
  rfl

theorem check_decides : match config.check with
    | .ok check => check = (Lookup.ofCalls config.calls).check ∧
        ∀ text ∈ config.accepted, text ∉ config.rejected
    | .error e => ∃ front both back, config.accepted = front ++ both :: back ∧
        both ∈ config.rejected ∧ (∀ text ∈ front, text ∉ config.rejected) ∧
        e = .invalidConfig ("lookup lists \"" ++ both ++ "\" as both accepted and rejected") := by
  rw [check]
  cases hfind : config.accepted.find? config.rejected.contains with
  | some both =>
    obtain ⟨hboth, front, back, hsplit, hfront⟩ := List.find?_eq_some_iff_append.mp hfind
    exact ⟨front, both, back, hsplit, by simpa using hboth, by simpa using hfront, rfl⟩
  | none => exact ⟨by rw [ofLists_eq_ofCalls], by simpa using hfind⟩

/-- A test answers as the two lists of a configuration say, and fails on texts in neither. Nodes
that are not text never conform. -/
structure Answers (test : Node → Except Failure Bool) : Prop where
  accepted : ∀ text, test (.text text) = .ok true ↔ text ∈ config.accepted
  rejected : ∀ text, test (.text text) = .ok false ↔ text ∈ config.rejected
  unknown : ∀ text e, test (.text text) = .error e ↔ text ∉ config.accepted ∧
    text ∉ config.rejected ∧ e = ⟨"no table entry for \"" ++ text ++ "\""⟩
  other : ∀ node, node.text? = none → test node = .ok false

variable {config}

theorem get?_calls (h : ∀ text ∈ config.accepted, text ∉ config.rejected) (text : String) :
    (Lookup.ofCalls config.calls).get? text = if text ∈ config.accepted then some true
      else if text ∈ config.rejected then some false else none := by
  rw [← ofLists_eq_ofCalls, Lookup.get?_ofLists]
  by_cases haccepted : text ∈ config.accepted
  · simp [haccepted, h text haccepted]
  · simp [haccepted]

theorem answers_of_disjoint (h : ∀ text ∈ config.accepted, text ∉ config.rejected) :
    config.Answers (Lookup.ofCalls config.calls).check.test where
  accepted text := by
    refine Lookup.verdict_eq_ok.trans ?_
    rw [get?_calls h]
    by_cases haccepted : text ∈ config.accepted <;> simp [haccepted]
  rejected text := by
    refine Lookup.verdict_eq_ok.trans ?_
    rw [get?_calls h]
    by_cases haccepted : text ∈ config.accepted <;> simp [haccepted, h text]
  unknown text e := by
    refine Lookup.verdict_eq_error.trans ?_
    rw [get?_calls h]
    by_cases haccepted : text ∈ config.accepted
    · simp [haccepted]
    · by_cases hrejected : text ∈ config.rejected <;> simp [haccepted, hrejected]
  other := (Lookup.follows_ofCalls config.calls).other

/-- Two configurations list the same texts, in whatever order and however often. -/
structure ListsSame (config other : LookupConfig) : Prop where
  accepted : ∀ text, text ∈ config.accepted ↔ text ∈ other.accepted
  rejected : ∀ text, text ∈ config.rejected ↔ text ∈ other.rejected

theorem check_of_listsSame {other : LookupConfig} {made : Check} (hsame : config.ListsSame other)
    (hmade : config.check = .ok made) :
    ∃ check, other.check = .ok check ∧ ∀ node, check.test node = made.test node := by
  have hconfig := config.check_decides
  have hother := other.check_decides
  rw [hmade] at hconfig
  obtain ⟨rfl, hdisjoint⟩ := hconfig
  have hdisjoint' : ∀ text ∈ other.accepted, text ∉ other.rejected := fun text htext hrejected =>
    hdisjoint text ((hsame.accepted text).mpr htext) ((hsame.rejected text).mpr hrejected)
  cases hcheck : other.check with
  | error e =>
    rw [hcheck] at hother
    obtain ⟨front, both, back, hsplit, hboth, _⟩ := hother
    exact absurd hboth (hdisjoint' both (by simp [hsplit]))
  | ok check =>
    rw [hcheck] at hother
    obtain ⟨rfl, _⟩ := hother
    refine ⟨_, rfl, Lookup.test_congr fun text => ?_⟩
    rw [get?_calls hdisjoint, get?_calls hdisjoint']
    simp only [hsame.accepted, hsame.rejected]

/-- What tables answer. A configuration makes a table unless it lists a text as both accepted and
rejected; then it is refused and the first such text of the accepted ones is named. The table that
is made answers as the lists say, whatever their order and repetitions. A fixture makes it of the
same calls, but is not refused. A table that is put together by calls answers with the last call
that names a text, and calls on different texts may come in either order. -/
theorem answers_of_check (config : LookupConfig) (calls : List Lookup.Call) :
    (match config.check with
      | .error e => ∃ front both back, config.accepted = front ++ both :: back ∧
          both ∈ config.rejected ∧ (∀ text ∈ front, text ∉ config.rejected) ∧
          e = .invalidConfig ("lookup lists \"" ++ both ++ "\" as both accepted and rejected")
      | .ok check => (∀ text ∈ config.accepted, text ∉ config.rejected) ∧
          check = (Lookup.ofCalls config.calls).check ∧ config.Answers check.test ∧
          ∀ other, config.ListsSame other →
            ∃ same, other.check = .ok same ∧ ∀ node, same.test node = check.test node) ∧
    FixturePredicate.build? (.lookup config) =
      some (.ofCheck (Lookup.ofCalls config.calls).check) ∧
    (Lookup.ofCalls calls).Follows calls ∧
    ∀ front c d back, calls = front ++ c :: d :: back → c.text ≠ d.text →
      (∀ name, (Lookup.ofCalls (front ++ d :: c :: back)).get? name =
        (Lookup.ofCalls calls).get? name) ∧
      ∀ node, (Lookup.ofCalls (front ++ d :: c :: back)).check.test node =
        (Lookup.ofCalls calls).check.test node := by
  refine ⟨?_, ?_, Lookup.follows_ofCalls calls, ?_⟩
  · have hdecides := config.check_decides
    cases hcheck : config.check with
    | error e =>
      rw [hcheck] at hdecides
      exact hdecides
    | ok check =>
      rw [hcheck] at hdecides
      obtain ⟨rfl, hdisjoint⟩ := hdecides
      exact ⟨hdisjoint, rfl, answers_of_disjoint hdisjoint,
        fun other hsame => check_of_listsSame hsame hcheck⟩
  · rw [FixturePredicate.build?, ofLists_eq_ofCalls]
  · rintro front c d back rfl hne
    have hget : ∀ name, (Lookup.ofCalls (front ++ d :: c :: back)).get? name =
        (Lookup.ofCalls (front ++ c :: d :: back)).get? name := by
      intro name
      rw [Lookup.get?_ofCalls, Lookup.get?_ofCalls, Lookup.lastVerdict?_swap hne]
    exact ⟨hget, Lookup.test_congr hget⟩

/-- Lists in another order and with repetitions, and a text that is rejected before it is accepted.
-/
theorem answers_of_check_repeated :
    let config : LookupConfig := ⟨["a", "b"], ["c"]⟩
    let other : LookupConfig := ⟨["b", "a", "b"], ["c", "c"]⟩
    let calls : List Lookup.Call := [.accept "x", .reject "y", .accept "y"]
    (∃ check same, config.check = .ok check ∧ config.ListsSame other ∧ other.check = .ok same ∧
      check.test (.text "b") = .ok true ∧ same.test (.text "b") = .ok true ∧
      same.test (.text "c") = .ok false ∧
      same.test (.text "d") = .error ⟨"no table entry for \"d\""⟩) ∧
    (Lookup.Call.accept "x").text ≠ (Lookup.Call.reject "y").text ∧
    (Lookup.ofCalls calls).check.test (.text "y") = .ok true ∧
    (Lookup.ofCalls [.reject "y", .accept "x", .accept "y"]).check.test (.text "y") = .ok true := by
  intro config other calls
  have hsame : config.ListsSame other := ⟨by simp [config, other], by simp [config, other, or_comm]⟩
  have hne : (Lookup.Call.accept "x").text ≠ (Lookup.Call.reject "y").text := by decide
  obtain ⟨⟨_, _, hanswers, hlists⟩, _, hfollows, hswap⟩ := answers_of_check config calls
  obtain ⟨same, hcheck, htest⟩ := hlists other hsame
  have hy : (Lookup.ofCalls calls).check.test (.text "y") = .ok true :=
    (hfollows.verdict "y" true).mpr
      ⟨[.accept "x", .reject "y"], .accept "y", [], rfl, rfl, rfl, nofun⟩
  refine ⟨⟨_, same, rfl, hsame, hcheck, (hanswers.accepted "b").mpr (by simp [config]), ?_, ?_, ?_⟩,
    hne, hy, ?_⟩
  · exact (htest _).trans ((hanswers.accepted "b").mpr (by simp [config]))
  · exact (htest _).trans ((hanswers.rejected "c").mpr (by simp [config]))
  · exact (htest _).trans ((hanswers.unknown "d" _).mpr (by simp [config]))
  · exact ((hswap [] _ _ _ rfl hne).2 (.text "y")).trans hy

end LookupConfig

end Gleaner
