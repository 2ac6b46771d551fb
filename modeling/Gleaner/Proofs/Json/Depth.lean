import Gleaner.Json.Text
import Gleaner.Proofs.Document.Depth
import Gleaner.Proofs.Search.Bound
import Gleaner.Proofs.Search.Item
import Gleaner.Proofs.Search.Trace
/-!
# How deep JSON texts nest

A value nests as deep as the document that it is. What bounds the depth of a text is the number of
arrays and objects open at once: the parts that an open frame holds are as deep as the frames around
it leave room for (`Within`), every token keeps this, and a value that is closed has the depth of
its frame and one frame less around it. So a finder whose bound is `maxDepth` or more never fails
for depth on a document that was read from a text. The limit is sharp: texts of arrays inside each
other are read up to that number of arrays and refused beyond it (`read?_render_nested`).
-/
namespace Gleaner.Json

theorem depthItems_le_iff {items : List Json} {bound : Nat} :
    depthItems items ≤ bound ↔ ∀ j ∈ items, j.depth < bound := by
  induction items with
  | nil => simp [depthItems]
  | cons j rest ih => rw [depthItems, Nat.max_le, ih, List.forall_mem_cons, Nat.succ_le_iff]

theorem depthFields_le_iff {fields : List (String × Json)} {bound : Nat} :
    depthFields fields ≤ bound ↔ ∀ field ∈ fields, field.2.depth < bound := by
  induction fields with
  | nil => simp [depthFields]
  | cons field rest ih => rw [depthFields, Nat.max_le, ih, List.forall_mem_cons, Nat.succ_le_iff]

theorem depthItems_reverse (items : List Json) : depthItems items.reverse = depthItems items := by
  have hiff : ∀ bound, depthItems items.reverse ≤ bound ↔ depthItems items ≤ bound := by
    simp [depthItems_le_iff]
  exact Nat.le_antisymm ((hiff _).mpr (Nat.le_refl _)) ((hiff _).mp (Nat.le_refl _))

theorem depthFields_reverse (fields : List (String × Json)) :
    depthFields fields.reverse = depthFields fields := by
  have hiff : ∀ bound, depthFields fields.reverse ≤ bound ↔ depthFields fields ≤ bound := by
    simp [depthFields_le_iff]
  exact Nat.le_antisymm ((hiff _).mpr (Nat.le_refl _)) ((hiff _).mp (Nat.le_refl _))

mutual
theorem height_toNode (j : Json) : j.toNode.height = j.depth := by
  match j with
  | .null => rfl
  | .bool _ => rfl
  | .int _ => rfl
  | .float _ => rfl
  | .string _ => rfl
  | .array items => rw [toNode, Node.height, heightAll_toItems items, depth]
  | .object fields => rw [toNode, Node.height, heightAll_toFields fields, depth]
theorem heightAll_toItems (items : List Json) :
    Node.heightAll (toItems items) = depthItems items := by
  match items with
  | [] => rfl
  | j :: rest => rw [toItems, Node.heightAll, height_toNode j, heightAll_toItems rest, depthItems]
theorem heightAll_toFields (fields : List (String × Json)) :
    Node.heightAll (toFields fields) = depthFields fields := by
  match fields with
  | [] => rfl
  | (_, j) :: rest =>
    rw [toFields, Node.heightAll, height_toNode j, heightAll_toFields rest, depthFields]
end

theorem depth_toNode (j : Json) : j.toNode.depth = j.depth := by
  rw [Node.depth_eq_height, height_toNode]

theorem depthFields_setField_le (name : String) (j : Json) (fields : List (String × Json)) :
    depthFields (setField name j fields) ≤ max (j.depth + 1) (depthFields fields) := by
  induction fields with
  | nil => simp [setField, depthFields]
  | cons field rest ih =>
    rw [setField]
    split <;> simp only [depthFields] <;> omega

mutual
/-- A value that a repeated name drops may be the deepest one. -/
theorem depth_mergeFields_le (j : Json) : j.mergeFields.depth ≤ j.depth := by
  match j with
  | .null => exact Nat.le_refl _
  | .bool _ => exact Nat.le_refl _
  | .int _ => exact Nat.le_refl _
  | .float _ => exact Nat.le_refl _
  | .string _ => exact Nat.le_refl _
  | .array items =>
    rw [mergeFields, depth, depth]
    exact depthItems_mergeItems_le items
  | .object fields =>
    rw [mergeFields, depth, depth]
    simpa [depthFields] using depthFields_mergeObject_le [] fields
theorem depthItems_mergeItems_le (items : List Json) :
    depthItems (mergeItems items) ≤ depthItems items := by
  match items with
  | [] => exact Nat.le_refl _
  | j :: rest =>
    have hj := depth_mergeFields_le j
    have hrest := depthItems_mergeItems_le rest
    rw [mergeItems, depthItems, depthItems]
    omega
theorem depthFields_mergeObject_le (merged fields : List (String × Json)) :
    depthFields (mergeObject merged fields) ≤ max (depthFields merged) (depthFields fields) := by
  match fields with
  | [] => simp [mergeObject, depthFields]
  | (name, j) :: rest =>
    have hj := depth_mergeFields_le j
    have hset := depthFields_setField_le name j.mergeFields merged
    have hrest := depthFields_mergeObject_le (setField name j.mergeFields merged) rest
    rw [mergeObject, depthFields]
    omega
end

/-- An atom that a text spells has no parts. -/
def Token.Flat : Token → Prop
  | .atom j => j.depth = 0
  | _ => True

theorem depth_of_number {t : NumberText} {j : Json} (h : t.value? = some j) : j.depth = 0 := by
  unfold NumberText.value? at h
  simp only at h
  split at h
  · split at h
    · cases h
      rfl
    · split at h
      · cases h
        rfl
      · cases h
        rfl
  · obtain ⟨x, _, rfl⟩ := Option.map_eq_some_iff.mp h
    rfl

theorem depth_of_readNumber {negative : Bool} {cs rest : List Char} {j : Json}
    (h : readNumber negative cs = some (j, rest)) : j.depth = 0 := by
  simp only [readNumber, Option.bind_eq_bind, Option.bind_eq_some_iff, Option.pure_def,
    Option.some.injEq, Prod.exists, Prod.mk.injEq] at h
  obtain ⟨_, _, _, _, _, _, _, _, _, _, hvalue, rfl, _⟩ := h
  exact depth_of_number hvalue

theorem flat_of_readToken {c : Char} {rest rest' : List Char} {t : Token}
    (h : readToken c rest = some (t, rest')) : t.Flat := by
  fun_cases readToken c rest with
  | case7 rest =>
    obtain ⟨_, _, htoken⟩ := Option.map_eq_some_iff.mp h
    cases htoken
    trivial
  | case11 rest =>
    obtain ⟨_, hnumber, htoken⟩ := Option.map_eq_some_iff.mp h
    cases htoken
    exact depth_of_readNumber hnumber
  | case12 c rest =>
    rw [readToken] at h
    · obtain ⟨_, hnumber, htoken⟩ := Option.map_eq_some_iff.mp h
      cases htoken
      exact depth_of_readNumber hnumber
    all_goals assumption
  | _ =>
    -- signs of punctuation and the three words
    cases h
    trivial

theorem flat_of_tokens? {read ts : List Token} {cs : List Char} (hread : ∀ t ∈ read, t.Flat)
    (h : tokens? read cs = some ts) : ∀ t ∈ ts, t.Flat := by
  fun_induction tokens? read cs with
  | case1 read =>
    cases h
    simpa using hread
  | case2 read c rest hblank ih => exact ih hread h
  | case3 => cases h
  | case4 read c rest hblank t rest' htoken ih =>
    exact ih (List.forall_mem_cons.mpr ⟨flat_of_readToken htoken, hread⟩) h

/-- The depth of an open array or object, if it were closed as it is. -/
def Frame.depth : Frame → Nat
  | .array items => depthItems items
  | .object fields _ => depthFields fields

/-- No more frames are open than may be, and none is deeper than the frames around it leave room
for. -/
def Within : List Frame → Prop
  | [] => True
  | frame :: rest => rest.length < maxOpen ∧ rest.length + frame.depth ≤ maxOpen ∧ Within rest

theorem Within.length_le {stack : List Frame} (h : Within stack) : stack.length ≤ maxOpen := by
  cases stack with
  | nil => exact Nat.zero_le _
  | cons frame rest => exact h.1

namespace Reader

def Bounded : Reader → Prop
  | .busy stack _ => Within stack
  | .done j => j.depth ≤ maxOpen

theorem bounded_supply {j : Json} {stack : List Frame} (h : Within stack)
    (hj : stack.length + j.depth ≤ maxOpen) : (supply j stack).Bounded := by
  match stack with
  | [] => simpa [supply, Bounded] using hj
  | .array items :: rest =>
    obtain ⟨hroom, hframe, hrest⟩ := h
    rw [List.length_cons] at hj
    refine ⟨hroom, ?_, hrest⟩
    simp only [Frame.depth, depthItems] at hframe ⊢
    omega
  | .object fields name :: rest =>
    obtain ⟨hroom, hframe, hrest⟩ := h
    rw [List.length_cons] at hj
    refine ⟨hroom, ?_, hrest⟩
    simp only [Frame.depth, depthFields] at hframe ⊢
    omega

/-- Closing a frame hands its value to the frames around it, which have room for one more level. -/
theorem bounded_close {frame : Frame} {awaiting : Awaiting} {rest : List Frame} {j : Json}
    (h : (busy (frame :: rest) awaiting).Bounded) (hdepth : j.depth = frame.depth) :
    (supply j rest).Bounded := by
  obtain ⟨_, hframe, hrest⟩ := h
  exact bounded_supply hrest (by rwa [hdepth])

theorem bounded_enter {frame : Frame} {awaiting : Awaiting} {stack : List Frame} {s : Reader}
    (h : Within stack) (hframe : frame.depth = 0) (henter : enter frame awaiting stack = some s) :
    s.Bounded := by
  rw [enter] at henter
  split at henter
  · rename_i hroom
    cases henter
    exact ⟨hroom, by omega, h⟩
  · cases henter

theorem bounded_startValue {stack : List Frame} {t : Token} {s : Reader} (h : Within stack)
    (hflat : t.Flat) (hstart : startValue stack t = some s) : s.Bounded := by
  have hroom := Within.length_le h
  cases t with
  | openArray => exact bounded_enter h rfl hstart
  | openObject => exact bounded_enter h rfl hstart
  | string text =>
    cases hstart
    exact bounded_supply h hroom
  | atom j =>
    cases hstart
    rw [Token.Flat] at hflat
    exact bounded_supply h (by omega)
  | _ => cases hstart

theorem bounded_step {r s : Reader} {t : Token} (h : r.Bounded) (hflat : t.Flat)
    (hstep : r.step t = some s) : s.Bounded := by
  fun_cases Reader.step r t with
  | case1 => cases hstep
  | case2 stack t => exact bounded_startValue h hflat hstep
  | case3 items rest =>
    cases hstep
    exact bounded_close h (depthItems_reverse items)
  | case4 stack t hopen =>
    rw [step] at hstep
    · exact bounded_startValue h hflat hstep
    · exact hopen
  | case5 fields name rest =>
    cases hstep
    exact bounded_close h (depthFields_reverse fields)
  | case10 items rest =>
    cases hstep
    exact bounded_close h (depthItems_reverse items)
  | case12 fields name rest =>
    cases hstep
    exact bounded_close h (depthFields_reverse fields)
  | case13 =>
    rw [step] at hstep
    · cases hstep
    all_goals assumption
  | _ =>
    -- a name, a colon or a comma: the frames stay open and what they hold stays the same
    cases hstep
    exact h

theorem bounded_run {r s : Reader} {ts : List Token} (h : r.Bounded)
    (hflat : ∀ t ∈ ts, t.Flat) (hrun : r.run ts = some s) : s.Bounded := by
  induction ts generalizing r with
  | nil =>
    cases hrun
    exact h
  | cons t rest ih =>
    obtain ⟨ht, hrest⟩ := List.forall_mem_cons.mp hflat
    rw [run] at hrun
    cases hstep : r.step t with
    | none =>
      rw [hstep] at hrun
      cases hrun
    | some next =>
      rw [hstep] at hrun
      exact ih (bounded_step h ht hstep) hrest hrun

end Reader

theorem depth_le_of_parse? {text : String} {j : Json} (h : parse? text = some j) :
    j.depth ≤ maxOpen := by
  simp only [parse?, Option.bind_eq_bind, Option.bind_eq_some_iff] at h
  obtain ⟨ts, hts, r, hrun, hvalue⟩ := h
  have hflat : ∀ t ∈ ts, t.Flat := flat_of_tokens? (by simp) hts
  have hstart : (Reader.busy [] .value).Bounded := trivial
  have hbounded : r.Bounded := Reader.bounded_run hstart hflat hrun
  cases r with
  | busy stack awaiting => cases hvalue
  | done value =>
    cases hvalue
    exact hbounded

theorem depth_le_of_read? {text : String} {j : Json} (h : read? text = some j) :
    j.depth ≤ maxOpen := by
  obtain ⟨parsed, hparse, rfl⟩ := Option.map_eq_some_iff.mp h
  exact Nat.le_trans (depth_mergeFields_le parsed) (depth_le_of_parse? hparse)

/-- The given number of arrays, each but the innermost with one array in it. -/
def nested : Nat → Json
  | 0 => .null
  | n + 1 => .array [nested n]

theorem depth_nested (n : Nat) : (nested n).depth = n := by
  induction n with
  | zero => rfl
  | succ n ih => rw [nested, depth, depthItems, depthItems, ih, Nat.max_eq_left (Nat.zero_le _)]

theorem mergeFields_nested (n : Nat) : (nested n).mergeFields = nested n := by
  induction n with
  | zero => rfl
  | succ n ih => rw [nested, mergeFields, mergeItems, mergeItems, ih]

theorem render_nested_succ (n : Nat) :
    (render (nested (n + 1))).toList = '[' :: ((render (nested n)).toList ++ [']']) := by
  have hsingle : String.intercalate "," [render (nested n)] = render (nested n) := rfl
  simp [nested, render, renderItems, hsingle]

def nestedTokens : Nat → List Token
  | 0 => [.atom .null]
  | n + 1 => .openArray :: (nestedTokens n ++ [.closeArray])

theorem tokens?_cons {c : Char} {rest rest' : List Char} {t : Token} (read : List Token)
    (hblank : isBlank c = false) (htoken : readToken c rest = some (t, rest')) :
    tokens? read (c :: rest) = tokens? (t :: read) rest' := by
  rw [tokens?, if_neg (by simp [hblank])]
  split <;> simp_all

theorem tokens?_render_nested (n : Nat) (read : List Token) (rest : List Char) :
    tokens? read ((render (nested n)).toList ++ rest) =
      tokens? ((nestedTokens n).reverse ++ read) rest := by
  induction n generalizing read rest with
  | zero => exact tokens?_cons read rfl rfl
  | succ n ih =>
    rw [render_nested_succ, List.cons_append, List.append_assoc, tokens?_cons read rfl rfl, ih,
      List.singleton_append, tokens?_cons _ rfl rfl, nestedTokens]
    simp

namespace Reader

theorem run_append (r : Reader) (ts us : List Token) :
    r.run (ts ++ us) = (r.run ts).bind (·.run us) := by
  induction ts generalizing r with
  | nil => rfl
  | cons t rest ih =>
    rw [List.cons_append, run, run]
    cases r.step t with
    | none => rfl
    | some next => exact ih next

theorem step_eq_startValue {stack : List Frame} {awaiting : Awaiting} {t : Token}
    (hstart : awaiting = .value ∨ awaiting = .valueOrClose) (ht : t ≠ .closeArray) :
    step (.busy stack awaiting) t = startValue stack t := by
  rcases hstart with rfl | rfl
  · rfl
  · rw [step]
    exact fun _ _ hclose _ => ht hclose

theorem run_nested (n : Nat) (stack : List Frame) {awaiting : Awaiting}
    (hstart : awaiting = .value ∨ awaiting = .valueOrClose) (hroom : stack.length ≤ maxOpen) :
    run (.busy stack awaiting) (nestedTokens n) =
      if stack.length + n ≤ maxOpen then some (supply (nested n) stack) else none := by
  induction n generalizing stack awaiting with
  | zero =>
    have hstep : step (.busy stack awaiting) (.atom .null) = some (supply .null stack) :=
      step_eq_startValue hstart nofun
    rw [if_pos (show stack.length + 0 ≤ maxOpen from hroom), nestedTokens, run, hstep]
    rfl
  | succ n ih =>
    have hstep : step (.busy stack awaiting) .openArray = enter (.array []) .valueOrClose stack :=
      step_eq_startValue hstart nofun
    rw [nestedTokens, run, hstep, enter]
    by_cases hlt : stack.length < maxOpen
    · have hinner := ih (.array [] :: stack) (.inr rfl) hlt
      rw [List.length_cons, Nat.add_assoc, Nat.add_comm 1] at hinner
      rw [if_pos hlt]
      dsimp only
      rw [run_append, hinner]
      split <;> rfl
    · rw [if_neg hlt, if_neg (by omega)]

end Reader

theorem read?_render_nested (n : Nat) :
    read? (render (nested n)) = if n ≤ maxOpen then some (nested n) else none := by
  have htokens : tokens? [] (render (nested n)).toList = some (nestedTokens n) := by
    have h := tokens?_render_nested n [] []
    rw [List.append_nil, tokens?, List.append_nil, List.reverse_reverse] at h
    exact h
  have hrun := Reader.run_nested n [] (.inl rfl) (Nat.zero_le _)
  rw [List.length_nil, Nat.zero_add] at hrun
  rw [read?, parse?, htokens]
  simp only [Option.bind_eq_bind, Option.bind_some, hrun]
  split
  · simp [Reader.supply, Reader.value?, mergeFields_nested]
  · rfl

/-- The depth that no document read from a JSON text exceeds. -/
def maxDepth : Nat := 127

theorem maxOpen_eq : maxOpen = maxDepth := rfl

/-- A document is as deep as the JSON value that it comes from. One that is read from a text has a
depth of at most `maxDepth`, so no search whose bound is at least that fails for depth, whether it
collects, counts, traces or gives item by item. Of the texts that are arrays inside each other, just
those of at most `maxDepth` arrays are read, and these are as deep as they have arrays. -/
theorem depth_toNode_of_read :
    (∀ j : Json, j.toNode.depth = j.depth) ∧
    (∀ text j, read? text = some j → j.toNode.depth ≤ maxDepth ∧
      ∀ f : Finder, maxDepth ≤ f.maxDepth → ∀ depth max,
        f.find j.toNode ≠ .error (.depthExceeded depth max) ∧
        f.count j.toNode ≠ .error (.depthExceeded depth max) ∧
        (f.trace j.toNode).result ≠ .error (.depthExceeded depth max) ∧
        ∀ k, (f.reply (f.start j.toNode) k).item ≠ some (.error (.depthExceeded depth max))) ∧
    ∀ n, (nested n).depth = n ∧
      read? (render (nested n)) = if n ≤ maxDepth then some (nested n) else none := by
  rw [← maxOpen_eq]
  refine ⟨depth_toNode, ?_, fun n => ⟨depth_nested n, read?_render_nested n⟩⟩
  intro text j hread
  have hdepth : j.toNode.depth ≤ maxOpen := by
    rw [depth_toNode]
    exact depth_le_of_read? hread
  refine ⟨hdepth, fun f hbound depth max => ?_⟩
  have hanswer : f.query.answer j.toNode ≠ .error (.depthExceeded depth max) := fun herror => by
    obtain ⟨_, _, hdeep⟩ := Query.answer_depthExceeded herror
    exact Nat.not_lt.mpr (Nat.le_trans hdepth hbound) hdeep
  refine ⟨?_, ?_, ?_, fun k hreply => hanswer (f.answer_of_reply hreply)⟩
  · rwa [Finder.find_eq_report, Finder.report_eq]
  · rw [Finder.count_eq]
    cases h : f.query.answer j.toNode with
    | ok texts =>
      intro hcount
      contradiction
    | error error => exact fun hcount => hanswer (h.trans (congrArg _ (Except.error.inj hcount)))
  · rwa [Finder.trace_result]

/-- A text whose deepest part is dropped by a repeated name. -/
theorem depth_toNode_of_read_repeated :
    let j : Json := .object [("k", .array [.string "x", .array []])]
    let f : Finder := ⟨.check .acceptAll, 127⟩
    read? "\x7b\"k\": [[[1]]], \"k\": [\"x\", []]\x7d" = some j ∧ maxDepth ≤ f.maxDepth ∧
      j.toNode.depth ≤ maxDepth ∧
      ∀ depth max, f.find j.toNode ≠ .error (.depthExceeded depth max) := by
  intro j f
  have hread : read? "\x7b\"k\": [[[1]]], \"k\": [\"x\", []]\x7d" = some j := by cbv
  have hbound : maxDepth ≤ f.maxDepth := Nat.le_refl _
  obtain ⟨_, hlimit, _⟩ := depth_toNode_of_read
  obtain ⟨hdepth, hsearch⟩ := hlimit _ j hread
  exact ⟨hread, hbound, hdepth, fun depth max => (hsearch f hbound depth max).1⟩

end Gleaner.Json
