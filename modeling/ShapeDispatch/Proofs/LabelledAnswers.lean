import ShapeDispatch.Proofs.WorkspaceChanges
import ShapeDispatch.RuleTable.Labelled

/-! What a table of labels answers. The label comes from the rule that the tree is due among those given, in
the order in which they were given, and from the fallback only where no rule fits. -/

namespace ShapeDispatch

open Logged

namespace LabelledRule

def entries (rules : List LabelledRule) : List (Pattern × String) :=
  rules.map fun rule => (rule.pattern, rule.label)

def history (rules : List LabelledRule) (fallback : Option String) : List (Registration String) :=
  rules.map (fun rule => .rule rule.pattern rule.label) ++ fallback.toList.map .fallback

variable (rules : List LabelledRule) (fallback : Option String)

theorem rules_history : Registration.rules (history rules fallback) = entries rules := by
  have given : Registration.rules (rules.map fun rule => .rule rule.pattern rule.label) = entries rules := by
    rw [Registration.rules, List.filterMap_map, entries, ← List.filterMap_eq_map]
    rfl
  cases fallback with
  | none => rw [history, Option.toList_none, List.map_nil, List.append_nil, given]
  | some label => exact (Registration.rules_append_fallback _ label).trans given

theorem lastFallback_history : Registration.lastFallback (history rules fallback) = fallback := by
  cases fallback with
  | none =>
    have absent : (rules.map fun rule => Registration.rule rule.pattern rule.label).filterMap
        Registration.fallback? = [] := by
      rw [List.filterMap_map]
      exact List.filterMap_eq_nil_iff.mpr fun rule _ => rfl
    rw [history, Option.toList_none, List.map_nil, List.append_nil, Registration.lastFallback, absent]
    rfl
  | some label => exact Registration.lastFallback_append_fallback _ label

/-- What may be said of a tree: the label of the rule that it is due, or that of the fallback. -/
inductive Answers (rules : List LabelledRule) (fallback : Option String) (tree : Tree) : String → Prop where
  | rule {place : Nat} {pattern : Pattern} {label : String}
      (preferred : Preferred (entries rules) tree place pattern label) :
      Answers rules fallback tree (label ++ " " ++ tree.render)
  | fallback {label : String} (unmatched : ∀ rule ∈ rules, rule.pattern.fits tree = false)
      (given : fallback = some label) : Answers rules fallback tree (label ++ " " ++ tree.render)

variable {rules fallback} {tree : Tree}

theorem unfit_entries (unmatched : ∀ rule ∈ rules, rule.pattern.fits tree = false) :
    ∀ entry ∈ entries rules, entry.1.fits tree = false := by
  intro entry member
  obtain ⟨rule, among, rfl⟩ := List.mem_map.mp member
  exact unmatched rule among

theorem Answers.matched {line : String} (answers : Answers rules none tree line) :
    ∃ rule ∈ rules, rule.pattern.fits tree = true := by
  cases answers with
  | rule preferred =>
    obtain ⟨rule, among, here⟩ := List.mem_map.mp (List.mem_of_getElem? preferred.registered)
    cases here
    exact ⟨rule, among, preferred.fits⟩
  | fallback unmatched given => cases given

end LabelledRule

namespace RuleTable

variable {rules : List LabelledRule} {fallback : Option String} {tree : Tree}

theorem value_ofRules (rules : List LabelledRule) (fallback : Option String) :
    (ofRules rules fallback).value = (ofHistory (LabelledRule.history rules fallback)).value := by
  rw [ofHistory, LabelledRule.history, List.foldlM_append, List.foldlM_map, ofRules, Logged.value_bind,
    Logged.value_bind]
  cases fallback <;> rfl

theorem ranks_ofRules (rules : List LabelledRule) (fallback : Option String) :
    Ranks (ofRules rules fallback).value (LabelledRule.entries rules) := by
  rw [value_ofRules, ← LabelledRule.rules_history rules fallback]
  exact ranks_ofHistory _

theorem fallback_ofRules (rules : List LabelledRule) (fallback : Option String) :
    (ofRules rules fallback).value.fallback = fallback := by
  rw [value_ofRules, fallback_ofHistory, LabelledRule.lastFallback_history]

theorem exists_answers_of_matched (matched : ∃ rule ∈ rules, rule.pattern.fits tree = true) :
    ∃ line, LabelledRule.Answers rules fallback tree line := by
  obtain ⟨rule, among, fits⟩ := matched
  obtain ⟨place, pattern, label, preferred⟩ := (ranks_ofRules rules none).exists_preferred
    ⟨_, List.mem_map_of_mem among, fits⟩
  exact ⟨_, .rule preferred⟩

/-- What the table comes to for a tree, apart from what it reports on the way. -/
def answerTo (table : RuleTable String) (tree : Tree) : Except DispatchError String :=
  outcome (table.dispatch (m := Logged) (fun label tree => return LabelledRule.answer label tree)
    (.ofTree tree))

theorem outcome_dispatchHandle_of_shows (table : RuleTable String) {store : Store} {handle : Handle}
    (known : handle.kind? store = some tree.kind) (shows : handle.tree? store = some tree) :
    outcome (table.dispatchHandle (m := Logged) (fun label tree => return LabelledRule.answer label tree)
      store handle) = table.answerTo tree := by
  have looked : (Projection.mk tree.kind handle.target).subject store = .ofTree tree :=
    congrArg (Subject.mk tree.kind) shows
  rw [dispatchHandle_of_kind? _ known, looked]
  rfl

theorem answerTo_ofRules_of_answers {line : String}
    (answers : LabelledRule.Answers rules fallback tree line) :
    (ofRules rules fallback).value.answerTo tree = .ok line := by
  have ranks := ranks_ofRules rules fallback
  have present : (Subject.ofTree tree).tree? = some tree := rfl
  unfold answerTo
  cases answers with
  | rule preferred =>
    obtain ⟨index, -, -, -, runs⟩ := ranks.dispatch_of_preferred (m := Logged)
      (fun label tree => return LabelledRule.answer label tree) present preferred
    rw [runs]
    rfl
  | fallback unmatched given =>
    obtain ⟨-, runs⟩ := ranks.dispatch_of_unfit (m := Logged)
      (fun label tree => return LabelledRule.answer label tree) present
      (LabelledRule.unfit_entries unmatched)
    rw [runs, fallback_ofRules, given]
    rfl

theorem answerTo_ofRules_of_unmatched (unmatched : ∀ rule ∈ rules, rule.pattern.fits tree = false) :
    (ofRules rules none).value.answerTo tree = .error (.noMatch tree.kind) := by
  have present : (Subject.ofTree tree).tree? = some tree := rfl
  obtain ⟨-, runs⟩ := (ranks_ofRules rules none).dispatch_of_unfit (m := Logged)
    (fun label tree => return LabelledRule.answer label tree) present
    (LabelledRule.unfit_entries unmatched)
  rw [answerTo, runs, fallback_ofRules]
  rfl

end RuleTable

end ShapeDispatch
