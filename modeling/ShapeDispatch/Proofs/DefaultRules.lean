import ShapeDispatch.Demo
import ShapeDispatch.Proofs.IndistinguishableTrees
import ShapeDispatch.Proofs.LabelledAnswers

/-! The default rules tell the truth. Two of them may fit one tree, but then one outranks the other, so that
the order in which they are registered does not matter; and the one that is outranked is meant for the trees
that the other leaves to it. -/

namespace ShapeDispatch

open Logged

/-- A rule that fits a tree and outranks every other rule that does. -/
structure Foremost (rules : List LabelledRule) (tree : Tree) (rule : LabelledRule) : Prop where
  member : rule ∈ rules
  fits : rule.pattern.fits tree = true
  outranks (other : LabelledRule) : other ∈ rules → other.pattern.fits tree = true → other ≠ rule →
    other.pattern.specificity < rule.pattern.specificity

namespace Foremost

variable {rules rules' : List LabelledRule} {rule : LabelledRule} {tree : Tree}

theorem perm (foremost : Foremost rules tree rule) (order : rules.Perm rules') : Foremost rules' tree rule where
  member := order.mem_iff.mp foremost.member
  fits := foremost.fits
  outranks other member := foremost.outranks other (order.mem_iff.mpr member)

theorem of_filter (others : List LabelledRule)
    (fitting : rules.filter (fun rule => rule.pattern.fits tree) = rule :: others)
    (lower : ∀ other ∈ others, other.pattern.specificity < rule.pattern.specificity) :
    Foremost rules tree rule := by
  obtain ⟨member, fits⟩ := List.mem_filter.mp (fitting ▸ List.mem_cons_self)
  refine ⟨member, fits, fun other among fitsToo different => lower other ?_⟩
  have listed : other ∈ rule :: others := fitting ▸ List.mem_filter.mpr ⟨among, fitsToo⟩
  exact (List.mem_cons.mp listed).resolve_left different

theorem exists_preferred (foremost : Foremost rules tree rule) :
    ∃ place, Preferred (LabelledRule.entries rules) tree place rule.pattern rule.label := by
  have registered : (rule.pattern, rule.label) ∈ LabelledRule.entries rules :=
    List.mem_map_of_mem foremost.member
  obtain ⟨place, pattern, label, preferred⟩ :=
    (RuleTable.ranks_ofRules rules none).exists_preferred ⟨_, registered, foremost.fits⟩
  obtain ⟨other, among, here⟩ := List.mem_map.mp (List.mem_of_getElem? preferred.registered)
  cases here
  by_cases same : other = rule
  · exact ⟨place, same ▸ preferred⟩
  · have lower := foremost.outranks other among preferred.fits same
    obtain ⟨there, found⟩ := List.getElem?_of_mem registered
    obtain higher | ⟨tied, -⟩ := preferred.best there _ found foremost.fits
    · exact absurd (Specificity.lt_trans lower higher) (Specificity.not_lt_self _)
    · exact absurd (tied ▸ lower) (Specificity.not_lt_self _)

end Foremost

namespace RuleTable

variable {α : Type} {table : RuleTable α} {tree : Tree}

theorem Ranks.choose_of_preferred {entries : List (Pattern × α)} (ranks : Ranks table entries) {place : Nat}
    {pattern : Pattern} {action : α} (preferred : Preferred entries tree place pattern action) :
    ∃ index rule, table.choose tree = .rule index rule ∧ rule.action = action := by
  obtain ⟨index, rule, found, here, -, same, -⟩ := ranks.firstFit?_of_preferred preferred
  exact ⟨index, rule, choose_of_firstFit? found here, same⟩

theorem Ranks.choose_of_unfit {entries : List (Pattern × α)} (ranks : Ranks table entries)
    (unfit : ∀ entry ∈ entries, entry.1.fits tree = false) {action : α} (given : table.fallback = some action) :
    table.choose tree = .fallback action := by
  have none := firstFit?_eq_none_iff.mpr (ranks.firstRule?_eq_none_iff.mpr unfit)
  simp only [choose, none, Option.bind_none, given]

/-- A rule with this action is the one that the table gives the tree to. -/
def Fires (table : RuleTable α) (action : α) (tree : Tree) : Prop :=
  ∃ index rule, table.choose tree = .rule index rule ∧ rule.action = action

/-- The table gives the tree to its fallback. -/
def FallsBack (table : RuleTable α) (tree : Tree) : Prop :=
  ∃ action, table.choose tree = .fallback action

theorem Fires.unique {first second : α} (fires : table.Fires first tree) (fires' : table.Fires second tree) :
    first = second := by
  obtain ⟨index, rule, chosen, rfl⟩ := fires
  obtain ⟨index', rule', chosen', rfl⟩ := fires'
  cases chosen.symm.trans chosen'
  rfl

theorem Fires.not_fallsBack {action : α} (fires : table.Fires action tree) : ¬table.FallsBack tree := by
  rintro ⟨other, chosen'⟩
  obtain ⟨index, rule, chosen, -⟩ := fires
  cases chosen.symm.trans chosen'

theorem Fires.answerTo {table : RuleTable String} {label : String} (fires : table.Fires label tree) :
    table.answerTo tree = .ok (label ++ " " ++ tree.render) := by
  obtain ⟨index, rule, chosen, rfl⟩ := fires
  simp only [RuleTable.answerTo, dispatch, Subject.ofTree, chosen]
  rfl

theorem answerTo_of_fallback {table : RuleTable String} {label : String}
    (chosen : table.choose tree = .fallback label) : table.answerTo tree = .ok (label ++ " " ++ tree.render) := by
  simp only [answerTo, dispatch, Subject.ofTree, chosen]
  rfl

end RuleTable

namespace Demo

/-- The label that is true of a tree. None speaks of integers. -/
def truth : Tree → Option String
  | .int _ => none
  | .mem (.mem _) => some "Mem with a Mem child!"
  | .mem _ => some "Mem!"
  | .move dst src =>
    if dst.zeroed = src.zeroed then some "Move with same shape dst and src!"
    else some "Move with different shape dst and src!"

variable {rules : List LabelledRule} {tree : Tree} {label fallback : String}

theorem exists_foremost (holds : truth tree = some label) :
    ∃ rule, Foremost defaultRules tree rule ∧ rule.label = label := by
  match tree with
  | .int _ => cases holds
  -- Here two rules fit, and the label of nested accesses is that of the narrower one.
  | .mem (.mem _) =>
    cases holds
    exact ⟨_, .of_filter [⟨.mem .any, "Mem!"⟩] rfl (by decide), rfl⟩
  | .mem (.int _) | .mem (.move _ _) =>
    cases holds
    exact ⟨_, .of_filter [] rfl (by decide), rfl⟩
  | .move dst src =>
    by_cases alike : dst.zeroed = src.zeroed
    · have fitting : defaultRules.filter (fun rule => rule.pattern.fits (.move dst src)) =
          [⟨.moveAlike, "Move with same shape dst and src!"⟩,
            ⟨.move .any .any, "Move with different shape dst and src!"⟩] := by
        simp [defaultRules, Pattern.fits, (Tree.sameShape_iff_zeroed dst src).mpr alike]
      refine ⟨_, .of_filter _ fitting (by decide), ?_⟩
      simpa [truth, alike] using holds
    · have different : dst.sameShape src = false :=
        Bool.eq_false_iff.mpr fun same => alike ((Tree.sameShape_iff_zeroed dst src).mp same)
      have fitting : defaultRules.filter (fun rule => rule.pattern.fits (.move dst src)) =
          [⟨.move .any .any, "Move with different shape dst and src!"⟩] := by
        simp [defaultRules, Pattern.fits, different]
      refine ⟨_, .of_filter _ fitting (by decide), ?_⟩
      simpa [truth, alike] using holds

theorem unfit_of_truth (silent : truth tree = none) : ∀ rule ∈ defaultRules, rule.pattern.fits tree = false := by
  match tree with
  | .int _ => simp [defaultRules, Pattern.fits]
  | .mem (.mem _) | .mem (.int _) | .mem (.move _ _) => cases silent
  | .move dst src =>
    rw [truth] at silent
    split at silent <;> cases silent

theorem fires_of_truth (order : rules.Perm defaultRules) (holds : truth tree = some label) :
    (RuleTable.ofRules rules (some fallback)).value.Fires label tree := by
  obtain ⟨rule, foremost, rfl⟩ := exists_foremost holds
  obtain ⟨place, preferred⟩ := (foremost.perm order.symm).exists_preferred
  exact (RuleTable.ranks_ofRules rules (some fallback)).choose_of_preferred preferred

theorem choose_of_truth (order : rules.Perm defaultRules) (silent : truth tree = none) :
    (RuleTable.ofRules rules (some fallback)).value.choose tree = .fallback fallback := by
  refine (RuleTable.ranks_ofRules rules (some fallback)).choose_of_unfit ?_ (RuleTable.fallback_ofRules _ _)
  refine LabelledRule.unfit_entries fun rule member => ?_
  exact unfit_of_truth silent rule (order.mem_iff.mp member)

theorem fires_iff_truth (order : rules.Perm defaultRules) :
    (RuleTable.ofRules rules (some fallback)).value.Fires label tree ↔ truth tree = some label := by
  refine ⟨fun fires => ?_, fires_of_truth order⟩
  cases holds : truth tree with
  | none => exact absurd ⟨fallback, choose_of_truth order holds⟩ fires.not_fallsBack
  | some meant => rw [fires.unique (fires_of_truth order holds)]

theorem fallsBack_iff_truth (order : rules.Perm defaultRules) :
    (RuleTable.ofRules rules (some fallback)).value.FallsBack tree ↔ truth tree = none := by
  refine ⟨fun fallsBack => ?_, fun silent => ⟨fallback, choose_of_truth order silent⟩⟩
  cases holds : truth tree with
  | none => rfl
  | some meant => exact absurd fallsBack (fires_of_truth order holds).not_fallsBack

theorem truth_eq_iff (tree : Tree) :
    (truth tree = some "Mem with a Mem child!" ↔ ∃ exp, tree = .mem (.mem exp)) ∧
      (truth tree = some "Mem!" ↔ ∃ exp, tree = .mem exp ∧ ∀ inner, exp ≠ .mem inner) ∧
      (truth tree = some "Move with same shape dst and src!" ↔
        ∃ dst src, tree = .move dst src ∧ dst.zeroed = src.zeroed) ∧
      (truth tree = some "Move with different shape dst and src!" ↔
        ∃ dst src, tree = .move dst src ∧ dst.zeroed ≠ src.zeroed) ∧
      (truth tree = none ↔ ∃ val, tree = .int val) := by
  match tree with
  | .int _ | .mem (.mem _) | .mem (.int _) | .mem (.move _ _) => simp [truth]
  | .move dst src => by_cases alike : dst.zeroed = src.zeroed <;> simp [truth, alike]

/-- In every order of the default rules and with every fallback, a tree is given to the rule whose label is
true of it: which memory accesses are nested, and which moves are between equal shapes. Only integers are left
to the fallback. The answer is the label of the rule with the text of the tree, wherever the tree is stored. -/
theorem defaultRules_truthful (order : rules.Perm defaultRules) (fallback : String) (tree : Tree) :
    let table := (RuleTable.ofRules rules (some fallback)).value
    ((table.Fires "Mem with a Mem child!" tree ↔ ∃ exp, tree = .mem (.mem exp)) ∧
      (table.Fires "Mem!" tree ↔ ∃ exp, tree = .mem exp ∧ ∀ inner, exp ≠ .mem inner) ∧
      (table.Fires "Move with same shape dst and src!" tree ↔
        ∃ dst src, tree = .move dst src ∧ dst.zeroed = src.zeroed) ∧
      (table.Fires "Move with different shape dst and src!" tree ↔
        ∃ dst src, tree = .move dst src ∧ dst.zeroed ≠ src.zeroed) ∧
      (table.FallsBack tree ↔ ∃ val, tree = .int val)) ∧
    (∀ label, table.Fires label tree → table.answerTo tree = .ok (label ++ " " ++ tree.render)) ∧
    (table.FallsBack tree → table.answerTo tree = .ok (fallback ++ " " ++ tree.render)) ∧
    ∀ (store : Store) (handle : Handle), handle.tree? store = some tree →
      outcome (table.dispatchHandle (m := Logged) (fun label tree => return LabelledRule.answer label tree)
        store handle) = table.answerTo tree := by
  refine ⟨?rules, fun label fires => fires.answerTo, fun fallsBack => ?fallback, fun store handle shows => ?handle⟩
  case rules =>
    simp only [fires_iff_truth order, fallsBack_iff_truth order]
    exact truth_eq_iff tree
  case fallback =>
    exact RuleTable.answerTo_of_fallback (choose_of_truth order ((fallsBack_iff_truth order).mp fallsBack))
  case handle =>
    exact RuleTable.outcome_dispatchHandle_of_shows _ (Handle.kind?_of_tree? shows) shows

theorem defaultRules_truthful_reversed :
    let table := (RuleTable.ofRules defaultRules.reverse (some "rest")).value
    table.answerTo (.move (.int 21) (.mem (.mem (.int 42)))) =
        .ok "Move with different shape dst and src! Move(21,Mem(Mem(42)))" ∧
      table.answerTo (.move (.int 21) (.int 42)) = .ok "Move with same shape dst and src! Move(21,42)" ∧
      outcome (table.dispatchHandle (m := Logged) (fun label tree => return LabelledRule.answer label tree)
        store (.toNode 0)) = .ok "rest 42" := by
  have truthful := defaultRules_truthful (List.reverse_perm defaultRules) "rest"
  obtain ⟨⟨-, -, -, unlike, -⟩, answers, -⟩ := truthful (.move (.int 21) (.mem (.mem (.int 42))))
  obtain ⟨⟨-, -, alike, -⟩, answers', -⟩ := truthful (.move (.int 21) (.int 42))
  obtain ⟨⟨-, -, -, -, left⟩, -, rest, shown⟩ := truthful (.int 42)
  refine ⟨?_, ?_, ?_⟩
  · exact answers _ (unlike.mpr ⟨_, _, rfl, by decide⟩)
  · exact answers' _ (alike.mpr ⟨_, _, rfl, rfl⟩)
  · exact (shown store (.toNode 0) (by decide)).trans (rest (left.mpr ⟨_, rfl⟩))

end Demo

end ShapeDispatch
