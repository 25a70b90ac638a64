import Mathlib.Data.List.Induction
import Mathlib.Data.List.TakeWhile
import ShapeDispatch.RuleTable.Basic

/-! What a rule table owes to its history. The table is only ever extended by one rule at a time, and
two facts survive each extension: its rules stand from the most specific to the least, and the rules
of any one rank stand in the order they were registered in. Together they say which of the registered
rules is the first one that fits a tree. -/

namespace ShapeDispatch

/-- One call that sets up a table. The history of a table made with a fallback begins with it. -/
inductive Registration (α : Type) where
  | rule (pattern : Pattern) (action : α)
  | fallback (action : α)

namespace Registration

variable {α : Type}

def rule? : Registration α → Option (Pattern × α)
  | rule pattern action => some (pattern, action)
  | fallback _ => none

def fallback? : Registration α → Option α
  | rule _ _ => none
  | fallback action => some action

def rules (history : List (Registration α)) : List (Pattern × α) := history.filterMap rule?

def lastFallback (history : List (Registration α)) : Option α :=
  (history.filterMap fallback?).getLast?

variable (history : List (Registration α))

theorem rules_append_rule (pattern : Pattern) (action : α) :
    rules (history ++ [rule pattern action]) = rules history ++ [(pattern, action)] := by
  rw [rules, List.filterMap_append]
  rfl

theorem rules_append_fallback (action : α) :
    rules (history ++ [fallback action]) = rules history := by
  rw [rules, List.filterMap_append]
  exact List.append_nil _

theorem lastFallback_append_rule (pattern : Pattern) (action : α) :
    lastFallback (history ++ [rule pattern action]) = lastFallback history := by
  rw [lastFallback, List.filterMap_append]
  exact congrArg List.getLast? (List.append_nil _)

theorem lastFallback_append_fallback (action : α) :
    lastFallback (history ++ [fallback action]) = some action := by
  rw [lastFallback, List.filterMap_append]
  exact List.getLast?_concat

end Registration

namespace Specificity

theorem lt_of_not_lt_of_lt {a b c : Specificity} (first : ¬a < b) (second : a < c) : b < c := by
  rw [lt_iff] at *
  omega

end Specificity

namespace RuleTable

variable {α : Type}

def enter (table : RuleTable α) : Registration α → Logged (RuleTable α)
  | .rule pattern action => table.register pattern action
  | .fallback action => return table.setFallback action

def ofHistory (history : List (Registration α)) : Logged (RuleTable α) :=
  history.foldlM enter empty

theorem ofHistory_append_singleton (history : List (Registration α)) (last : Registration α) :
    (ofHistory (history ++ [last])).value = ((ofHistory history).value.enter last).value := by
  simp only [ofHistory, List.foldlM_append, List.foldlM_cons, List.foldlM_nil, bind_pure,
    Logged.value_bind]

def ruleOf (entry : Pattern × α) : Rule α := { pattern := entry.1, action := entry.2 }

/-- The rules of the table are those registered: the ranks fall, and in each rank the order is kept. -/
structure Ranks (table : RuleTable α) (entries : List (Pattern × α)) : Prop where
  sorted : table.rules.Pairwise fun first second => ¬first.specificity < second.specificity
  ties (rank : Specificity) :
    table.rules.filter (fun rule => rule.specificity = rank) =
      (entries.filter fun entry => entry.1.specificity = rank).map ruleOf

namespace Ranks

variable {table : RuleTable α} {entries : List (Pattern × α)}

theorem empty : Ranks (RuleTable.empty : RuleTable α) [] :=
  ⟨List.Pairwise.nil, fun _ => rfl⟩

theorem mem_iff (ranks : Ranks table entries) (rule : Rule α) :
    rule ∈ table.rules ↔ ∃ entry ∈ entries, ruleOf entry = rule := by
  have same := congrArg (rule ∈ ·) (ranks.ties rule.specificity)
  simp only [List.mem_filter, List.mem_map, decide_true, and_true, decide_eq_true_eq, eq_iff_iff] at same
  rw [same]
  constructor
  · intro kept
    obtain ⟨entry, ⟨member, -⟩, made⟩ := kept
    exact ⟨entry, member, made⟩
  · intro registered
    obtain ⟨entry, member, rfl⟩ := registered
    exact ⟨entry, ⟨member, rfl⟩, rfl⟩

end Ranks

theorem notBelow_append_below (table : RuleTable α) (rank : Specificity) :
    table.notBelow rank ++ table.below rank = table.rules := List.takeWhile_append_dropWhile

theorem not_lt_of_mem_notBelow {table : RuleTable α} {rank : Specificity} {rule : Rule α}
    (member : rule ∈ table.notBelow rank) : ¬rule.specificity < rank := by
  simpa only [decide_not, Bool.not_eq_true', decide_eq_false_iff_not] using List.mem_takeWhile_imp member

theorem lt_of_mem_below {table : RuleTable α} {rank : Specificity} {rule : Rule α}
    (sorted : table.rules.Pairwise fun first second => ¬first.specificity < second.specificity)
    (member : rule ∈ table.below rank) : rule.specificity < rank := by
  have belowSorted := sorted.sublist (table.notBelow_append_below rank ▸ List.sublist_append_right _ _)
  cases shape : table.below rank with
  | nil => exact absurd (shape ▸ member) List.not_mem_nil
  | cons first others =>
    have firstBelow : first.specificity < rank := by
      have stops := List.head?_dropWhile_not (fun rule : Rule α => ¬rule.specificity < rank) table.rules
      rw [← below, shape] at stops
      simpa using stops
    rw [shape] at member belowSorted
    obtain rfl | later := List.mem_cons.mp member
    · exact firstBelow
    · exact Specificity.lt_of_not_lt_of_lt (List.rel_of_pairwise_cons belowSorted later) firstBelow

namespace Ranks

variable {table : RuleTable α} {entries : List (Pattern × α)}

theorem filter_below_eq_nil (ranks : Ranks table entries) (rank : Specificity) :
    (table.below rank).filter (fun rule => rule.specificity = rank) = [] := by
  rw [List.filter_eq_nil_iff]
  intro rule member
  -- Once a rule ranks below, so do all behind it.
  have lower := lt_of_mem_below ranks.sorted member
  rw [decide_eq_true_eq]
  intro same
  exact Specificity.not_lt_self rank (same ▸ lower)

theorem sorted_add (ranks : Ranks table entries) (pattern : Pattern) (action : α) :
    (table.add pattern action).rules.Pairwise
      fun first second => ¬first.specificity < second.specificity := by
  have split := ranks.sorted
  rw [← table.notBelow_append_below pattern.specificity, List.pairwise_append] at split
  obtain ⟨above, under, across⟩ := split
  simp only [RuleTable.add, List.pairwise_append, List.pairwise_cons, List.mem_cons]
  refine ⟨above, ⟨?_, under⟩, ?_⟩
  · intro rule member higher
    exact Specificity.not_lt_self _ (Specificity.lt_trans higher (lt_of_mem_below ranks.sorted member))
  · intro first inside second new
    rcases new with rfl | member
    · exact not_lt_of_mem_notBelow inside
    · exact across first inside second member

theorem ties_add (ranks : Ranks table entries) (pattern : Pattern) (action : α) (rank : Specificity) :
    (table.add pattern action).rules.filter (fun rule => rule.specificity = rank) =
      ((entries ++ [(pattern, action)]).filter fun entry => entry.1.specificity = rank).map ruleOf := by
  have split := ranks.ties rank
  rw [← table.notBelow_append_below pattern.specificity, List.filter_append] at split
  rw [List.filter_append, List.map_append, ← split]
  simp only [RuleTable.add, List.filter_append, List.append_assoc]
  by_cases same : pattern.specificity = rank
  · subst same
    simp only [List.filter_cons, List.filter_nil, decide_true, if_true, ranks.filter_below_eq_nil]
    rfl
  · simp only [List.filter_cons, List.filter_nil, same, decide_false, Bool.false_eq_true, if_false,
      List.map_nil, List.append_nil]

theorem add (ranks : Ranks table entries) (pattern : Pattern) (action : α) :
    Ranks (table.add pattern action) (entries ++ [(pattern, action)]) :=
  ⟨ranks.sorted_add pattern action, ranks.ties_add pattern action⟩

end Ranks

/-- The table that a history sets up from nothing ranks the rules that were registered in it. -/
theorem ranks_ofHistory (history : List (Registration α)) :
    Ranks (ofHistory history).value (Registration.rules history) := by
  induction history using List.reverseRecOn with
  | nil => exact Ranks.empty
  | append_singleton history last ih =>
    rw [ofHistory_append_singleton]
    cases last with
    | rule pattern action =>
      rw [Registration.rules_append_rule]
      exact ih.add pattern action
    | fallback action =>
      rw [Registration.rules_append_fallback]
      exact ⟨ih.sorted, ih.ties⟩

theorem fallback_ofHistory (history : List (Registration α)) :
    (ofHistory history).value.fallback = Registration.lastFallback history := by
  induction history using List.reverseRecOn with
  | nil => rfl
  | append_singleton history last ih =>
    rw [ofHistory_append_singleton]
    cases last with
    | rule pattern action =>
      rw [Registration.lastFallback_append_rule]
      exact ih
    | fallback action =>
      rw [Registration.lastFallback_append_fallback]
      rfl

end RuleTable

/-- The registered rule that a tree is due: of those that fit it has the highest rank, and of those
with that rank it is the oldest. -/
structure Preferred {α : Type} (entries : List (Pattern × α)) (tree : Tree) (place : Nat)
    (pattern : Pattern) (action : α) : Prop where
  registered : entries[place]? = some (pattern, action)
  fits : pattern.fits tree = true
  best (other : Nat) (entry : Pattern × α) : entries[other]? = some entry →
    entry.1.fits tree = true → entry.1.specificity < pattern.specificity ∨
      entry.1.specificity = pattern.specificity ∧ place ≤ other

namespace Preferred

variable {α : Type} {entries : List (Pattern × α)} {tree : Tree} {place place' : Nat}
  {pattern pattern' : Pattern} {action action' : α}

theorem place_le (first : Preferred entries tree place pattern action)
    (second : Preferred entries tree place' pattern' action') : place ≤ place' := by
  obtain lower | ⟨-, older⟩ := first.best _ _ second.registered second.fits
  · obtain higher | ⟨same, -⟩ := second.best _ _ first.registered first.fits
    · exact absurd (Specificity.lt_trans lower higher) (Specificity.not_lt_self _)
    · exact absurd (same ▸ lower) (Specificity.not_lt_self _)
  · exact older

theorem unique (first : Preferred entries tree place pattern action)
    (second : Preferred entries tree place' pattern' action') :
    place = place' ∧ pattern = pattern' ∧ action = action' := by
  obtain rfl := Nat.le_antisymm (first.place_le second) (second.place_le first)
  have same := first.registered.symm.trans second.registered
  simpa using same

end Preferred

namespace RuleTable

variable {α : Type} {table : RuleTable α} {entries : List (Pattern × α)} {tree : Tree}

private theorem find?_filter_of_find? {β : Type} {list : List β} {wanted kept : β → Bool} {value : β}
    (found : list.find? wanted = some value) (stays : kept value = true) :
    (list.filter kept).find? wanted = some value := by
  obtain ⟨fit, front, back, rfl, unfit⟩ := List.find?_eq_some_iff_append.mp found
  rw [List.filter_append, List.filter_cons_of_pos stays, List.find?_eq_some_iff_append]
  exact ⟨fit, _, _, rfl, fun other member => unfit other (List.mem_filter.mp member).1⟩

def firstRule? (table : RuleTable α) (tree : Tree) : Option (Rule α) :=
  table.rules.find? fun rule => rule.pattern.fits tree

theorem firstRule?_eq_some_iff {table : RuleTable α} {rule : Rule α} :
    table.firstRule? tree = some rule ↔ rule.pattern.fits tree = true ∧
      ∃ front back, table.rules = front ++ rule :: back ∧
        ∀ other ∈ front, other.pattern.fits tree = false := by
  simp only [firstRule?, List.find?_eq_some_iff_append, Bool.not_eq_true']

theorem Ranks.oldest (ranks : Ranks table entries) {rule : Rule α}
    (first : table.firstRule? tree = some rule) :
    ∃ (place : Nat) (entry : Pattern × α), entries[place]? = some entry ∧ ruleOf entry = rule ∧
      ∀ (other : Nat) (entry' : Pattern × α), entries[other]? = some entry' →
        entry'.1.fits tree = true → entry'.1.specificity = rule.specificity → place ≤ other := by
  have tied : (table.rules.filter fun other => other.specificity = rule.specificity).find?
      (fun rule => rule.pattern.fits tree) = some rule :=
    find?_filter_of_find? first (decide_eq_true rfl)
  rw [ranks.ties, List.find?_map, Option.map_eq_some_iff] at tied
  obtain ⟨entry, found, made⟩ := tied
  rw [List.find?_filter, List.find?_eq_some_iff_getElem] at found
  obtain ⟨-, place, bound, here, older⟩ := found
  refine ⟨place, entry, by rw [List.getElem?_eq_getElem bound, here], made, ?_⟩
  intro other entry' there fit sameRank
  by_contra younger
  obtain ⟨_, found⟩ := List.getElem?_eq_some_iff.mp there
  have unfit := older other (Nat.lt_of_not_le younger)
  simp only [found, sameRank, Function.comp_apply, ruleOf, fit, and_self, decide_true,
    Bool.not_true, Bool.false_eq_true] at unfit

theorem Ranks.not_lt_of_first (ranks : Ranks table entries) {rule other : Rule α}
    (first : table.firstRule? tree = some rule) (member : other ∈ table.rules)
    (fit : other.pattern.fits tree = true) : ¬rule.specificity < other.specificity := by
  obtain ⟨-, front, back, split, unfit⟩ := firstRule?_eq_some_iff.mp first
  have sorted := ranks.sorted
  rw [split] at member sorted
  obtain early | late := List.mem_append.mp member
  · exact Bool.noConfusion (fit.symm.trans (unfit other early))
  · obtain rfl | behind := List.mem_cons.mp late
    · exact Specificity.not_lt_self _
    · exact List.rel_of_pairwise_cons (List.pairwise_append.mp sorted).2.1 behind

/-- The first rule of the table that fits is the registered one that the tree is due. -/
theorem Ranks.preferred_of_first (ranks : Ranks table entries) {rule : Rule α}
    (first : table.firstRule? tree = some rule) :
    ∃ place, Preferred entries tree place rule.pattern rule.action := by
  obtain ⟨place, entry, here, rfl, oldest⟩ := ranks.oldest first
  refine ⟨place, here, (firstRule?_eq_some_iff.mp first).1, ?_⟩
  intro other entry' there fit
  have member := (ranks.mem_iff (ruleOf entry')).mpr ⟨entry', List.mem_of_getElem? there, rfl⟩
  have notHigher := ranks.not_lt_of_first first member fit
  obtain lower | same | higher := Specificity.lt_or_eq_or_gt entry'.1.specificity entry.1.specificity
  · exact .inl lower
  · exact .inr ⟨same, oldest other entry' there fit same⟩
  · exact absurd higher notHigher

theorem Ranks.firstRule?_eq_none_iff (ranks : Ranks table entries) :
    table.firstRule? tree = none ↔ ∀ entry ∈ entries, entry.1.fits tree = false := by
  simp only [firstRule?, List.find?_eq_none, Bool.not_eq_true]
  constructor
  · intro unfit entry member
    exact unfit (ruleOf entry) ((ranks.mem_iff _).mpr ⟨entry, member, rfl⟩)
  · intro unfit rule member
    obtain ⟨entry, registered, rfl⟩ := (ranks.mem_iff rule).mp member
    exact unfit entry registered

end RuleTable

end ShapeDispatch
