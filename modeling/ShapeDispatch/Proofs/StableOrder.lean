import ShapeDispatch.Proofs.RuleOrder

/-! The table is sorted once and for all. Putting the rules in one at a time comes to what a stable sort
makes of all of them together. A list whose ranks fall is determined by its rules of each rank, in their
order, so two histories make the same table exactly if they agree on every rank. -/

namespace ShapeDispatch

namespace Rule

variable {α : Type}

/-- The order of a table: no rule stands in front of a more specific one. -/
def mayPrecede (first second : Rule α) : Bool :=
  ¬first.specificity < second.specificity

theorem mayPrecede_iff {first second : Rule α} :
    first.mayPrecede second = true ↔ ¬first.specificity < second.specificity :=
  decide_eq_true_iff

theorem mayPrecede_trans (first second third : Rule α) (early : first.mayPrecede second = true)
    (late : second.mayPrecede third = true) : first.mayPrecede third = true := by
  rw [mayPrecede_iff] at *
  intro below
  exact late (Specificity.lt_of_not_lt_of_lt early below)

theorem mayPrecede_total (first second : Rule α) :
    (first.mayPrecede second || second.mayPrecede first) = true := by
  rw [Bool.or_eq_true, mayPrecede_iff, mayPrecede_iff]
  by_cases below : first.specificity < second.specificity
  · exact .inr fun above => Specificity.not_lt_self _ (Specificity.lt_trans below above)
  · exact .inl below

end Rule

def ofRank {α : Type} (rank : Specificity) (rules : List (Rule α)) : List (Rule α) :=
  rules.filter fun rule => rule.specificity = rank

section

variable {α : Type} {rules others : List (Rule α)} {rule other : Rule α} {rank : Specificity}

theorem mem_ofRank : rule ∈ ofRank rank rules ↔ rule ∈ rules ∧ rule.specificity = rank := by
  rw [ofRank, List.mem_filter, decide_eq_true_iff]

theorem ofRank_cons_self (rule : Rule α) (rules : List (Rule α)) :
    ofRank rule.specificity (rule :: rules) = rule :: ofRank rule.specificity rules :=
  List.filter_cons_of_pos (decide_eq_true rfl)

theorem ofRank_cons_of_ne (different : rule.specificity ≠ rank) :
    ofRank rank (rule :: rules) = ofRank rank rules :=
  List.filter_cons_of_neg (by rwa [decide_eq_true_iff])

theorem not_lt_of_mem_cons
    (falls : (rule :: rules).Pairwise fun first second => ¬first.specificity < second.specificity)
    (member : other ∈ rule :: rules) : ¬rule.specificity < other.specificity := by
  obtain rfl | later := List.mem_cons.mp member
  · exact Specificity.not_lt_self _
  · exact List.rel_of_pairwise_cons falls later

private theorem mem_of_same_ranks (same : ∀ rank, ofRank rank (rule :: rules) = ofRank rank others) :
    rule ∈ others := by
  have among : rule ∈ ofRank rule.specificity (rule :: rules) :=
    mem_ofRank.mpr ⟨List.mem_cons_self, rfl⟩
  rw [same] at among
  exact (mem_ofRank.mp among).1

/-- A falling list is determined by its ranks. -/
theorem eq_of_same_ranks
    (falls : rules.Pairwise fun first second => ¬first.specificity < second.specificity)
    (falls' : others.Pairwise fun first second => ¬first.specificity < second.specificity)
    (same : ∀ rank, ofRank rank rules = ofRank rank others) : rules = others := by
  induction rules generalizing others with
  | nil =>
    cases others with
    | nil => rfl
    | cons other others =>
      exact absurd (mem_of_same_ranks fun rank => (same rank).symm) List.not_mem_nil
  | cons rule rules ih =>
    cases others with
    | nil => exact absurd (mem_of_same_ranks same) List.not_mem_nil
    | cons other others =>
      -- Each of the two ranks occurs in the other list, and neither list has any above its first.
      have sameRank : rule.specificity = other.specificity := by
        have notAbove := not_lt_of_mem_cons falls (mem_of_same_ranks fun rank => (same rank).symm)
        have notBelow := not_lt_of_mem_cons falls' (mem_of_same_ranks same)
        obtain below | equal | above := Specificity.lt_or_eq_or_gt rule.specificity other.specificity
        · exact absurd below notAbove
        · exact equal
        · exact absurd above notBelow
      have top := same rule.specificity
      rw [ofRank_cons_self, sameRank, ofRank_cons_self] at top
      obtain ⟨rfl, rest⟩ := List.cons.inj top
      congr 1
      refine ih (List.Pairwise.of_cons falls) (List.Pairwise.of_cons falls') fun rank => ?_
      by_cases here : rule.specificity = rank
      · rwa [← here]
      · rw [← ofRank_cons_of_ne here, same, ofRank_cons_of_ne here]

theorem ofRank_mergeSort (rank : Specificity) (rules : List (Rule α)) :
    ofRank rank (rules.mergeSort Rule.mayPrecede) = ofRank rank rules := by
  have level : (ofRank rank rules).Pairwise fun first second => first.mayPrecede second = true := by
    refine List.pairwise_iff_forall_sublist.mpr fun {first second} pair => ?_
    have memberFirst := mem_ofRank.mp (pair.subset List.mem_cons_self)
    have memberSecond := mem_ofRank.mp (pair.subset (List.mem_cons_of_mem _ List.mem_cons_self))
    rw [Rule.mayPrecede_iff, memberFirst.2, memberSecond.2]
    exact Specificity.not_lt_self rank
  have stays : (ofRank rank rules).Sublist (rules.mergeSort Rule.mayPrecede) :=
    List.sublist_mergeSort Rule.mayPrecede_trans Rule.mayPrecede_total level List.filter_sublist
  -- Sorting adds nothing to a rank, so that what stays is all there is of it.
  have among : (ofRank rank rules).Sublist (ofRank rank (rules.mergeSort Rule.mayPrecede)) := by
    have kept := stays.filter fun rule => rule.specificity = rank
    simpa only [ofRank, List.filter_filter, Bool.and_self] using kept
  have together := (rules.mergeSort_perm Rule.mayPrecede).filter fun rule => rule.specificity = rank
  exact (among.eq_of_length together.length_eq.symm).symm

end

namespace RuleTable

variable {α : Type} {table : RuleTable α} {entries : List (Pattern × α)}

theorem ruleOf_injective (entry entry' : Pattern × α) (same : ruleOf entry = ruleOf entry') :
    entry = entry' := by
  obtain ⟨pattern, action⟩ := entry
  obtain ⟨pattern', action'⟩ := entry'
  cases same
  rfl

theorem Ranks.rules_eq_mergeSort (ranks : Ranks table entries) :
    table.rules = (entries.map ruleOf).mergeSort Rule.mayPrecede := by
  have falls := List.pairwise_mergeSort Rule.mayPrecede_trans Rule.mayPrecede_total (entries.map ruleOf)
  simp only [Rule.mayPrecede_iff] at falls
  refine eq_of_same_ranks ranks.sorted falls fun rank => ?_
  calc ofRank rank table.rules
    _ = (entries.filter fun entry => entry.1.specificity = rank).map ruleOf := ranks.ties rank
    _ = ofRank rank (entries.map ruleOf) := by rw [ofRank, List.filter_map]; rfl
    _ = ofRank rank ((entries.map ruleOf).mergeSort Rule.mayPrecede) := (ofRank_mergeSort rank _).symm

theorem Ranks.rules_perm (ranks : Ranks table entries) : table.rules.Perm (entries.map ruleOf) :=
  ranks.rules_eq_mergeSort ▸ List.mergeSort_perm _ _

theorem Ranks.specificity_eq (ranks : Ranks table entries) :
    table.rules.map Rule.specificity = table.rules.map fun rule => rule.pattern.specificity := by
  refine List.map_congr_left fun rule member => ?_
  obtain ⟨entry, -, rfl⟩ := (ranks.mem_iff rule).mp member
  rfl

theorem rules_append_cons_fallback (before after : List (Registration α)) (action : α) :
    Registration.rules (before ++ .fallback action :: after) = Registration.rules (before ++ after) := by
  simp only [Registration.rules, List.filterMap_append, List.filterMap_cons, Registration.rule?]

/-- After every history the table holds just the registered rules, each with its rank, in falling order and
within one rank in the order of registration: it is their stable sort, whatever fallbacks came between.
So two histories make the same rules exactly if they registered the same ones of every rank in the same
order. -/
theorem rules_ofHistory_stable :
    (∀ history : List (Registration α),
      let rules := (ofHistory history).value.rules
      let entries := Registration.rules history
      rules.Perm (entries.map ruleOf) ∧
        rules.map Rule.specificity = rules.map (fun rule => rule.pattern.specificity) ∧
        rules.Pairwise (fun first second => ¬first.specificity < second.specificity) ∧
        (∀ rank, rules.filter (fun rule => rule.specificity = rank) =
          (entries.filter fun entry => entry.1.specificity = rank).map ruleOf) ∧
        rules = (entries.map ruleOf).mergeSort Rule.mayPrecede) ∧
      (∀ (before after : List (Registration α)) action,
        (ofHistory (before ++ .fallback action :: after)).value.rules =
          (ofHistory (before ++ after)).value.rules) ∧
      ∀ history history' : List (Registration α),
        (ofHistory history).value.rules = (ofHistory history').value.rules ↔
          ∀ rank, (Registration.rules history).filter (fun entry => entry.1.specificity = rank) =
            (Registration.rules history').filter (fun entry => entry.1.specificity = rank) := by
  refine ⟨fun history => ?sorts, fun before after action => ?fallback, fun history history' => ?ranks⟩
  case sorts =>
    have ranks := ranks_ofHistory history
    exact ⟨ranks.rules_perm, ranks.specificity_eq, ranks.sorted, ranks.ties, ranks.rules_eq_mergeSort⟩
  case fallback =>
    rw [(ranks_ofHistory _).rules_eq_mergeSort, (ranks_ofHistory _).rules_eq_mergeSort,
      rules_append_cons_fallback]
  case ranks =>
    have ranks := ranks_ofHistory history
    have ranks' := ranks_ofHistory history'
    constructor
    · intro same rank
      refine (List.map_inj_right ruleOf_injective).mp ?_
      rw [← ranks.ties, ← ranks'.ties, same]
    · intro same
      refine eq_of_same_ranks ranks.sorted ranks'.sorted fun rank => ?_
      rw [ofRank, ofRank, ranks.ties, ranks'.ties, same]

/-- Rules of two ranks and a fallback between them. -/
example :
    ((ofHistory [.rule (.mem .any) 0, .rule .any 1, .fallback 2, .rule (.mem (.mem .any)) 3,
      .rule .int 4]).value.rules.map Rule.action) = [3, 0, 4, 1] := by
  decide

end RuleTable

end ShapeDispatch
