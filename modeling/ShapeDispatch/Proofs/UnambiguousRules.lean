import ShapeDispatch.Proofs.DispatchOrder
import ShapeDispatch.Proofs.PatternInclusion

/-! Rules that never compete. Where two of them fit one tree, the trees of one lie strictly among the
trees of the other, so that each tree has one narrowest rule. Ranks follow inclusion, and the order of
registration is therefore without effect: the narrowest rule is the one that runs. -/

namespace ShapeDispatch

variable {α β : Type} {entries entries' : List (Pattern × α)} {tree : Tree}

/-- Of two rules that share a tree, one is strictly inside the other. -/
def Unambiguous (entries : List (Pattern × α)) : Prop :=
  ∀ first ∈ entries, ∀ second ∈ entries, first ≠ second →
    (∃ tree, tree ∈ first.1.trees ∧ tree ∈ second.1.trees) →
    first.1.trees ⊂ second.1.trees ∨ second.1.trees ⊂ first.1.trees

/-- A rule that fits, and whose trees lie among those of every other rule that does. -/
structure Narrowest (entries : List (Pattern × α)) (tree : Tree) (entry : Pattern × α) : Prop where
  member : entry ∈ entries
  fits : entry.1.fits tree = true
  least (other : Pattern × α) : other ∈ entries → other.1.fits tree = true →
    entry.1.trees ⊆ other.1.trees

theorem Unambiguous.perm (unambiguous : Unambiguous entries) (permuted : entries.Perm entries') :
    Unambiguous entries' := by
  intro first memberFirst second memberSecond
  exact unambiguous first (permuted.mem_iff.mpr memberFirst) second (permuted.mem_iff.mpr memberSecond)

namespace Narrowest

theorem perm {entry : Pattern × α} (narrowest : Narrowest entries tree entry)
    (permuted : entries.Perm entries') : Narrowest entries' tree entry where
  member := permuted.mem_iff.mp narrowest.member
  fits := narrowest.fits
  least other member := narrowest.least other (permuted.mem_iff.mpr member)

theorem unique (unambiguous : Unambiguous entries) {first second : Pattern × α}
    (narrowest : Narrowest entries tree first) (narrowest' : Narrowest entries tree second) :
    first = second := by
  by_contra different
  have inside := narrowest.least second narrowest'.member narrowest'.fits
  have outside := narrowest'.least first narrowest.member narrowest.fits
  obtain fewer | fewer := unambiguous first narrowest.member second narrowest'.member different
    ⟨tree, narrowest.fits, narrowest'.fits⟩
  · exact fewer.not_subset outside
  · exact fewer.not_subset inside

end Narrowest

theorem Preferred.narrowest (unambiguous : Unambiguous entries) {place : Nat} {pattern : Pattern}
    {action : α} (preferred : Preferred entries tree place pattern action) :
    Narrowest entries tree (pattern, action) := by
  have member := List.mem_of_getElem? preferred.registered
  refine ⟨member, preferred.fits, ?_⟩
  intro other memberOther fit
  by_cases same : (pattern, action) = other
  · rw [← same]
  · obtain fewer | fewer := unambiguous _ member other memberOther same ⟨tree, preferred.fits, fit⟩
    · exact fewer.subset
    -- A rule inside this one would rank above it, and it is not outranked.
    · have higher := Pattern.specificity_lt_of_narrows (Pattern.trees_subset_iff_narrows.mp fewer.subset)
        (Pattern.ne_of_trees_ssubset fewer)
      obtain ⟨otherPlace, there⟩ := List.getElem?_of_mem memberOther
      obtain lower | ⟨tied, -⟩ := preferred.best otherPlace other there fit
      · exact absurd (Specificity.lt_trans higher lower) (Specificity.not_lt_self _)
      · exact absurd (tied ▸ higher) (Specificity.not_lt_self _)

theorem Registration.rules_map (entries : List (Pattern × α)) :
    rules (entries.map fun entry => rule entry.1 entry.2) = entries := by
  induction entries with
  | nil => rfl
  | cons entry entries ih => exact congrArg (entry :: ·) ih

namespace RuleTable

variable {m : Type → Type} [Monad m] [MonadLog m]

theorem dispatch_of_narrowest (unambiguous : Unambiguous entries) (run : α → Tree → m β)
    {entry : Pattern × α} (narrowest : Narrowest entries tree entry)
    (history : List (Registration α)) (permuted : (Registration.rules history).Perm entries) :
    ∃ index, (ofHistory history).value.dispatch run (.ofTree tree) = (do
      log (.matchedRule tree.kind index entry.1)
      run entry.2 tree) := by
  have ranks := ranks_ofHistory history
  obtain ⟨place, pattern, action, preferred⟩ := ranks.exists_preferred
    ⟨entry, permuted.mem_iff.mpr narrowest.member, narrowest.fits⟩
  obtain rfl := ((preferred.narrowest (unambiguous.perm permuted.symm)).perm permuted).unique
    unambiguous narrowest
  have present : (Subject.ofTree tree).tree? = some tree := rfl
  obtain ⟨index, -, -, -, runs⟩ := ranks.dispatch_of_preferred run present preferred
  exact ⟨index, runs⟩

/-- Unambiguous rules do not depend on the order in which they are registered: a tree that some rule
fits is given to the one narrowest rule that does, and any other tree to the fallback, if there is one.
Only the index that is reported may differ. -/
theorem dispatch_of_unambiguous (unambiguous : Unambiguous entries) (tree : Tree)
    (run : α → Tree → m β) :
    ((∃ entry ∈ entries, entry.1.fits tree = true) →
      ∃ entry, Narrowest entries tree entry ∧
        (∀ other, Narrowest entries tree other → other = entry) ∧
        ∀ history, (Registration.rules history).Perm entries →
          ∃ index, (ofHistory history).value.dispatch run (.ofTree tree) = (do
            log (.matchedRule tree.kind index entry.1)
            run entry.2 tree)) ∧
    ((∀ entry ∈ entries, entry.1.fits tree = false) →
      ∀ history, (Registration.rules history).Perm entries →
        (ofHistory history).value.dispatch run (.ofTree tree) =
          (match Registration.lastFallback history with
          | some action => do
            log (.usedFallback tree.kind)
            run action tree
          | none => do
            log (.matchedNothing tree.kind)
            throw (.noMatch tree.kind))) := by
  constructor
  · intro fit
    have ranks := ranks_ofHistory (entries.map fun entry => .rule entry.1 entry.2)
    rw [Registration.rules_map] at ranks
    obtain ⟨place, pattern, action, preferred⟩ := ranks.exists_preferred fit
    have narrowest := preferred.narrowest unambiguous
    exact ⟨_, narrowest, fun other others => others.unique unambiguous narrowest,
      fun history permuted => dispatch_of_narrowest unambiguous run narrowest history permuted⟩
  · intro unfit history permuted
    rw [← fallback_ofHistory]
    exact ((ranks_ofHistory history).dispatch_of_unfit run rfl
      fun entry member => unfit entry (permuted.mem_iff.mp member)).2

theorem dispatch_of_unambiguous_moves :
    ((ofHistory [.rule (.move .any .any) "different", .rule .moveAlike "same"]).value.dispatch
        (m := Logged) (fun label _ => return label)
        (.ofTree (.move (.int 21) (.int 42)))).run.value = .ok "same" ∧
      ((ofHistory [.rule .moveAlike "same", .rule (.move .any .any) "different"]).value.dispatch
        (m := Logged) (fun label _ => return label)
        (.ofTree (.move (.int 21) (.int 42)))).run.value = .ok "same" := by
  have fewer : Pattern.moveAlike.trees ⊂ (Pattern.move .any .any).trees := by
    refine ⟨Pattern.trees_subset_iff_narrows.mpr .alikeMove, fun back => ?_⟩
    have unlike : Tree.move (.int 0) (.mem (.int 0)) ∈ (Pattern.move .any .any).trees := rfl
    exact Bool.false_ne_true (back unlike)
  have unambiguous : Unambiguous [(Pattern.move .any .any, "different"), (.moveAlike, "same")] := by
    intro first memberFirst second memberSecond different _
    simp only [List.mem_cons, List.not_mem_nil, or_false] at memberFirst memberSecond
    obtain rfl | rfl := memberFirst <;> obtain rfl | rfl := memberSecond
    · exact absurd rfl different
    · exact .inr fewer
    · exact .inl fewer
    · exact absurd rfl different
  have fits : ∃ entry ∈ [(Pattern.move .any .any, "different"), (.moveAlike, "same")],
      entry.1.fits (.move (.int 21) (.int 42)) = true := ⟨_, List.mem_cons_self, rfl⟩
  obtain ⟨entry, -, only, runs⟩ := (dispatch_of_unambiguous (m := Logged) unambiguous _
    (fun label _ => return label)).1 fits
  obtain rfl : (Pattern.moveAlike, "same") = entry := by
    refine only _ ⟨List.mem_cons_of_mem _ List.mem_cons_self, rfl, ?_⟩
    intro other member _
    simp only [List.mem_cons, List.not_mem_nil, or_false] at member
    obtain rfl | rfl := member
    · exact fewer.subset
    · exact Set.Subset.refl _
  constructor
  · obtain ⟨index, runs⟩ := runs [.rule (.move .any .any) "different", .rule .moveAlike "same"]
      (List.Perm.refl _)
    rw [runs]
    rfl
  · obtain ⟨index, runs⟩ := runs [.rule .moveAlike "same", .rule (.move .any .any) "different"]
      (List.Perm.swap _ _ _)
    rw [runs]
    rfl

end RuleTable

end ShapeDispatch
