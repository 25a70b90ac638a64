import ShapeDispatch.Proofs.BuiltTrees
import ShapeDispatch.Proofs.IndistinguishableTrees
import ShapeDispatch.Proofs.PatternInclusion
import ShapeDispatch.Proofs.RenderedPatterns
import ShapeDispatch.Proofs.WholeTrees

/-! Patterns that are written differently fit different trees. Two patterns that fit the same trees narrow each
other, and a pattern that is narrower without being the same constrains more places. What sets two patterns
apart sets them apart wherever they stand in a pattern, and some run makes a node on which they differ. -/

namespace ShapeDispatch

namespace Pattern

variable {p q : Pattern}

theorem Narrows.antisymm (first : Narrows p q) (second : Narrows q p) : p = q := by
  obtain same | more := eq_or_constraints_lt_of_narrows first
  · exact same
  · obtain same | fewer := eq_or_constraints_lt_of_narrows second
    · exact same.symm
    · exact absurd more (Nat.lt_asymm fewer)

theorem trees_injective : Function.Injective trees := by
  intro p q same
  have below : Narrows p q := trees_subset_iff_narrows.mp same.subset
  exact below.antisymm (trees_subset_iff_narrows.mp same.superset)

theorem eq_iff_fits_eq (p q : Pattern) : p = q ↔ ∀ tree, p.fits tree = q.fits tree := by
  refine ⟨fun same tree => same ▸ rfl, fun alike => trees_injective (Set.ext fun tree => ?_)⟩
  rw [mem_trees, mem_trees, alike]

theorem exists_fits_ne (different : p ≠ q) : ∃ tree, p.fits tree ≠ q.fits tree :=
  not_forall.mp (mt (eq_iff_fits_eq p q).mpr different)

theorem render_injective : Function.Injective render := by
  intro p q same
  have reads := parse_render p
  rw [same, parse_render q] at reads
  exact (Except.ok.inj reads).symm

/-- A pattern with one place left open. -/
inductive Context where
  | hole
  | mem (exp : Context)
  | moveDst (dst : Context) (src : Pattern)
  | moveSrc (dst : Pattern) (src : Context)

namespace Context

def fill (pattern : Pattern) : Context → Pattern
  | hole => pattern
  | mem exp => .mem (exp.fill pattern)
  | moveDst dst src => .move (dst.fill pattern) src
  | moveSrc dst src => .move dst (src.fill pattern)

theorem fill_injective (context : Context) : Function.Injective (context.fill ·) := by
  intro p q same
  induction context with
  | hole => exact same
  | mem exp ih => exact ih (Pattern.mem.inj same)
  | moveDst dst src ih => exact ih (Pattern.move.inj same).1
  | moveSrc dst src ih => exact ih (Pattern.move.inj same).2

end Context

end Pattern

namespace Workspace

theorem exists_run_unfolds (tree : Tree) : ∃ commands id,
    let store := (empty.run commands).2.store
    store.IsLive id ∧ store.Unfolds id tree := by
  obtain ⟨commands, id, live, known⟩ := exists_run_tree tree
  exact ⟨commands, id, live, (Accounted.run commands).counted.unfolds live known⟩

theorem exists_run_subject (tree : Tree) : ∃ commands handle seen,
    let store := (empty.run commands).2.store
    Logged.outcome (Handle.project store handle) = .ok seen ∧ seen.subject store = .ofTree tree := by
  obtain ⟨commands, id, live, known⟩ := exists_run_tree tree
  obtain ⟨seen, other, shown⟩ := (Accounted.run commands).counted.exists_seenAs live
  obtain rfl : tree = other := Option.some.inj (known.symm.trans shown.tree?)
  exact ⟨commands, .toNode id, seen, shown.project .node, shown.subject⟩

end Workspace

open Pattern

/-- Two patterns are equal exactly if the same trees fit them, and exactly if they are rendered alike. Where they
differ, some run makes a node on which they differ, for those who walk through the nodes and for those who see
them through projections. So a move between equal shapes is not asked for by any other pattern of a move,
whatever stands around the two, and no pattern is without a node that fits it. -/
theorem patterns_extensional :
    (∀ p q : Pattern, p = q ↔ ∀ tree, p.fits tree = q.fits tree) ∧
      (∀ p q : Pattern, p.render = q.render ↔ ∀ tree, p.fits tree = q.fits tree) ∧
      (∀ p q : Pattern, p ≠ q ↔ ∃ commands id,
        let store := (Workspace.empty.run commands).2.store
        store.IsLive id ∧ Descent.fits store p id ≠ Descent.fits store q id) ∧
      (∀ p q : Pattern, p ≠ q ↔ ∃ commands handle seen,
        let store := (Workspace.empty.run commands).2.store
        Logged.outcome (Handle.project store handle) = .ok seen ∧
          p.fitsSubject (seen.subject store) ≠ q.fitsSubject (seen.subject store)) ∧
      (∀ (context : Context) (dst src : Pattern), ∃ tree,
        (context.fill moveAlike).fits tree ≠ (context.fill (.move dst src)).fits tree) ∧
      ∀ p : Pattern, ∃ commands id,
        let store := (Workspace.empty.run commands).2.store
        store.IsLive id ∧ Descent.fits store p id = pure true := by
  refine ⟨eq_iff_fits_eq, ?rendered, ?nodes, ?projections, ?contexts, ?inhabited⟩
  case rendered => exact fun p q => render_injective.eq_iff.trans (eq_iff_fits_eq p q)
  case nodes =>
    intro p q
    constructor
    · intro different
      obtain ⟨tree, separates⟩ := exists_fits_ne different
      obtain ⟨commands, id, live, unfolds⟩ := Workspace.exists_run_unfolds tree
      refine ⟨commands, id, live, fun same => separates ?_⟩
      rw [unfolds.fits p, unfolds.fits q] at same
      exact Except.ok.inj same
    · rintro ⟨commands, id, -, separates⟩ rfl
      exact separates rfl
  case projections =>
    intro p q
    constructor
    · intro different
      obtain ⟨tree, separates⟩ := exists_fits_ne different
      obtain ⟨commands, handle, seen, projects, subject⟩ := Workspace.exists_run_subject tree
      refine ⟨commands, handle, seen, projects, ?_⟩
      rw [subject]
      exact separates
    · rintro ⟨commands, handle, seen, -, separates⟩ rfl
      exact separates rfl
  -- A context cannot make patterns alike, and the two it is filled with are different patterns.
  case contexts =>
    intro context dst src
    exact exists_fits_ne fun same => Pattern.noConfusion (context.fill_injective same)
  case inhabited =>
    intro p
    obtain ⟨commands, id, live, unfolds⟩ := Workspace.exists_run_unfolds p.sample
    exact ⟨commands, id, live, (unfolds.fits p).trans (congrArg pure (sample_mem_trees p))⟩

end ShapeDispatch
