import Mathlib.Data.Set.Lattice
import Mathlib.Order.CompletePartialOrder
import ShapeDispatch.Proofs.TreeShape

/-! The set of trees that fit a pattern, and the rank of the pattern. Inclusion of these sets can be
read off the patterns: apart from going down side by side, it holds only because every tree fits the
universal pattern, because a move between equal shapes is a move, and because two sides that ask for
one and the same whole shape are alike. A pattern with fewer trees is therefore never less deep and
constrains more places, and so it ranks higher. -/

namespace ShapeDispatch.Pattern

def trees (pattern : Pattern) : Set Tree := {tree | pattern.fits tree = true}

theorem mem_trees {pattern : Pattern} {tree : Tree} :
    tree ∈ pattern.trees ↔ pattern.fits tree = true := Iff.rfl

def sample : Pattern → Tree
  | any => .int 0
  | int => .int 0
  | mem exp => .mem exp.sample
  | move dst src => .move dst.sample src.sample
  | moveAlike => .move (.int 0) (.int 0)

theorem sample_mem_trees (pattern : Pattern) : pattern.sample ∈ pattern.trees := by
  rw [mem_trees]
  induction pattern with
  | any => rfl
  | int => rfl
  | mem exp ih => exact ih
  | move dst src ihDst ihSrc => simp only [sample, fits, ihDst, ihSrc, Bool.and_self]
  | moveAlike => rfl

theorem mem_trees_move {dst src : Pattern} {left right : Tree} :
    .move left right ∈ (move dst src).trees ↔ left ∈ dst.trees ∧ right ∈ src.trees := by
  simp only [mem_trees, fits, Bool.and_eq_true]

theorem trees_subset_of_mem {narrow wide : Pattern} (inside : (mem narrow).trees ⊆ (mem wide).trees) :
    narrow.trees ⊆ wide.trees :=
  fun tree fit => @inside (.mem tree) fit

theorem trees_subset_of_move {dst dst' src src' : Pattern}
    (inside : (move dst src).trees ⊆ (move dst' src').trees) :
    dst.trees ⊆ dst'.trees ∧ src.trees ⊆ src'.trees := by
  constructor
  · intro tree fit
    exact (mem_trees_move.mp (inside (mem_trees_move.mpr ⟨fit, sample_mem_trees src⟩))).1
  · intro tree fit
    exact (mem_trees_move.mp (inside (mem_trees_move.mpr ⟨sample_mem_trees dst, fit⟩))).2

theorem eq_any_of_fits_two_kinds {pattern : Pattern} (leaf : .int 0 ∈ pattern.trees)
    (access : .mem (.int 0) ∈ pattern.trees) : pattern = any := by
  cases pattern with
  | any => rfl
  | int => exact absurd access Bool.false_ne_true
  | mem exp => exact absurd leaf Bool.false_ne_true
  | move dst src => exact absurd leaf Bool.false_ne_true
  | moveAlike => exact absurd leaf Bool.false_ne_true

theorem tag_eq_of_trees_subset {narrow wide : Pattern} (inside : narrow.trees ⊆ wide.trees)
    (bound : wide ≠ any) : narrow.tag = wide.tag := by
  have narrowNotAny : narrow ≠ any := by
    intro universal
    subst universal
    exact bound (eq_any_of_fits_two_kinds (inside rfl) (inside rfl))
  have fit := sample_mem_trees narrow
  have narrowTag := tag_of_fits fit
  have wideTag := tag_of_fits (inside fit)
  cases narrow <;> cases wide <;> simp_all [tag]

/-- A pattern that no tree but those of one shape fits is the pattern of this shape. -/
theorem eq_ofShape_of_trees_subset {pattern : Pattern} {tree : Tree}
    (inside : pattern.trees ⊆ (ofShape tree).trees) : pattern = ofShape tree := by
  have sameTag := tag_eq_of_trees_subset inside (ofShape_ne_any tree)
  induction tree generalizing pattern with
  | int val => cases pattern <;> simp_all [tag, ofShape]
  | mem exp ih =>
    cases pattern with
    | mem inner =>
      have insideExp := trees_subset_of_mem inside
      rw [ofShape, ih insideExp (tag_eq_of_trees_subset insideExp (ofShape_ne_any exp))]
    | _ => simp [tag, ofShape] at sameTag
  | move dst src ihDst ihSrc =>
    cases pattern with
    | move left right =>
      obtain ⟨insideDst, insideSrc⟩ := trees_subset_of_move inside
      rw [ofShape, ihDst insideDst (tag_eq_of_trees_subset insideDst (ofShape_ne_any dst)),
        ihSrc insideSrc (tag_eq_of_trees_subset insideSrc (ofShape_ne_any src))]
    | moveAlike =>
      have leaves : Tree.move (.int 0) (.int 0) ∈ moveAlike.trees := rfl
      have accesses : Tree.move (.mem (.int 0)) (.mem (.int 0)) ∈ moveAlike.trees := rfl
      exact absurd (eq_any_of_fits_two_kinds (mem_trees_move.mp (inside leaves)).1
        (mem_trees_move.mp (inside accesses)).1) (ofShape_ne_any dst)
    | _ => simp [tag, ofShape] at sameTag

/-- Inclusion of the sets of trees, read off the patterns. -/
inductive Narrows : Pattern → Pattern → Prop where
  | any (pattern : Pattern) : Narrows pattern any
  | int : Narrows int int
  | mem {narrow wide : Pattern} : Narrows narrow wide → Narrows (mem narrow) (mem wide)
  | move {dst dst' src src' : Pattern} :
    Narrows dst dst' → Narrows src src' → Narrows (move dst src) (move dst' src')
  | alike : Narrows moveAlike moveAlike
  | alikeMove : Narrows moveAlike (move any any)
  | wholeShape (tree : Tree) : Narrows (move (ofShape tree) (ofShape tree)) moveAlike

theorem narrows_of_trees_subset_moveAlike {dst src : Pattern}
    (inside : (move dst src).trees ⊆ moveAlike.trees) : Narrows (move dst src) moveAlike := by
  have alike {left right : Tree} (fitLeft : left ∈ dst.trees) (fitRight : right ∈ src.trees) :
      ofShape left = ofShape right :=
    (Tree.sameShape_iff left right).mp (inside (mem_trees_move.mpr ⟨fitLeft, fitRight⟩))
  -- Since each side has a tree, all trees of the other side have its shape.
  obtain ⟨tree, rfl, rfl⟩ : ∃ tree, dst = ofShape tree ∧ src = ofShape tree := by
    refine ⟨dst.sample, eq_ofShape_of_trees_subset ?_, eq_ofShape_of_trees_subset ?_⟩
    · intro tree fit
      rw [mem_trees, fits_ofShape, Tree.sameShape_iff, alike fit (sample_mem_trees src),
        alike (sample_mem_trees dst) (sample_mem_trees src)]
    · intro tree fit
      rw [mem_trees, fits_ofShape, Tree.sameShape_iff, alike (sample_mem_trees dst) fit]
  exact .wholeShape tree

theorem narrows_of_trees_subset {narrow wide : Pattern} (inside : narrow.trees ⊆ wide.trees) :
    Narrows narrow wide := by
  induction wide generalizing narrow with
  | any => exact .any narrow
  | int =>
    have sameTag := tag_eq_of_trees_subset inside Pattern.noConfusion
    cases narrow with
    | int => exact .int
    | _ => simp [tag] at sameTag
  | mem wide ih =>
    have sameTag := tag_eq_of_trees_subset inside Pattern.noConfusion
    cases narrow with
    | mem narrow => exact .mem (ih (trees_subset_of_mem inside))
    | _ => simp [tag] at sameTag
  | move dst src ihDst ihSrc =>
    have sameTag := tag_eq_of_trees_subset inside Pattern.noConfusion
    cases narrow with
    | move left right =>
      obtain ⟨insideDst, insideSrc⟩ := trees_subset_of_move inside
      exact .move (ihDst insideDst) (ihSrc insideSrc)
    | moveAlike =>
      -- Any tree at all may stand on both sides of a move between equal shapes.
      have twice (tree : Tree) : tree ∈ dst.trees ∧ tree ∈ src.trees :=
        mem_trees_move.mp (@inside (.move tree tree) (Tree.sameShape_refl tree))
      rw [eq_any_of_fits_two_kinds (twice _).1 (twice _).1,
        eq_any_of_fits_two_kinds (twice _).2 (twice _).2]
      exact .alikeMove
    | _ => simp [tag] at sameTag
  | moveAlike =>
    have sameTag := tag_eq_of_trees_subset inside Pattern.noConfusion
    cases narrow with
    | move dst src => exact narrows_of_trees_subset_moveAlike inside
    | moveAlike => exact .alike
    | _ => simp [tag] at sameTag

theorem trees_subset_of_narrows {narrow wide : Pattern} (narrows : Narrows narrow wide) :
    narrow.trees ⊆ wide.trees := by
  induction narrows with
  | any pattern => exact fun tree _ => rfl
  | int => exact fun tree fit => fit
  | mem _ ih =>
    intro tree fit
    cases tree with
    | mem exp => exact @ih exp fit
    | _ => exact absurd fit Bool.false_ne_true
  | move _ _ ihDst ihSrc =>
    intro tree fit
    cases tree with
    | move left right =>
      have sides := mem_trees_move.mp fit
      exact mem_trees_move.mpr ⟨ihDst sides.1, ihSrc sides.2⟩
    | _ => exact absurd fit Bool.false_ne_true
  | alike => exact fun tree fit => fit
  | alikeMove =>
    intro tree fit
    cases tree with
    | move left right => rfl
    | _ => exact absurd fit Bool.false_ne_true
  | wholeShape shape =>
    intro tree fit
    cases tree with
    | move left right =>
      have sides := mem_trees_move.mp fit
      rw [mem_trees, mem_trees, fits_ofShape, fits_ofShape, Tree.sameShape_iff, Tree.sameShape_iff] at sides
      exact (Tree.sameShape_iff left right).mpr (sides.1.symm.trans sides.2)
    | _ => exact absurd fit Bool.false_ne_true

/-- A pattern fits no tree but those of another one exactly if it narrows it. -/
theorem trees_subset_iff_narrows {narrow wide : Pattern} :
    narrow.trees ⊆ wide.trees ↔ Narrows narrow wide :=
  ⟨narrows_of_trees_subset, trees_subset_of_narrows⟩

theorem constraints_pos_of_ne_any {pattern : Pattern} (bound : pattern ≠ any) :
    0 < pattern.constraints := by
  cases pattern with
  | any => exact absurd rfl bound
  | _ => simp only [constraints]; omega

theorem depth_le_of_narrows {narrow wide : Pattern} (narrows : Narrows narrow wide) :
    wide.depth ≤ narrow.depth := by
  induction narrows with
  | any pattern => exact Nat.zero_le _
  | int | alike => exact Nat.le_refl _
  | _ => simp only [depth]; omega

/-- A pattern that narrows another one is the same or constrains more places. Their depths may be equal. -/
theorem eq_or_constraints_lt_of_narrows {narrow wide : Pattern} (narrows : Narrows narrow wide) :
    narrow = wide ∨ wide.constraints < narrow.constraints := by
  induction narrows with
  | any pattern =>
    by_cases universal : pattern = any
    · exact .inl universal
    · exact .inr (constraints_pos_of_ne_any universal)
  | int | alike => exact .inl rfl
  | mem _ ih =>
    obtain rfl | more := ih
    · exact .inl rfl
    · exact .inr (by simp only [constraints]; omega)
  | move _ _ ihDst ihSrc =>
    obtain rfl | moreDst := ihDst
    · obtain rfl | moreSrc := ihSrc
      · exact .inl rfl
      · exact .inr (by simp only [constraints]; omega)
    · obtain rfl | moreSrc := ihSrc <;> exact .inr (by simp only [constraints]; omega)
  | alikeMove => exact .inr (by decide)
  | wholeShape tree =>
    have positive := constraints_pos_of_ne_any (ofShape_ne_any tree)
    exact .inr (by simp only [constraints]; omega)

theorem specificity_lt_of_narrows {narrow wide : Pattern} (narrows : Narrows narrow wide)
    (different : narrow ≠ wide) : wide.specificity < narrow.specificity := by
  have deeper := depth_le_of_narrows narrows
  have more := (eq_or_constraints_lt_of_narrows narrows).resolve_left different
  rw [Specificity.lt_iff]
  simp only [specificity]
  omega

theorem ne_of_trees_ssubset {narrow wide : Pattern} (fewer : narrow.trees ⊂ wide.trees) :
    narrow ≠ wide := by
  intro same
  subst same
  exact fewer.not_subset (Set.Subset.refl _)

/-- A pattern that fits fewer trees ranks higher. -/
theorem specificity_lt_of_trees_ssubset {narrow wide : Pattern} (fewer : narrow.trees ⊂ wide.trees) :
    wide.specificity < narrow.specificity :=
  specificity_lt_of_narrows (trees_subset_iff_narrows.mp fewer.subset) (ne_of_trees_ssubset fewer)

theorem moveAlike_lt_move_mem_int :
    (move (mem int) (mem int)).trees ⊂ moveAlike.trees ∧
      moveAlike.specificity < (move (mem int) (mem int)).specificity := by
  have inside : (move (mem int) (mem int)).trees ⊆ moveAlike.trees :=
    trees_subset_iff_narrows.mpr (.wholeShape (.mem (.int 0)))
  have leaves : Tree.move (.int 0) (.int 0) ∈ moveAlike.trees := rfl
  have fewer : (move (mem int) (mem int)).trees ⊂ moveAlike.trees :=
    ⟨inside, fun back => absurd (back leaves) Bool.false_ne_true⟩
  exact ⟨fewer, specificity_lt_of_trees_ssubset fewer⟩

end ShapeDispatch.Pattern
