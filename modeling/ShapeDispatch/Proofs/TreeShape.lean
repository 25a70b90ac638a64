import ShapeDispatch.Pattern.Basic

/-! The shape of a tree written as a pattern. It asks for the kind of every node and for nothing else,
so that two trees have the same shape exactly if these patterns are equal. -/

namespace ShapeDispatch

namespace Pattern

def ofShape : Tree → Pattern
  | .int _ => int
  | .mem exp => mem (ofShape exp)
  | .move dst src => move (ofShape dst) (ofShape src)

theorem fits_ofShape (tree other : Tree) : (ofShape tree).fits other = tree.sameShape other := by
  induction tree generalizing other with
  | int val => cases other <;> rfl
  | mem exp ih =>
    cases other with
    | mem inner => exact ih inner
    | int val => rfl
    | move left right => rfl
  | move dst src ihDst ihSrc =>
    cases other with
    | move left right => simp only [ofShape, fits, Tree.sameShape, ihDst, ihSrc]
    | int val => rfl
    | mem inner => rfl

theorem ofShape_ne_any (tree : Tree) : ofShape tree ≠ any := by
  cases tree <;> exact Pattern.noConfusion

end Pattern

namespace Tree

theorem sameShape_iff (a b : Tree) :
    a.sameShape b = true ↔ Pattern.ofShape a = Pattern.ofShape b := by
  induction a generalizing b with
  | int val => cases b <;> simp [sameShape, Pattern.ofShape]
  | mem exp ih => cases b <;> simp [sameShape, Pattern.ofShape, ih]
  | move dst src ihDst ihSrc => cases b <;> simp [sameShape, Pattern.ofShape, ihDst, ihSrc]

theorem sameShape_refl (tree : Tree) : tree.sameShape tree = true :=
  (sameShape_iff tree tree).mpr rfl

end Tree

end ShapeDispatch
