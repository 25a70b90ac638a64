import ShapeDispatch.Tree

/-! Patterns constrain the kinds of a tree down to some depth and say nothing about its integers.
A pattern is ranked by how much it pins down: the depth of its deepest constraint first, then the
number of constrained places. -/

namespace ShapeDispatch

inductive Pattern where
  | any
  | int
  | mem (exp : Pattern)
  | move (dst src : Pattern)
  /-- A move whose two sides have the same shape. -/
  | moveAlike
  deriving DecidableEq

structure Specificity where
  depth : Nat
  constraints : Nat
  deriving DecidableEq

namespace Specificity

/-- Depth decides, and constraints break its ties. -/
instance : LT Specificity where
  lt a b := a.depth < b.depth ∨ a.depth = b.depth ∧ a.constraints < b.constraints

theorem lt_iff (a b : Specificity) :
    a < b ↔ a.depth < b.depth ∨ a.depth = b.depth ∧ a.constraints < b.constraints := Iff.rfl

instance (a b : Specificity) : Decidable (a < b) :=
  decidable_of_iff _ (lt_iff a b).symm

instance : Ord Specificity where
  compare a b := (compare a.depth b.depth).then (compare a.constraints b.constraints)

theorem not_lt_self (a : Specificity) : ¬a < a := by
  rw [lt_iff]
  omega

theorem lt_trans {a b c : Specificity} (first : a < b) (second : b < c) : a < c := by
  rw [lt_iff] at *
  omega

theorem lt_or_eq_or_gt (a b : Specificity) : a < b ∨ a = b ∨ b < a := by
  obtain ⟨aDepth, aConstraints⟩ := a
  obtain ⟨bDepth, bConstraints⟩ := b
  simp only [lt_iff, mk.injEq]
  omega

end Specificity

namespace Pattern

def depth : Pattern → Nat
  | any => 0
  | int => 1
  | mem exp => 1 + exp.depth
  | move dst src => 1 + max dst.depth src.depth
  | moveAlike => 1

def constraints : Pattern → Nat
  | any => 0
  | int => 1
  | mem exp => 1 + exp.constraints
  | move dst src => 1 + dst.constraints + src.constraints
  | moveAlike => 2

def specificity (pattern : Pattern) : Specificity :=
  ⟨pattern.depth, pattern.constraints⟩

/-- The kind of the trees that fit, unless every tree does. -/
def tag : Pattern → Option Kind
  | any => none
  | int => some .int
  | mem _ => some .mem
  | move _ _ => some .move
  | moveAlike => some .move

def isUniversal (pattern : Pattern) : Bool := pattern = any

def fits : Pattern → Tree → Bool
  | any, _ => true
  | int, .int _ => true
  | mem exp, .mem tree => exp.fits tree
  | move dst src, .move left right => dst.fits left && src.fits right
  | moveAlike, .move left right => left.sameShape right
  | _, _ => false

def render : Pattern → String
  | any => "_"
  | int => "Int"
  | mem exp => "Mem(" ++ exp.render ++ ")"
  | move dst src => "Move(" ++ dst.render ++ "," ++ src.render ++ ")"
  | moveAlike => "Move(T,T)"

theorem tag_of_fits {pattern : Pattern} {tree : Tree} (fit : pattern.fits tree = true) :
    pattern.tag = none ∨ pattern.tag = some tree.kind := by
  cases pattern <;> cases tree <;> simp_all [fits, tag, Tree.kind, Tree.root, Node.kind]

end Pattern

end ShapeDispatch
