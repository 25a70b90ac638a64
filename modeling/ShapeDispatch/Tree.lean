import ShapeDispatch.Node

/-! Trees, their text and their shape. The text has no blanks anywhere; the shape forgets the
integer values and keeps every kind in its place. -/

namespace ShapeDispatch

inductive Tree where
  | int (val : Int64)
  | mem (exp : Tree)
  | move (dst src : Tree)
  deriving DecidableEq

namespace Tree

/-- The root of the tree over its immediate subtrees. -/
def root : Tree → Node Tree
  | int val => .int val
  | mem exp => .mem exp
  | move dst src => .move dst src

def ofRoot : Node Tree → Tree
  | .int val => int val
  | .mem exp => mem exp
  | .move dst src => move dst src

def kind (tree : Tree) : Kind := tree.root.kind

def children (tree : Tree) : List Tree := tree.root.children

def render : Tree → String
  | int val => toString val.toInt
  | mem exp => "Mem(" ++ exp.render ++ ")"
  | move dst src => "Move(" ++ dst.render ++ "," ++ src.render ++ ")"

/-- The same kinds in the same places, whatever the integers are. -/
def sameShape : Tree → Tree → Bool
  | int _, int _ => true
  | mem a, mem b => a.sameShape b
  | move a b, move c d => a.sameShape c && b.sameShape d
  | _, _ => false

theorem ofRoot_root (tree : Tree) : ofRoot tree.root = tree := by
  cases tree <;> rfl

theorem root_ofRoot (node : Node Tree) : (ofRoot node).root = node := by
  cases node <;> rfl

end Tree

end ShapeDispatch
