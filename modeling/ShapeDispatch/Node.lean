import ShapeDispatch.Kind

/-! One node, with its children given as some type: subtrees in a tree, cells in a store, names in
a request to build one. Children are listed from left to right, the destination of a move first. -/

namespace ShapeDispatch

inductive Node (α : Type) where
  | int (val : Int64)
  | mem (exp : α)
  | move (dst src : α)
  deriving DecidableEq

namespace Node

variable {α β : Type}

def kind : Node α → Kind
  | int _ => .int
  | mem _ => .mem
  | move _ _ => .move

def children : Node α → List α
  | int _ => []
  | mem exp => [exp]
  | move dst src => [dst, src]

def map (f : α → β) : Node α → Node β
  | int val => .int val
  | mem exp => .mem (f exp)
  | move dst src => .move (f dst) (f src)

def mapM {m : Type → Type} [Monad m] (f : α → m β) : Node α → m (Node β)
  | int val => return .int val
  | mem exp => return .mem (← f exp)
  | move dst src => return .move (← f dst) (← f src)

theorem length_children (node : Node α) : node.children.length = node.kind.arity := by
  cases node <;> rfl

theorem length_children_le_two (node : Node α) : node.children.length ≤ 2 := by
  cases node <;> simp only [children, List.length_cons, List.length_nil] <;> omega

theorem kind_map (f : α → β) (node : Node α) : (node.map f).kind = node.kind := by
  cases node <;> rfl

theorem map_map {γ : Type} (f : α → β) (g : β → γ) (node : Node α) :
    (node.map f).map g = node.map (g ∘ f) := by
  cases node <;> rfl

theorem children_map (f : α → β) (node : Node α) :
    (node.map f).children = node.children.map f := by
  cases node <;> rfl

end Node

end ShapeDispatch
