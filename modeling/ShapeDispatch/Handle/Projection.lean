import ShapeDispatch.Handle.Basic

/-! Projections and their children. The tag of a projection tells which kind of node to expect, so a
client can go down a tree without casting. -/

namespace ShapeDispatch

namespace Projection

def typed (projection : Projection) : Handle := ⟨.exactly projection.tag, projection.target⟩

def upcast (projection : Projection) : Handle := ⟨.node, projection.target⟩

variable (store : Store) (projection : Projection)

def kind? : Option Kind := projection.typed.kind? store

def tree? : Option Tree := projection.typed.tree? store

def render : Except Fault String := projection.typed.render store

/-- The children, each seen through its own kind. An integer has none, even where it is absent. -/
def children : ExceptT RefError Logged (List Projection) := do
  match projection.tag with
  | .int => return []
  | _ =>
    let node ← MonadExcept.ofExcept (projection.typed.get store)
    node.children.mapM fun child => (Handle.toNode child).project store

end Projection

end ShapeDispatch
