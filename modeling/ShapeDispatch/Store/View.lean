import ShapeDispatch.Store.Holders

/-! The trees that a store holds. Sharing does not show in a tree: a node with several parents is a
subtree of each of them. -/

namespace ShapeDispatch.Store

/-- The trees below the cells. Children are older than their parents, so that one walk in order of
creation finds every subtree before the trees that contain it. -/
def trees (store : Store) : Array (Option Tree) :=
  store.cells.foldl
    (fun known cell => known.push <| cell.bind fun cell =>
      (cell.node.mapM fun child => known[child]?.join).map Tree.ofRoot)
    #[]

def tree? (store : Store) (id : NodeId) : Option Tree :=
  store.trees[id]?.join

/-- Makes a node of its own for every place of a tree. -/
def plant (store : Store) : Tree → NodeId × Store
  | .int val => store.alloc (.int val)
  | .mem exp =>
    let (child, store) := store.plant exp
    store.alloc (.mem child)
  | .move dst src =>
    let (left, store) := store.plant dst
    let (right, store) := store.plant src
    store.alloc (.move left right)

end ShapeDispatch.Store
