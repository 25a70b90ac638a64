import ShapeDispatch.Store.Basic

/-! Making, sharing and letting go of nodes. A new node holds its children. When the last holder of
a node lets go, the node is freed and lets go of its children in turn. -/

namespace ShapeDispatch.Store

def retain (store : Store) (id : NodeId) : Store :=
  match store.cell? id with
  | none => store
  | some cell => store.setCell id (some { cell with holders := cell.holders + 1 })

/-- Makes a node that nothing holds yet; it holds its children. -/
def alloc (store : Store) (node : Node NodeId) : NodeId × Store :=
  let held := node.children.foldl retain store
  (held.cells.size, ⟨held.cells.push (some ⟨node, 0⟩)⟩)

/-- Takes one holder from every listed node in turn. A node that loses its last holder is freed, and
its children are next to lose one. -/
def releaseAll (store : Store) (ids : List NodeId) : Store :=
  match ids with
  | [] => store
  | id :: pending =>
    match _found : store.cell? id with
    | none => store.releaseAll pending
    | some cell =>
      if cell.holders ≤ 1 then
        (store.setCell id none).releaseAll (cell.node.children ++ pending)
      else
        (store.setCell id (some { cell with holders := cell.holders - 1 })).releaseAll pending
termination_by 2 * store.live + ids.length
decreasing_by
  · simp only [List.length_cons]
    omega
  · have fewer := live_setCell_none_lt _found
    have few := cell.node.length_children_le_two
    simp only [List.length_cons, List.length_append]
    omega
  · rw [live_setCell_some _ _found, List.length_cons]
    omega

def release (store : Store) (id : NodeId) : Store :=
  store.releaseAll [id]

theorem cell?_retain_self {store : Store} {id : NodeId} {cell : Cell}
    (found : store.cell? id = some cell) :
    (store.retain id).cell? id = some { cell with holders := cell.holders + 1 } := by
  simp only [retain, found]
  exact store.cell?_setCell_self id _ (lt_size_of_cell? found)

theorem cell?_retain_of_ne (store : Store) {id other : NodeId} (different : other ≠ id) :
    (store.retain id).cell? other = store.cell? other := by
  unfold retain
  split
  next => rfl
  next cell _ => exact store.cell?_setCell_of_ne _ different

theorem node?_retain (store : Store) (id other : NodeId) :
    (store.retain id).node? other = store.node? other := by
  by_cases same : other = id
  · subst same
    cases found : store.cell? other with
    | none => simp only [retain, found]
    | some cell => simp only [node?, cell?_retain_self found, found, Option.map_some]
  · simp only [node?, store.cell?_retain_of_ne same]

theorem size_retain (store : Store) (id : NodeId) :
    (store.retain id).cells.size = store.cells.size := by
  unfold retain
  split
  next => rfl
  next => simp only [setCell, Array.size_setIfInBounds]

end ShapeDispatch.Store
