import ShapeDispatch.Tree

/-! Shared nodes. Every node lives in a cell of its own, which is named by its place in the order of
creation; no other node gets the name when the cell is freed. The cell also counts what holds the
node: handles kept outside and edges from parents in the store. -/

namespace ShapeDispatch

abbrev NodeId := Nat

structure Cell where
  node : Node NodeId
  holders : Nat
  deriving DecidableEq

/-- The cells in order of creation; `none` stands where a cell was freed. -/
structure Store where
  cells : Array (Option Cell)
  deriving DecidableEq

namespace Store

def empty : Store := ⟨#[]⟩

def cell? (store : Store) (id : NodeId) : Option Cell :=
  store.cells[id]?.join

def node? (store : Store) (id : NodeId) : Option (Node NodeId) :=
  (store.cell? id).map Cell.node

def kind? (store : Store) (id : NodeId) : Option Kind :=
  (store.node? id).map Node.kind

/-- The holders of a live node; nothing holds a freed one. -/
def holders (store : Store) (id : NodeId) : Nat :=
  ((store.cell? id).map Cell.holders).getD 0

def live (store : Store) : Nat :=
  store.cells.countP Option.isSome

def setCell (store : Store) (id : NodeId) (cell : Option Cell) : Store :=
  ⟨store.cells.setIfInBounds id cell⟩

theorem lt_size_of_cell? {store : Store} {id : NodeId} {cell : Cell}
    (found : store.cell? id = some cell) : id < store.cells.size := by
  by_cases bound : id < store.cells.size
  · exact bound
  · simp [cell?, Array.getElem?_eq_none (Nat.le_of_not_lt bound)] at found

theorem getElem_of_cell? {store : Store} {id : NodeId} {cell : Cell}
    (found : store.cell? id = some cell) :
    ∃ bound : id < store.cells.size, store.cells[id] = some cell := by
  have bound := lt_size_of_cell? found
  exact ⟨bound, by simpa only [cell?, Array.getElem?_eq_getElem bound, Option.join_some] using found⟩

theorem cell?_setCell_self (store : Store) (id : NodeId) (cell : Option Cell)
    (bound : id < store.cells.size) : (store.setCell id cell).cell? id = cell := by
  simp [cell?, setCell, bound]

theorem cell?_setCell_of_ne (store : Store) {id other : NodeId} (cell : Option Cell)
    (different : other ≠ id) : (store.setCell id cell).cell? other = store.cell? other := by
  simp [cell?, setCell, Array.getElem?_setIfInBounds_ne (Ne.symm different)]

theorem live_setCell_none_lt {store : Store} {id : NodeId} {cell : Cell}
    (found : store.cell? id = some cell) : (store.setCell id none).live < store.live := by
  obtain ⟨bound, present⟩ := getElem_of_cell? found
  have positive : 0 < store.live := Array.countP_pos_iff.mpr
    ⟨some cell, present ▸ Array.getElem_mem bound, rfl⟩
  simp only [live, setCell, Array.setIfInBounds, bound, ↓reduceDIte, Array.countP_set, present,
    Option.isSome_some, Option.isSome_none, ↓reduceIte, Bool.false_eq_true, Nat.add_zero] at positive ⊢
  omega

theorem live_setCell_some {store : Store} {id : NodeId} {cell : Cell} (next : Cell)
    (found : store.cell? id = some cell) : (store.setCell id (some next)).live = store.live := by
  obtain ⟨bound, present⟩ := getElem_of_cell? found
  have positive : 0 < store.live := Array.countP_pos_iff.mpr
    ⟨some cell, present ▸ Array.getElem_mem bound, rfl⟩
  simp only [live, setCell, Array.setIfInBounds, bound, ↓reduceDIte, Array.countP_set, present,
    Option.isSome_some, ↓reduceIte] at positive ⊢
  omega

end Store

end ShapeDispatch
