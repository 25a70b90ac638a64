import Mathlib.Data.List.Induction
import ShapeDispatch.Handle.Basic
import ShapeDispatch.Proofs.HolderCounts

/-! The tree below every live node. Where children are older than their parents, the walk in order of
creation gives each node the tree over the trees of its children, and no live node is left without. -/

namespace ShapeDispatch

theorem Node.mapM_congr {α β : Type} {m : Type → Type} [Monad m] {node : Node α} {f g : α → m β}
    (same : ∀ child ∈ node.children, f child = g child) : node.mapM f = node.mapM g := by
  cases node with
  | int val => rfl
  | mem exp => simp only [mapM, same exp (by simp [children])]
  | move dst src =>
    simp only [mapM, same dst (by simp [children]), same src (by simp [children])]

theorem Node.mapM_eq_some_iff {α β : Type} {f : α → Option β} {node : Node α} {made : Node β} :
    node.mapM f = some made ↔ node.map f = made.map some := by
  cases node <;> cases made <;> simp [mapM, map, Option.bind_eq_some_iff]

namespace Store

variable {store : Store} {id : NodeId} {node : Node NodeId}

/-- The tree of a cell over the trees that are known of older cells. -/
def treeOver (known : Array (Option Tree)) (cell : Option Cell) : Option Tree :=
  cell.bind fun cell => (cell.node.mapM fun child => known[child]?.join).map Tree.ofRoot

def walk (cells : List (Option Cell)) : Array (Option Tree) :=
  cells.foldl (fun known cell => known.push (treeOver known cell)) #[]

theorem trees_eq_walk (store : Store) : store.trees = walk store.cells.toList := by
  rw [walk, Array.foldl_toList]
  rfl

theorem walk_append_singleton (cells : List (Option Cell)) (cell : Option Cell) :
    walk (cells ++ [cell]) = (walk cells).push (treeOver (walk cells) cell) := by
  simp only [walk, List.foldl_append, List.foldl_cons, List.foldl_nil]

theorem size_walk (cells : List (Option Cell)) : (walk cells).size = cells.length := by
  induction cells using List.reverseRecOn with
  | nil => rfl
  | append_singleton cells cell ih =>
    rw [walk_append_singleton, Array.size_push, ih, List.length_append, List.length_singleton]

theorem walk_append_getElem? (cells more : List (Option Cell)) {id : NodeId}
    (bound : id < cells.length) : (walk (cells ++ more))[id]? = (walk cells)[id]? := by
  induction more using List.reverseRecOn with
  | nil => rw [List.append_nil]
  | append_singleton more cell ih =>
    have old : id < (walk (cells ++ more)).size := by
      rw [size_walk, List.length_append]
      exact Nat.lt_add_right _ bound
    rw [← List.append_assoc, walk_append_singleton, Array.getElem?_push_lt old, ← ih,
      Array.getElem?_eq_getElem old]

theorem walk_getElem?_length (before after : List (Option Cell)) (cell : Option Cell) :
    (walk (before ++ cell :: after))[before.length]? = some (treeOver (walk before) cell) := by
  have bound : before.length < (before ++ [cell]).length := by
    rw [List.length_append, List.length_singleton]
    exact Nat.lt_succ_self _
  rw [List.append_cons, walk_append_getElem? _ _ bound, walk_append_singleton, ← size_walk]
  exact Array.getElem?_push_size

theorem exists_split {α : Type} {entries : List α} {index : Nat} {entry : α}
    (here : entries[index]? = some entry) :
    ∃ before after, entries = before ++ entry :: after ∧ before.length = index := by
  obtain ⟨bound, rfl⟩ := List.getElem?_eq_some_iff.mp here
  refine ⟨entries.take index, entries.drop (index + 1), ?_, List.length_take_of_le (Nat.le_of_lt bound)⟩
  rw [List.getElem_cons_drop, List.take_append_drop]

theorem kind?_of_tree? {tree : Tree} (known : store.tree? id = some tree) :
    store.kind? id = some tree.kind := by
  rw [tree?, trees_eq_walk, Option.join_eq_some_iff] at known
  have bound : id < store.cells.toList.length := by
    rw [← size_walk]
    exact (Array.getElem?_eq_some_iff.mp known).1
  obtain ⟨before, after, split, rfl⟩ := exists_split (List.getElem?_eq_getElem bound)
  rw [split, walk_getElem?_length, Option.some.injEq, treeOver, Option.bind_eq_some_iff] at known
  obtain ⟨cell, here, made⟩ := known
  obtain ⟨root, children, rfl⟩ := Option.map_eq_some_iff.mp made
  have stored : store.cell? before.length = some cell := by
    rw [cell?, ← Array.getElem?_toList, List.getElem?_eq_getElem bound, here, Option.join_some]
  have kinds : cell.node.kind = root.kind := by
    rw [← Node.kind_map (fun child => _) cell.node, Node.mapM_eq_some_iff.mp children, Node.kind_map]
  rw [kind?, node?, stored, Option.map_some, Option.map_some, kinds, Tree.kind, Tree.root_ofRoot]

namespace Counted

variable {held : List (Option NodeId)} {spare : Option NodeId}

/-- A live node has the tree over the trees of its children. -/
theorem tree?_eq (counted : Counted store held spare) (found : store.node? id = some node) :
    store.tree? id = (node.mapM store.tree?).map Tree.ofRoot := by
  have older := counted.older id node found
  obtain ⟨cell, stored, rfl⟩ := node?_eq_some_iff.mp found
  obtain ⟨bound, here⟩ := getElem_of_cell? stored
  have there : store.cells.toList[id]? = some (some cell) := by
    rw [Array.getElem?_toList, Array.getElem?_eq_getElem bound, here]
  -- The children are older, so the walk knew their trees when it came to this cell.
  obtain ⟨before, after, split, length⟩ := exists_split there
  have known : ∀ child ∈ cell.node.children, (walk before)[child]?.join = store.tree? child := by
    intro child member
    rw [tree?, trees_eq_walk, split, walk_append_getElem? before _ (length ▸ older child member)]
  rw [tree?, trees_eq_walk, split, ← length, walk_getElem?_length, Option.join_some, treeOver,
    Option.bind_some, Node.mapM_congr known]

theorem exists_tree (counted : Counted store held spare) {id : NodeId} {node : Node NodeId}
    (found : store.node? id = some node) :
    ∃ tree, store.tree? id = some tree ∧ tree.kind = node.kind := by
  have below : ∀ child ∈ node.children, ∃ tree, store.tree? child = some tree := by
    intro child member
    have younger := counted.older id node found child member
    obtain ⟨next, foundChild⟩ := Option.isSome_iff_exists.mp (counted.isLive_child found member)
    obtain ⟨tree, known, -⟩ := counted.exists_tree foundChild
    exact ⟨tree, known⟩
  rw [counted.tree?_eq found]
  cases node with
  | int val => exact ⟨.int val, rfl, rfl⟩
  | mem exp =>
    obtain ⟨tree, known⟩ := below exp List.mem_cons_self
    refine ⟨.mem tree, ?_, rfl⟩
    simp only [Node.mapM, known]
    rfl
  | move dst src =>
    obtain ⟨left, knownLeft⟩ := below dst List.mem_cons_self
    obtain ⟨right, knownRight⟩ := below src (List.mem_cons_of_mem dst List.mem_cons_self)
    refine ⟨.move left right, ?_, rfl⟩
    simp only [Node.mapM, knownLeft, knownRight]
    rfl
termination_by id

end Counted

end Store

theorem Handle.kind?_of_tree? {store : Store} {handle : Handle} {tree : Tree}
    (shows : handle.tree? store = some tree) : handle.kind? store = some tree.kind := by
  obtain ⟨id, target, known⟩ := Option.bind_eq_some_iff.mp shows
  rw [kind?, node?, target, Option.bind_some]
  exact Store.kind?_of_tree? known

end ShapeDispatch
