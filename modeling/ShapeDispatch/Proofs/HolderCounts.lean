import Mathlib.Data.List.Count
import ShapeDispatch.Store.Holders

/-! What the holders of a node are. A store is counted against a list of handles when every holder of
every node is one of these handles or a child edge of a live node, and children are older than their
parents. Making a node, holding it and letting go of it keep the count exact, however far a release
goes on. -/

namespace ShapeDispatch

namespace Store

variable {store : Store} {id other child : NodeId} {cell : Cell} {node : Node NodeId}

/-- The children that a cell holds, a child that stands twice in its node twice. -/
def cellEdges (cell : Option Cell) : List NodeId :=
  cell.elim [] fun cell => cell.node.children

def edges (store : Store) : List NodeId :=
  store.cells.toList.flatMap cellEdges

def IsLive (store : Store) (id : NodeId) : Prop :=
  (store.node? id).isSome = true

instance : Decidable (store.IsLive id) :=
  inferInstanceAs (Decidable (_ = true))

theorem node?_eq_some_iff :
    store.node? id = some node ↔ ∃ cell, store.cell? id = some cell ∧ cell.node = node := by
  simp only [node?, Option.map_eq_some_iff]

theorem isLive_iff : store.IsLive id ↔ ∃ cell, store.cell? id = some cell := by
  rw [IsLive, node?, Option.isSome_map, Option.isSome_iff_exists]

theorem not_isLive_iff : ¬ store.IsLive id ↔ store.cell? id = none := by
  rw [IsLive, node?, Option.isSome_map, Option.not_isSome_iff_eq_none]

theorem lt_size_of_isLive (live : store.IsLive id) : id < store.cells.size := by
  obtain ⟨cell, found⟩ := isLive_iff.mp live
  exact lt_size_of_cell? found

theorem holders_of_cell? (found : store.cell? id = some cell) : store.holders id = cell.holders := by
  simp only [holders, found, Option.map_some, Option.getD_some]

theorem holders_of_cell?_eq_none (freed : store.cell? id = none) : store.holders id = 0 := by
  simp only [holders, freed, Option.map_none, Option.getD_none]

theorem isLive_of_holders_pos (positive : 0 < store.holders id) : store.IsLive id := by
  by_cases live : store.IsLive id
  · exact live
  · rw [holders_of_cell?_eq_none (not_isLive_iff.mp live)] at positive
    exact absurd positive (Nat.lt_irrefl 0)

theorem mem_edges_iff :
    child ∈ store.edges ↔ ∃ id node, store.node? id = some node ∧ child ∈ node.children := by
  simp only [edges, List.mem_flatMap, Array.mem_toList_iff, node?_eq_some_iff]
  constructor
  · rintro ⟨none | cell, member, below⟩
    · exact absurd below List.not_mem_nil
    · obtain ⟨id, bound, here⟩ := Array.getElem_of_mem member
      refine ⟨id, cell.node, ⟨cell, ?_, rfl⟩, below⟩
      simp only [cell?, Array.getElem?_eq_getElem bound, here, Option.join_some]
  · rintro ⟨id, node, ⟨cell, found, rfl⟩, below⟩
    obtain ⟨bound, here⟩ := getElem_of_cell? found
    exact ⟨some cell, here ▸ Array.getElem_mem bound, below⟩

/-! How exchanging one cell changes the counts. -/

theorem count_flatMap_set {α β : Type} [DecidableEq β] (f : α → List β) (value : β) (next : α)
    {entries : List α} {index : Nat} {old : α} (here : entries[index]? = some old) :
    ((entries.set index next).flatMap f).count value + (f old).count value =
      (entries.flatMap f).count value + (f next).count value := by
  induction entries generalizing index with
  | nil => cases here
  | cons entry entries ih =>
    cases index with
    | zero =>
      cases here
      simp only [List.set_cons_zero, List.flatMap_cons, List.count_append]
      omega
    | succ index =>
      have rest := ih here
      simp only [List.set_cons_succ, List.flatMap_cons, List.count_append]
      omega

@[simp]
theorem count_map_some (ids : List NodeId) (id : NodeId) :
    (ids.map some).count (some id) = ids.count id :=
  List.count_map_of_injective ids some (fun _ _ => Option.some.inj) id

theorem count_edges_setCell (found : store.cell? id = some cell) (next : Option Cell)
    (child : NodeId) :
    (store.setCell id next).edges.count child + cell.node.children.count child =
      store.edges.count child + (cellEdges next).count child := by
  obtain ⟨bound, here⟩ := getElem_of_cell? found
  have there : store.cells.toList[id]? = some (some cell) := by
    rw [Array.getElem?_toList, Array.getElem?_eq_getElem bound, here]
  rw [edges, edges, setCell, Array.toList_setIfInBounds]
  exact count_flatMap_set cellEdges child next there

theorem holders_setCell_of_ne (next : Option Cell) (different : other ≠ id) :
    (store.setCell id next).holders other = store.holders other := by
  simp only [holders, store.cell?_setCell_of_ne next different]

theorem node?_setCell_of_ne (next : Option Cell) (different : other ≠ id) :
    (store.setCell id next).node? other = store.node? other := by
  simp only [node?, store.cell?_setCell_of_ne next different]

theorem node?_recount (found : store.cell? id = some cell) (count : Nat) (other : NodeId) :
    (store.setCell id (some { cell with holders := count })).node? other = store.node? other := by
  by_cases same : other = id
  · subst same
    simp only [node?, store.cell?_setCell_self _ _ (lt_size_of_cell? found), found, Option.map_some]
  · exact node?_setCell_of_ne _ same

theorem count_edges_recount (found : store.cell? id = some cell) (count : Nat) (child : NodeId) :
    (store.setCell id (some { cell with holders := count })).edges.count child =
      store.edges.count child := by
  have exchanged := count_edges_setCell found (some { cell with holders := count }) child
  simp only [cellEdges, Option.elim_some] at exchanged
  omega

theorem holders_recount_self (found : store.cell? id = some cell) (count : Nat) :
    (store.setCell id (some { cell with holders := count })).holders id = count :=
  holders_of_cell? (store.cell?_setCell_self id _ (lt_size_of_cell? found))

theorem holders_retain (live : store.IsLive id) (other : NodeId) :
    (store.retain id).holders other = store.holders other + [id].count other := by
  obtain ⟨cell, found⟩ := isLive_iff.mp live
  by_cases same : other = id
  · subst same
    rw [holders_of_cell? (cell?_retain_self found), holders_of_cell? found, List.count_singleton_self]
  · have absent : [id].count other = 0 := List.count_eq_zero.mpr (mt List.mem_singleton.mp same)
    rw [absent, holders, holders, store.cell?_retain_of_ne same, Nat.add_zero]

@[simp]
theorem count_edges_retain (store : Store) (id child : NodeId) :
    (store.retain id).edges.count child = store.edges.count child := by
  unfold retain
  split
  next => rfl
  next cell found => exact count_edges_recount found _ child

/-! A new node, and the children that it holds. -/

@[simp]
theorem size_foldl_retain (store : Store) (ids : List NodeId) :
    (ids.foldl retain store).cells.size = store.cells.size := by
  induction ids generalizing store with
  | nil => rfl
  | cons id ids ih => exact (ih (store.retain id)).trans (store.size_retain id)

@[simp]
theorem node?_foldl_retain (store : Store) (ids : List NodeId) (other : NodeId) :
    (ids.foldl retain store).node? other = store.node? other := by
  induction ids generalizing store with
  | nil => rfl
  | cons id ids ih => exact (ih (store.retain id)).trans (store.node?_retain id other)

@[simp]
theorem count_edges_foldl_retain (store : Store) (ids : List NodeId) (child : NodeId) :
    (ids.foldl retain store).edges.count child = store.edges.count child := by
  induction ids generalizing store with
  | nil => rfl
  | cons id ids ih => exact (ih (store.retain id)).trans (store.count_edges_retain id child)

theorem holders_foldl_retain {ids : List NodeId} (live : ∀ id ∈ ids, store.IsLive id)
    (other : NodeId) :
    (ids.foldl retain store).holders other = store.holders other + ids.count other := by
  induction ids generalizing store with
  | nil => rfl
  | cons id ids ih =>
    have later : ∀ next ∈ ids, (store.retain id).IsLive next := by
      intro next member
      rw [IsLive, store.node?_retain]
      exact live next (List.mem_cons_of_mem id member)
    rw [List.foldl_cons, ih later, holders_retain (live id List.mem_cons_self), Nat.add_assoc,
      ← List.count_append, List.singleton_append]

theorem alloc_fst (store : Store) (node : Node NodeId) :
    (store.alloc node).1 = store.cells.size :=
  store.size_foldl_retain node.children

@[simp]
theorem cell?_alloc_self (store : Store) (node : Node NodeId) :
    (store.alloc node).2.cell? (store.alloc node).1 = some ⟨node, 0⟩ := by
  simp only [alloc, cell?, Array.getElem?_push_size, Option.join_some]

theorem cell?_alloc_of_ne (store : Store) (node : Node NodeId)
    (different : other ≠ (store.alloc node).1) :
    (store.alloc node).2.cell? other = (node.children.foldl retain store).cell? other := by
  rw [alloc] at different
  simp only [alloc, cell?, Array.getElem?_push, if_neg different]

@[simp]
theorem node?_alloc_self (store : Store) (node : Node NodeId) :
    (store.alloc node).2.node? (store.alloc node).1 = some node := by
  rw [node?, cell?_alloc_self, Option.map_some]

theorem isLive_alloc_self (store : Store) (node : Node NodeId) :
    (store.alloc node).2.IsLive (store.alloc node).1 := by
  rw [IsLive, node?_alloc_self, Option.isSome_some]

theorem node?_alloc_of_ne (store : Store) (node : Node NodeId)
    (different : other ≠ (store.alloc node).1) :
    (store.alloc node).2.node? other = store.node? other := by
  rw [node?, cell?_alloc_of_ne store node different]
  exact store.node?_foldl_retain node.children other

theorem isLive_alloc (live : store.IsLive id) (node : Node NodeId) :
    (store.alloc node).2.IsLive id := by
  have old : id ≠ (store.alloc node).1 := by
    rw [alloc_fst]
    exact Nat.ne_of_lt (lt_size_of_isLive live)
  rwa [IsLive, node?_alloc_of_ne store node old]

theorem holders_alloc (live : ∀ child ∈ node.children, store.IsLive child) (other : NodeId) :
    (store.alloc node).2.holders other = store.holders other + node.children.count other := by
  by_cases same : other = (store.alloc node).1
  · have fresh : store.cell? other = none := by
      rw [same, alloc_fst, cell?, Array.getElem?_size, Option.join_none]
    have absent : node.children.count other = 0 := by
      refine List.count_eq_zero.mpr fun member => ?_
      exact not_isLive_iff.mpr fresh (live other member)
    rw [absent, holders_of_cell?_eq_none fresh, same]
    exact holders_of_cell? (store.cell?_alloc_self node)
  · rw [holders, cell?_alloc_of_ne store node same]
    exact holders_foldl_retain live other

theorem count_edges_alloc (store : Store) (node : Node NodeId) (child : NodeId) :
    (store.alloc node).2.edges.count child = store.edges.count child + node.children.count child := by
  have kept := store.count_edges_foldl_retain node.children child
  rw [edges] at kept
  simp only [alloc, edges, Array.toList_push, List.flatMap_append, List.count_append, kept,
    List.flatMap_cons, List.flatMap_nil, List.append_nil, cellEdges, Option.elim_some]

/-- Every holder is accounted for. `held` are the handles that hold a node, and `spare` is the one
node that may be left without a holder: the node that was made last, before it is held. -/
structure Counted (store : Store) (held : List (Option NodeId)) (spare : Option NodeId) : Prop where
  holders_eq : ∀ id, store.holders id = held.count (some id) + store.edges.count id
  unheld_iff : ∀ id, store.IsLive id ∧ store.holders id = 0 ↔ spare = some id
  older : ∀ id node, store.node? id = some node → ∀ child ∈ node.children, child < id

namespace Counted

variable {held : List (Option NodeId)} {spare : Option NodeId}

theorem perm {rearranged : List (Option NodeId)} (counted : Counted store held spare)
    (same : held.Perm rearranged) : Counted store rearranged spare :=
  { counted with holders_eq := fun id => by rw [counted.holders_eq id, same.count_eq] }

theorem isLive_of_mem (counted : Counted store held spare) (member : some id ∈ held) :
    store.IsLive id := by
  apply isLive_of_holders_pos
  rw [counted.holders_eq]
  exact Nat.add_pos_left (List.count_pos_iff.mpr member) _

theorem isLive_child (counted : Counted store held spare) (found : store.node? id = some node)
    (member : child ∈ node.children) : store.IsLive child := by
  apply isLive_of_holders_pos
  rw [counted.holders_eq]
  exact Nat.add_pos_right _ (List.count_pos_iff.mpr (mem_edges_iff.mpr ⟨id, node, found, member⟩))

theorem isLive_spare (counted : Counted store held (some id)) : store.IsLive id :=
  ((counted.unheld_iff id).mpr rfl).1

theorem empty : Counted Store.empty [] none where
  holders_eq _ := rfl
  unheld_iff id := by simp [IsLive, node?, cell?, Store.empty]
  older _ _ found := by simp [node?, cell?, Store.empty] at found

theorem alloc (counted : Counted store held spare) (live : ∀ child ∈ node.children, store.IsLive child)
    (used : ∀ id, spare = some id → id ∈ node.children) :
    Counted (store.alloc node).2 held (some (store.alloc node).1) := by
  refine ⟨?holders, ?unheld, ?older⟩
  case holders =>
    intro other
    rw [holders_alloc live, counted.holders_eq, count_edges_alloc, Nat.add_assoc]
  case unheld =>
    intro other
    by_cases same : other = (store.alloc node).1
    · subst same
      rw [holders_of_cell? (store.cell?_alloc_self node)]
      exact iff_of_true ⟨store.isLive_alloc_self node, rfl⟩ rfl
    · refine iff_of_false ?_ fun new => same (Option.some.inj new).symm
      rintro ⟨present, unheld⟩
      rw [IsLive, node?_alloc_of_ne store node same] at present
      rw [holders_alloc live] at unheld
      -- An older node without a holder would be the spare one, and that is a child by now.
      have idle := (counted.unheld_iff other).mp ⟨present, by omega⟩
      have edge := List.count_pos_iff.mpr (used other idle)
      omega
  case older =>
    intro other above found child member
    by_cases same : other = (store.alloc node).1
    · subst same
      rw [node?_alloc_self, Option.some.injEq] at found
      subst found
      rw [alloc_fst]
      exact lt_size_of_isLive (live child member)
    · rw [node?_alloc_of_ne store node same] at found
      exact counted.older other above found child member

theorem retain (counted : Counted store held spare) (live : store.IsLive id)
    (used : ∀ other, spare = some other → other = id) :
    Counted (store.retain id) (some id :: held) none := by
  refine ⟨?holders, ?unheld, ?older⟩
  case holders =>
    intro other
    have more : (some id :: held).count (some other) = [id].count other + held.count (some other) := by
      rw [← count_map_some, ← List.count_append, List.map_singleton, List.singleton_append]
    rw [holders_retain live, counted.holders_eq, count_edges_retain, more]
    omega
  case unheld =>
    intro other
    refine iff_of_false ?_ nofun
    rintro ⟨present, unheld⟩
    rw [IsLive, store.node?_retain] at present
    rw [holders_retain live] at unheld
    have idle := (counted.unheld_iff other).mp ⟨present, by omega⟩
    rw [used other idle, List.count_singleton_self] at unheld
    omega
  case older =>
    intro other above found
    rw [store.node?_retain] at found
    exact counted.older other above found

/-- A node that loses its last holder is freed, and its children are owed a release instead. -/
theorem free (counted : Counted store (some id :: held) spare) (found : store.cell? id = some cell)
    (last : cell.holders ≤ 1) :
    Counted (store.setCell id none) (cell.node.children.map some ++ held) spare := by
  have freed : (store.setCell id none).cell? id = none :=
    store.cell?_setCell_self id none (lt_size_of_cell? found)
  have total := counted.holders_eq id
  rw [holders_of_cell? found, List.count_cons_self] at total
  refine ⟨?holders, ?unheld, ?older⟩
  case holders =>
    intro other
    have edges := count_edges_setCell found none other
    have before := counted.holders_eq other
    rw [cellEdges, Option.elim_none, List.count_nil] at edges
    rw [List.count_append, count_map_some]
    by_cases same : other = id
    · subst same
      -- The one holder was the handle, so no other handle and no edge is left that leads here.
      rw [holders_of_cell?_eq_none freed]
      omega
    · rw [List.count_cons_of_ne (by simpa using Ne.symm same)] at before
      rw [holders_setCell_of_ne none same]
      omega
  case unheld =>
    intro other
    by_cases same : other = id
    · subst same
      refine iff_of_false (fun unheld => not_isLive_iff.mpr freed unheld.1) fun idle => ?_
      have unheld := ((counted.unheld_iff other).mpr idle).2
      rw [holders_of_cell? found] at unheld
      omega
    · rw [IsLive, node?_setCell_of_ne none same, holders_setCell_of_ne none same]
      exact counted.unheld_iff other
  case older =>
    intro other above present
    have different : other ≠ id := by
      rintro rfl
      rw [node?, freed] at present
      cases present
    rw [node?_setCell_of_ne none different] at present
    exact counted.older other above present

theorem shed (counted : Counted store (some id :: held) spare) (found : store.cell? id = some cell)
    (more : 1 < cell.holders) :
    Counted (store.setCell id (some { cell with holders := cell.holders - 1 })) held spare := by
  have recounted := holders_recount_self found (cell.holders - 1)
  refine ⟨?holders, ?unheld, ?older⟩
  case holders =>
    intro other
    have before := counted.holders_eq other
    rw [count_edges_recount found]
    by_cases same : other = id
    · subst same
      rw [holders_of_cell? found, List.count_cons_self] at before
      rw [recounted]
      omega
    · rw [List.count_cons_of_ne (by simpa using Ne.symm same)] at before
      rwa [holders_setCell_of_ne _ same]
  case unheld =>
    intro other
    rw [IsLive, node?_recount found, ← counted.unheld_iff other]
    by_cases same : other = id
    · subst same
      rw [recounted, holders_of_cell? found]
      have held : cell.holders - 1 ≠ 0 := by omega
      have heldBefore : cell.holders ≠ 0 := by omega
      exact iff_of_false (fun unheld => held unheld.2) fun unheld => heldBefore unheld.2
    · rw [holders_setCell_of_ne _ same, IsLive]
  case older =>
    intro other above present
    rw [node?_recount found] at present
    exact counted.older other above present

/-- Letting go of everything that is listed leaves the count of the rest. -/
theorem releaseAll {ids : List NodeId} (counted : Counted store (ids.map some ++ held) spare) :
    Counted (store.releaseAll ids) held spare := by
  fun_induction Store.releaseAll store ids with
  | case1 store => exact counted
  | case2 store id pending freed ih =>
    -- What is to be released has a holder still, so that it cannot be gone.
    exact absurd (counted.isLive_of_mem List.mem_cons_self) (not_isLive_iff.mpr freed)
  | case3 store id pending cell found last ih =>
    apply ih
    rw [List.map_append, List.append_assoc]
    exact counted.free found last
  | case4 store id pending cell found more ih =>
    exact ih (counted.shed found (Nat.lt_of_not_le more))

end Counted

/-- Reached through child edges from a node that is held. -/
inductive Reachable (store : Store) (held : List (Option NodeId)) : NodeId → Prop where
  | root {id : NodeId} (member : some id ∈ held) : Reachable store held id
  | child {id child : NodeId} {node : Node NodeId} (above : Reachable store held id)
      (found : store.node? id = some node) (member : child ∈ node.children) :
      Reachable store held child

namespace Counted

variable {held : List (Option NodeId)}

theorem isLive_of_reachable {spare : Option NodeId} (counted : Counted store held spare)
    (reachable : Reachable store held id) : store.IsLive id := by
  cases reachable with
  | root member => exact counted.isLive_of_mem member
  | child above found member => exact counted.isLive_child found member

theorem reachable_of_isLive (counted : Counted store held none) {id : NodeId}
    (live : store.IsLive id) : Reachable store held id := by
  have total := counted.holders_eq id
  by_cases root : some id ∈ held
  · exact .root root
  · have unrooted : held.count (some id) = 0 := List.count_eq_zero.mpr root
    have holders : store.holders id ≠ 0 :=
      fun unheld => nomatch (counted.unheld_iff id).mp ⟨live, unheld⟩
    obtain ⟨parent, node, found, member⟩ := mem_edges_iff.mp
      (List.count_pos_iff.mp (show 0 < store.edges.count id by omega))
    -- A holder that is no handle is a younger node, and there is a youngest, so the way up ends at a handle.
    have younger := counted.older parent node found id member
    have present : store.IsLive parent := by rw [IsLive, found, Option.isSome_some]
    have bound := lt_size_of_isLive present
    exact .child (counted.reachable_of_isLive present) found member
termination_by store.cells.size - id
decreasing_by exact Nat.sub_lt_sub_left (Nat.lt_trans younger bound) younger

theorem isLive_iff_reachable (counted : Counted store held none) :
    store.IsLive id ↔ Reachable store held id :=
  ⟨counted.reachable_of_isLive, counted.isLive_of_reachable⟩

end Counted

end Store

end ShapeDispatch
