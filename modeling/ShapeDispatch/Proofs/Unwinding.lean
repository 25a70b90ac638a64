import ShapeDispatch.Proofs.UntouchedHandles

/-! Giving back what an operation had in its hands. Before an operation can tell whether its arguments will do,
it has shared or taken handles to them, and it lets go of these when they will not. The order does not matter:
two stores that came from one, made no node and hold the same are the same, down to the last count. -/

namespace ShapeDispatch

namespace Store

variable {before after after' : Store} {held : List (Option NodeId)} {spare : Option NodeId} {id : NodeId}

theorem ext_cell? (sameSize : after.cells.size = after'.cells.size)
    (same : ∀ id, after.cell? id = after'.cell? id) : after = after' := by
  obtain ⟨cells⟩ := after
  obtain ⟨cells'⟩ := after'
  congr 1
  refine Array.ext sameSize fun id bound bound' => ?_
  have here := same id
  rwa [cell?, cell?, Array.getElem?_eq_getElem bound, Array.getElem?_eq_getElem bound', Option.join_some,
    Option.join_some] at here

theorem cell?_eq_of_node?_eq (sameNode : after.node? id = after'.node? id)
    (sameHolders : after.holders id = after'.holders id) : after.cell? id = after'.cell? id := by
  cases found : after.cell? id with
  | none =>
    rw [node?, found, Option.map_none] at sameNode
    exact (Option.map_eq_none_iff.mp sameNode.symm).symm
  | some cell =>
    rw [node?, found, Option.map_some] at sameNode
    obtain ⟨cell', found', node⟩ := node?_eq_some_iff.mp sameNode.symm
    rw [holders_of_cell? found, holders_of_cell? found'] at sameHolders
    obtain ⟨value, count⟩ := cell
    obtain ⟨value', count'⟩ := cell'
    cases node
    cases sameHolders
    exact found'.symm

theorem edges_eq_of_node?_eq (sameSize : after.cells.size = after'.cells.size)
    (same : ∀ id, after.node? id = after'.node? id) : after.edges = after'.edges := by
  have children (store : Store) (id : NodeId) (bound : id < store.cells.toList.length) :
      cellEdges store.cells.toList[id] = (store.node? id).elim [] Node.children := by
    rw [Array.length_toList] at bound
    rw [Array.getElem_toList, node?, cell?, Array.getElem?_eq_getElem bound, Option.join_some]
    cases store.cells[id] <;> rfl
  rw [edges, edges, List.flatMap_def, List.flatMap_def]
  congr 1
  refine List.ext_getElem (by simpa only [List.length_map, Array.length_toList] using sameSize) ?_
  intro id bound bound'
  rw [List.length_map] at bound bound'
  rw [List.getElem_map, List.getElem_map, children after id bound, children after' id bound', same]

namespace Counted

/-- Two stores that come of one without any new node are equal if they are held by the same. -/
theorem eq_of_evolves (left : Counted after held none) (right : Counted after' held none)
    (evolves : Evolves before after) (evolves' : Evolves before after')
    (sameSize : after.cells.size = before.cells.size) (sameSize' : after'.cells.size = before.cells.size) :
    after = after' := by
  have sameLive : ∀ id, after.IsLive id ↔ after'.IsLive id := fun id =>
    (left.isLive_iff_reachable_still evolves sameSize).trans
      (right.isLive_iff_reachable_still evolves' sameSize').symm
  have sameNodes : ∀ id, after.node? id = after'.node? id := by
    intro id
    by_cases live : after.IsLive id
    · have live' := (sameLive id).mp live
      exact (evolves.node?_eq id (sameSize ▸ lt_size_of_isLive live) live).trans
        (evolves'.node?_eq id (sameSize' ▸ lt_size_of_isLive live') live').symm
    · rw [node?, node?, not_isLive_iff.mp live, not_isLive_iff.mp (mt (sameLive id).mpr live)]
  have grown := sameSize.trans sameSize'.symm
  refine ext_cell? grown fun id => cell?_eq_of_node?_eq (sameNodes id) ?_
  -- A count of holders is determined by what is held and by the edges, which are those of the same nodes.
  rw [left.holders_eq, right.holders_eq, edges_eq_of_node?_eq grown sameNodes]

theorem letGoAll {targets : List (Option NodeId)} (counted : Counted before (targets ++ held) spare) :
    Counted (targets.foldl Store.letGo before) held spare := by
  induction targets generalizing before with
  | nil => exact counted
  | cons target targets ih => exact ih counted.letGo

end Counted

theorem Evolves.letGoAll (store : Store) (targets : List (Option NodeId)) :
    Evolves store (targets.foldl Store.letGo store) := by
  induction targets generalizing store with
  | nil => exact .refl store
  | cons target targets ih => exact (Evolves.letGo store target).trans (ih _)

theorem size_letGoAll (store : Store) (targets : List (Option NodeId)) :
    (targets.foldl letGo store).cells.size = store.cells.size := by
  induction targets generalizing store with
  | nil => rfl
  | cons target targets ih => exact (ih _).trans (store.size_letGo target)

end Store

open Store (Evolves)

namespace Workspace

variable {workspace left right : Workspace} {name : String}

theorem eq_of_parts (store : left.store = right.store) (refs : left.refs = right.refs)
    (projections : left.projections = right.projections) (matchers : left.matchers = right.matchers) :
    left = right := by
  cases left
  cases right
  cases store
  cases refs
  cases projections
  cases matchers
  rfl

theorem refs_dropRef (workspace : Workspace) (name : String) :
    (workspace.dropRef name).refs = workspace.refs.erase name := by
  rw [dropRef]
  cases bound : workspace.refs.get? name with
  | none => exact (Bindings.erase_of_get?_eq_none bound).symm
  | some handle => rfl

theorem size_dropRefs (workspace : Workspace) (names : List String) :
    (workspace.dropRefs names).store.cells.size = workspace.store.cells.size := by
  induction names generalizing workspace with
  | nil => rfl
  | cons name names ih => exact (ih (workspace.dropRef name)).trans (workspace.size_dropRef name)

theorem dropRefs_concat (workspace : Workspace) (names : List String) (name : String) :
    workspace.dropRefs (names ++ [name]) = (workspace.dropRefs names).dropRef name :=
  List.foldl_concat ..

/-- An operation that has begun: handles in hand, the one it came by last in front. -/
structure Underway where
  workspace : Workspace
  inHand : List (Option NodeId)

namespace Underway

variable {underway : Underway} {taken : List String}

def share (underway : Underway) (name : String) : Underway :=
  let target := (underway.workspace.refs.get? name).bind Handle.target
  ⟨{ underway.workspace with store := underway.workspace.store.hold target }, target :: underway.inHand⟩

def take (underway : Underway) (name : String) : Underway :=
  match underway.workspace.refs.get? name with
  | none => underway
  | some handle =>
    ⟨{ underway.workspace with refs := underway.workspace.refs.erase name }, handle.target :: underway.inHand⟩

def receive (underway : Underway) (moved : Bool) (name : String) : Underway :=
  if moved then underway.take name else underway.share name

def unwind (underway : Underway) : Workspace :=
  { underway.workspace with store := underway.inHand.foldl Store.letGo underway.workspace.store }

/-- Begun in a workspace, of which it has taken the listed names. -/
structure From (workspace : Workspace) (taken : List String) (underway : Underway) : Prop where
  accounted : Accounted underway.workspace underway.inHand none
  evolves : Evolves workspace.store underway.workspace.store
  size_eq : underway.workspace.store.cells.size = workspace.store.cells.size
  refs : underway.workspace.refs = (workspace.dropRefs taken).refs
  projections : underway.workspace.projections = workspace.projections
  matchers : underway.workspace.matchers = workspace.matchers

namespace From

theorem start (accounted : Accounted workspace [] none) : From workspace [] ⟨workspace, []⟩ :=
  ⟨accounted, .refl workspace.store, rfl, rfl, rfl, rfl⟩

theorem share (begun : From workspace taken underway) (name : String) :
    From workspace taken (underway.share name) := by
  refine ⟨begun.accounted.hold (fun id pointing => ?_) nofun, begun.evolves.trans (.hold _ _), ?_, begun.refs,
    begun.projections, begun.matchers⟩
  · obtain ⟨handle, bound, target⟩ := Option.bind_eq_some_iff.mp pointing
    exact begun.accounted.isLive_ref bound target
  · exact (Store.size_hold _ _).trans begun.size_eq

theorem take (begun : From workspace taken underway) (name : String) :
    From workspace (taken ++ [name]) (underway.take name) := by
  have erased : underway.workspace.refs.erase name = (workspace.dropRefs (taken ++ [name])).refs := by
    rw [dropRefs_concat, refs_dropRef, begun.refs]
  rw [Underway.take]
  cases bound : underway.workspace.refs.get? name with
  | none =>
    rw [Bindings.erase_of_get?_eq_none bound] at erased
    exact { begun with refs := erased }
  | some handle =>
    refine ⟨⟨?_, begun.accounted.refs_distinct.erase name, begun.accounted.projections_distinct⟩, begun.evolves,
      begun.size_eq, erased, begun.projections, begun.matchers⟩
    refine begun.accounted.counted.perm ?_
    have taken := (Bindings.values_perm_of_get? bound).map Handle.target
    exact ((taken.append_right _).append_left underway.inHand).trans List.perm_middle

theorem shareAll (begun : From workspace taken underway) (names : List String) :
    From workspace taken (names.foldl Underway.share underway) := by
  induction names generalizing underway with
  | nil => exact begun
  | cons name names ih => exact ih (begun.share name)

theorem receiveAll (begun : From workspace taken underway) (children : List (Bool × String)) :
    From workspace (taken ++ (children.filter (·.1)).map (·.2))
      (children.foldl (fun underway child => underway.receive child.1 child.2) underway) := by
  induction children generalizing taken underway with
  | nil => rwa [List.filter_nil, List.map_nil, List.append_nil]
  | cons child children ih =>
    obtain ⟨moved, name⟩ := child
    cases moved with
    | false => exact ih (begun.share name)
    | true =>
      rw [List.filter_cons_of_pos rfl, List.map_cons, List.append_cons]
      exact ih (begun.take name)

/-- Letting go of all that is in hand leaves the workspace without the names that were taken, and is otherwise as
if nothing had begun. -/
theorem unwind_eq (begun : From workspace taken underway) (accounted : Accounted workspace [] none) :
    underway.unwind = workspace.dropRefs taken := by
  have unwound : underway.unwind.store.Counted underway.workspace.held none :=
    begun.accounted.counted.letGoAll
  have dropped : (workspace.dropRefs taken).store.Counted underway.workspace.held none := by
    rw [held, begun.refs, begun.projections, ← projections_dropRefs workspace taken]
    exact (accounted.dropRefs taken).counted
  refine eq_of_parts ?store begun.refs ?projections ?matchers
  case store =>
    exact unwound.eq_of_evolves dropped (begun.evolves.trans (.letGoAll _ _))
      (workspace.evolves_dropRefs taken) ((Store.size_letGoAll _ _).trans begun.size_eq)
      (workspace.size_dropRefs taken)
  case projections => exact begun.projections.trans (workspace.projections_dropRefs taken).symm
  case matchers => exact begun.matchers.trans (workspace.matchers_dropRefs taken).symm

end From

end Underway

end Workspace

end ShapeDispatch
