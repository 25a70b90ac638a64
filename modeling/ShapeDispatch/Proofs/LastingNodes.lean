import ShapeDispatch.Proofs.HeldNodes
import ShapeDispatch.Proofs.StoredTrees

/-! Nodes do not change. Whatever is done to a store, a node that is still there is the node that it was
and has the tree that it had, and no later node takes the place of one that is gone. -/

namespace ShapeDispatch

namespace Store

variable {store before middle after : Store} {id : NodeId}

theorem size_alloc (store : Store) (node : Node NodeId) :
    (store.alloc node).2.cells.size = store.cells.size + 1 := by
  simp only [alloc, Array.size_push, size_foldl_retain]

/-- Of the nodes that were made before, each is as it was or is gone. -/
structure Evolves (before after : Store) : Prop where
  size_le : before.cells.size ≤ after.cells.size
  node?_eq : ∀ id, id < before.cells.size → after.IsLive id → after.node? id = before.node? id

namespace Evolves

theorem refl (store : Store) : Evolves store store :=
  ⟨Nat.le_refl _, fun _ _ _ => rfl⟩

theorem trans (first : Evolves before middle) (second : Evolves middle after) : Evolves before after := by
  refine ⟨Nat.le_trans first.size_le second.size_le, fun id old live => ?_⟩
  have same := second.node?_eq id (Nat.lt_of_lt_of_le old first.size_le) live
  -- A node that is gone does not come back, so this one was there in between.
  have still : middle.IsLive id := by rwa [IsLive, ← same]
  exact same.trans (first.node?_eq id old still)

theorem free (store : Store) (id : NodeId) : Evolves store (store.setCell id none) := by
  refine ⟨by rw [setCell, Array.size_setIfInBounds], fun other old live => ?_⟩
  by_cases same : other = id
  · subst same
    exact absurd live (not_isLive_iff.mpr (store.cell?_setCell_self other none old))
  · exact node?_setCell_of_ne none same

theorem recount {cell : Cell} (found : store.cell? id = some cell) (count : Nat) :
    Evolves store (store.setCell id (some { cell with holders := count })) :=
  ⟨by rw [setCell, Array.size_setIfInBounds], fun other _ _ => node?_recount found count other⟩

theorem retain (store : Store) (id : NodeId) : Evolves store (store.retain id) :=
  ⟨Nat.le_of_eq (store.size_retain id).symm, fun other _ _ => store.node?_retain id other⟩

theorem alloc (store : Store) (node : Node NodeId) : Evolves store (store.alloc node).2 := by
  constructor
  · rw [size_alloc]
    exact Nat.le_succ _
  · intro id old _
    refine node?_alloc_of_ne store node ?_
    rw [alloc_fst]
    exact Nat.ne_of_lt old

theorem releaseAll (store : Store) (ids : List NodeId) : Evolves store (store.releaseAll ids) := by
  fun_induction Store.releaseAll store ids with
  | case1 store => exact refl store
  | case2 store id pending freed ih => exact ih
  | case3 store id pending cell found last ih => exact (free store id).trans ih
  | case4 store id pending cell found more ih => exact (recount found (cell.holders - 1)).trans ih

theorem hold (store : Store) (target : Option NodeId) : Evolves store (store.hold target) := by
  cases target with
  | none => exact refl store
  | some id => exact retain store id

theorem letGo (store : Store) (target : Option NodeId) : Evolves store (store.letGo target) := by
  cases target with
  | none => exact refl store
  | some id => exact releaseAll store [id]

theorem holdAll (store : Store) (projections : List Projection) : Evolves store
      (projections.foldl (fun store projection => store.hold projection.target) store) := by
  induction projections generalizing store with
  | nil => exact refl store
  | cons projection projections ih => exact (hold store projection.target).trans (ih _)

theorem grow {last : Store} {shape : ChainShape} {leaf top target : Option NodeId} {count : Nat}
    (grown : Workspace.grow shape leaf count top store = .ok (target, last)) : Evolves store last := by
  induction count generalizing store top with
  | zero =>
    cases grown
    exact refl last
  | succ count ih =>
    rw [Workspace.grow] at grown
    cases sealed : (Workspace.link shape top leaf).seal with
    | error fault =>
      rw [sealed] at grown
      cases grown
    | ok node =>
      rw [sealed] at grown
      exact (alloc store node).trans (ih grown)

end Evolves

/-- A node keeps its tree as long as it is there, since its children are there with it. -/
theorem Counted.tree?_eq_of_evolves {held held' : List (Option NodeId)} {spare spare' : Option NodeId}
    (counted : Counted before held spare) (counted' : Counted after held' spare')
    (evolves : Evolves before after) {id : NodeId} (old : id < before.cells.size)
    (live : after.IsLive id) : after.tree? id = before.tree? id := by
  obtain ⟨node, found⟩ := Option.isSome_iff_exists.mp live
  have foundBefore : before.node? id = some node := (evolves.node?_eq id old live).symm.trans found
  -- The children are there with their parent, and are older.
  have below : ∀ child ∈ node.children, after.tree? child = before.tree? child := by
    intro child member
    have younger := counted'.older id node found child member
    exact tree?_eq_of_evolves counted counted' evolves (Nat.lt_trans younger old)
      (counted'.isLive_child found member)
  rw [counted'.tree?_eq found, counted.tree?_eq foundBefore, Node.mapM_congr below]
termination_by id

end Store

namespace Workspace

open Store (Evolves)

variable {workspace next : Workspace}

theorem evolves_dropRef (workspace : Workspace) (name : String) :
    Evolves workspace.store (workspace.dropRef name).store := by
  rw [dropRef]
  cases workspace.refs.get? name with
  | none => exact .refl workspace.store
  | some handle => exact .letGo workspace.store handle.target

theorem evolves_dropRefs (workspace : Workspace) (names : List String) :
    Evolves workspace.store (workspace.dropRefs names).store := by
  induction names generalizing workspace with
  | nil => exact .refl workspace.store
  | cons name names ih => exact (workspace.evolves_dropRef name).trans (ih _)

theorem evolves_putRef (workspace : Workspace) (name : String) (handle : Handle) :
    Evolves workspace.store (workspace.putRef name handle).store := by
  have dropped := evolves_dropRef { workspace with store := workspace.store.hold handle.target } name
  exact (Evolves.hold workspace.store handle.target).trans dropped

theorem evolves_dropProjection (workspace : Workspace) (name : String) :
    Evolves workspace.store (workspace.dropProjection name).store := by
  rw [dropProjection]
  cases workspace.projections.get? name with
  | none => exact .refl workspace.store
  | some projection => exact .letGo workspace.store projection.target

theorem evolves_putProjection (workspace : Workspace) (name : String) (projection : Projection) :
    Evolves workspace.store (workspace.putProjection name projection).store := by
  have dropped :=
    evolves_dropProjection { workspace with store := workspace.store.hold projection.target } name
  exact (Evolves.hold workspace.store projection.target).trans dropped

theorem evolves_rebindAll (workspace : Workspace) (stem : String) (entries : List (Projection × Nat)) :
    Evolves workspace.store (entries.foldl (fun workspace (projection, index) =>
      workspace.rebindProjection (stem ++ toString index) projection) workspace).store := by
  induction entries generalizing workspace with
  | nil => exact .refl workspace.store
  | cons entry entries ih =>
    have first := workspace.evolves_dropProjection (stem ++ toString entry.2)
    exact first.trans (ih (workspace.rebindProjection (stem ++ toString entry.2) entry.1))

theorem evolves_putProjections (workspace : Workspace) (stem : String) (projections : List Projection) :
    Evolves workspace.store (workspace.putProjections stem projections).store := by
  let holding : Workspace :=
    { workspace with
      store := projections.foldl (fun store projection => store.hold projection.target) workspace.store }
  have rebinds := holding.evolves_rebindAll stem projections.zipIdx
  exact (Evolves.holdAll workspace.store projections).trans rebinds

/-- The new node is the youngest one, and its children are what the names stand for. -/
theorem Made.exists_node {draft : Draft} {id : NodeId} {made : Workspace}
    (makes : Made workspace draft id made) :
    id = workspace.store.cells.size ∧ made.store.cells.size = workspace.store.cells.size + 1 ∧
      ∃ node, made.store.node? id = some node ∧
        (draft.map fun name => (workspace.refs.get? name).bind Handle.target) = node.map some := by
  cases makes with
  | @alloc children node bound sealed =>
    refine ⟨workspace.store.alloc_fst node, workspace.store.size_alloc node, node,
      workspace.store.node?_alloc_self node, ?_⟩
    calc (draft.map fun name => (workspace.refs.get? name).bind Handle.target)
      _ = (draft.map workspace.refs.get?).map (·.bind Handle.target) :=
        (Node.map_map workspace.refs.get? (·.bind Handle.target) draft).symm
      _ = (children.map some).map (·.bind Handle.target) := by rw [bound]
      _ = children.map Handle.target := Node.map_map some (·.bind Handle.target) children
      _ = node.map some := sealed

theorem Made.evolves {draft : Draft} {id : NodeId} {made : Workspace}
    (makes : Made workspace draft id made) : Evolves workspace.store made.store := by
  cases makes with
  | @alloc _ node => exact .alloc workspace.store node

theorem Performed.evolves {command : Command} (performed : Performed workspace command next) :
    Evolves workspace.store next.store := by
  cases performed with
  | query | noChild | matcher | rule | fallback => exact .refl workspace.store
  | derive | child => exact evolves_putRef workspace _ _
  | @build draft typed handover as id made makes =>
    exact makes.evolves.trans ((evolves_dropRefs made _).trans (evolves_putRef _ _ _))
  | @chain ref shape count leaf as top bottom target store _ _ grown =>
    exact (Evolves.grow grown).trans (evolves_putRef { workspace with store } as ⟨.node, target⟩)
  | reset _ makes => exact makes.evolves.trans (evolves_putRef _ _ _)
  | drop ref => exact workspace.evolves_dropRef ref
  | project | nullProjection => exact evolves_putProjection workspace _ _
  | @projectChildren name as projection children =>
    cases as with
    | none => exact .refl workspace.store
    | some stem => exact workspace.evolves_putProjections stem children
  | dropProjection name => exact workspace.evolves_dropProjection name

theorem Stepped.evolves {command : Command} (stepped : Stepped workspace command next) :
    Evolves workspace.store next.store := by
  cases stepped with
  | performed success => exact success.evolves
  | failed => exact .refl workspace.store
  | abandoned => exact workspace.evolves_dropRefs _

theorem evolves_run (workspace : Workspace) (commands : List Command) :
    Evolves workspace.store (workspace.run commands).2.store :=
  run_of_stepped (fun next => Evolves workspace.store next.store)
    (fun reached stepped => reached.trans stepped.evolves) (.refl workspace.store) commands

end Workspace

end ShapeDispatch
