import ShapeDispatch.Proofs.HolderCounts
import ShapeDispatch.Proofs.WorkspaceChanges

/-! Every workspace that a run can reach holds exactly the nodes that its names lead to, and counts
their holders exactly. On the way through a command there may be handles that are held before they
have a name, and a node that is not held yet. -/

namespace ShapeDispatch

namespace Bindings

variable {α : Type} {bindings : Bindings α} {name : String} {value : α}

def Distinct (bindings : Bindings α) : Prop :=
  (bindings.entries.map Prod.fst).Nodup

theorem get?_eq_none_iff : bindings.get? name = none ↔ name ∉ bindings.entries.map Prod.fst := by
  simp only [get?, Option.map_eq_none_iff, List.find?_eq_none, decide_eq_true_eq, List.mem_map,
    not_exists, not_and]

theorem entries_erase_sublist (bindings : Bindings α) (name : String) :
    (bindings.erase name).entries.Sublist bindings.entries :=
  List.eraseP_sublist

theorem values_perm_of_get? (found : bindings.get? name = some value) :
    bindings.values.Perm (value :: (bindings.erase name).values) := by
  obtain ⟨entries⟩ := bindings
  simp only [values, erase]
  induction entries with
  | nil => cases found
  | cons entry entries ih =>
    by_cases here : entry.1 = name
    · simp [get?, here] at found
      simp [here, found]
    · have later : (Bindings.mk entries).get? name = some value := by
        simpa [get?, here] using found
      simp only [here, decide_false, List.eraseP_cons_of_neg, List.map_cons, Bool.false_eq_true,
        not_false_eq_true]
      exact ((ih later).cons entry.2).trans (.swap value entry.2 _)

theorem mem_values_of_get? (found : bindings.get? name = some value) : value ∈ bindings.values :=
  (values_perm_of_get? found).mem_iff.mpr List.mem_cons_self

theorem erase_of_get?_eq_none (absent : bindings.get? name = none) :
    bindings.erase name = bindings := by
  have unnamed := get?_eq_none_iff.mp absent
  rw [erase, List.eraseP_of_forall_not]
  intro entry member here
  exact unnamed (List.mem_map.mpr ⟨entry, member, of_decide_eq_true here⟩)

namespace Distinct

theorem erase (distinct : bindings.Distinct) (name : String) : (bindings.erase name).Distinct :=
  distinct.sublist ((bindings.entries_erase_sublist name).map Prod.fst)

theorem get?_erase (distinct : bindings.Distinct) (name : String) :
    (bindings.erase name).get? name = none := by
  obtain ⟨entries⟩ := bindings
  rw [get?_eq_none_iff]
  induction entries with
  | nil => exact List.not_mem_nil
  | cons entry entries ih =>
    obtain ⟨fresh, rest⟩ := List.nodup_cons.mp distinct
    by_cases here : entry.1 = name
    · simpa [Bindings.erase, here] using fresh
    · simpa [Bindings.erase, here, Ne.symm here] using ih rest

theorem set (distinct : bindings.Distinct) (name : String) (value : α) :
    (bindings.set name value).Distinct :=
  List.nodup_cons.mpr ⟨get?_eq_none_iff.mp (distinct.get?_erase name), distinct.erase name⟩

end Distinct

theorem values_set (bindings : Bindings α) (name : String) (value : α) :
    (bindings.set name value).values = value :: (bindings.erase name).values := rfl

end Bindings

theorem Store.isLive_hold {store : Store} {id : NodeId} {target : Option NodeId}
    (live : store.IsLive id) : (store.hold target).IsLive id := by
  cases target with
  | none => exact live
  | some other => rwa [hold, Option.elim_some, IsLive, store.node?_retain]

namespace Store.Counted

variable {store : Store} {held : List (Option NodeId)} {spare target : Option NodeId}

theorem none_cons_iff : Counted store (none :: held) spare ↔ Counted store held spare := by
  have same : ∀ id : NodeId, (none :: held).count (some id) = held.count (some id) :=
    fun id => List.count_cons_of_ne (Option.some_ne_none id).symm
  constructor
  · exact fun counted => { counted with holders_eq := fun id => same id ▸ counted.holders_eq id }
  · exact fun counted => { counted with holders_eq := fun id => (same id).symm ▸ counted.holders_eq id }

theorem hold (counted : Counted store held spare) (live : ∀ id, target = some id → store.IsLive id)
    (used : ∀ id, spare = some id → target = some id) :
    Counted (store.hold target) (target :: held) none := by
  cases target with
  | none =>
    cases spare with
    | none => exact none_cons_iff.mpr counted
    | some id => cases used id rfl
  | some id =>
    refine counted.retain (live id rfl) fun other idle => ?_
    exact (Option.some.inj (used other idle)).symm

theorem letGo (counted : Counted store (target :: held) spare) :
    Counted (store.letGo target) held spare := by
  cases target with
  | none => exact none_cons_iff.mp counted
  | some id => exact releaseAll counted

end Store.Counted

theorem Handle.target_of_castOrNull {store : Store} {handle : Handle} {wanted : StaticKind}
    {id : NodeId} (pointing : (handle.castOrNull store wanted).target = some id) :
    handle.target = some id := by
  unfold castOrNull at pointing
  split at pointing
  next => cases pointing
  next =>
    split at pointing
    next => exact pointing
    next => cases pointing

theorem Node.mem_children_of_part? {α : Type} {part : Part} {node : Node α} {child : α}
    (below : node.part? part = some child) : child ∈ node.children := by
  cases node <;> cases part <;> cases below <;> simp [children]

theorem Workspace.children_link (shape : ChainShape) (top leaf : Option NodeId) :
    top ∈ (link shape top leaf).children ∧
      ∀ target ∈ (link shape top leaf).children, target = top ∨ target = leaf := by
  cases shape <;> simp [link, Node.children]

theorem Store.Counted.grow {store last : Store} {shape : ChainShape} {leaf top target : Option NodeId}
    {count : Nat} {held : List (Option NodeId)} {spare : Option NodeId}
    (counted : Counted store held spare) (topLive : ∀ id, top = some id → store.IsLive id)
    (leafLive : ∀ id, leaf = some id → store.IsLive id)
    (used : ∀ id, spare = some id → top = some id)
    (grown : Workspace.grow shape leaf count top store = .ok (target, last)) :
    ∃ spare, Counted last held spare ∧ (∀ id, target = some id → last.IsLive id) ∧
      ∀ id, spare = some id → target = some id := by
  induction count generalizing store top spare with
  | zero =>
    cases grown
    exact ⟨spare, counted, topLive, used⟩
  | succ count ih =>
    rw [Workspace.grow] at grown
    cases sealed : (Workspace.link shape top leaf).seal with
    | error fault =>
      rw [sealed] at grown
      cases grown
    | ok node =>
      rw [sealed] at grown
      obtain ⟨holdsTop, holdsOnly⟩ := Workspace.children_link shape top leaf
      rw [Node.seal_eq_ok_iff.mp sealed, Node.children_map] at holdsTop holdsOnly
      have live : ∀ child ∈ node.children, store.IsLive child := by
        intro child member
        obtain same | same := holdsOnly (some child) (List.mem_map_of_mem member)
        · exact topLive child same.symm
        · exact leafLive child same.symm
      -- The node made before this one has no holder yet, and becomes a child of it.
      have holdsSpare : ∀ id, spare = some id → id ∈ node.children := by
        intro id idle
        rw [used id idle] at holdsTop
        obtain ⟨_, member, ⟨⟩⟩ := List.mem_map.mp holdsTop
        exact member
      refine ih (counted.alloc live holdsSpare) ?topLive ?leafLive (fun id idle => idle) grown
      case topLive =>
        rintro _ ⟨⟩
        exact store.isLive_alloc_self node
      case leafLive => exact fun id pointing => isLive_alloc (leafLive id pointing) node

namespace Workspace

/-- Nothing but the names of a workspace and the pending handles holds a node. -/
structure Accounted (workspace : Workspace) (pending : List (Option NodeId))
    (spare : Option NodeId) : Prop where
  counted : workspace.store.Counted (pending ++ workspace.held) spare
  refs_distinct : workspace.refs.Distinct
  projections_distinct : workspace.projections.Distinct

variable {workspace next made : Workspace} {pending : List (Option NodeId)} {spare : Option NodeId}
  {handle : Handle} {projection : Projection} {name : String} {id : NodeId}

namespace Accounted

theorem empty : Accounted empty [] none :=
  ⟨.empty, List.nodup_nil, List.nodup_nil⟩

theorem isLive_ref (accounted : Accounted workspace pending spare)
    (bound : workspace.refs.get? name = some handle) (pointing : handle.target = some id) :
    workspace.store.IsLive id := by
  apply accounted.counted.isLive_of_mem
  rw [← pointing]
  exact List.mem_append_right _ (List.mem_append_left _
    (List.mem_map_of_mem (Bindings.mem_values_of_get? bound)))

theorem isLive_projection (accounted : Accounted workspace pending spare)
    (bound : workspace.projections.get? name = some projection)
    (pointing : projection.target = some id) : workspace.store.IsLive id := by
  apply accounted.counted.isLive_of_mem
  rw [← pointing]
  exact List.mem_append_right _ (List.mem_append_right _
    (List.mem_map_of_mem (Bindings.mem_values_of_get? bound)))

theorem hold {target : Option NodeId} (accounted : Accounted workspace pending spare)
    (live : ∀ id, target = some id → workspace.store.IsLive id)
    (used : ∀ id, spare = some id → target = some id) :
    Accounted { workspace with store := workspace.store.hold target } (target :: pending) none :=
  { accounted with counted := accounted.counted.hold live used }

theorem dropRef (accounted : Accounted workspace pending spare) (name : String) :
    Accounted (workspace.dropRef name) pending spare := by
  rw [Workspace.dropRef]
  cases bound : workspace.refs.get? name with
  | none => exact accounted
  | some handle =>
    refine ⟨Store.Counted.letGo (accounted.counted.perm ?_), accounted.refs_distinct.erase name,
      accounted.projections_distinct⟩
    have taken := (Bindings.values_perm_of_get? bound).map Handle.target
    exact ((taken.append_right _).append_left pending).trans List.perm_middle

theorem dropRefs (accounted : Accounted workspace pending spare) (names : List String) :
    Accounted (workspace.dropRefs names) pending spare := by
  induction names generalizing workspace with
  | nil => exact accounted
  | cons name names ih => exact ih (accounted.dropRef name)

theorem get?_dropRef (accounted : Accounted workspace pending spare) (name : String) :
    (workspace.dropRef name).refs.get? name = none := by
  rw [Workspace.dropRef]
  cases bound : workspace.refs.get? name with
  | none => exact bound
  | some handle => exact accounted.refs_distinct.get?_erase name

theorem rebindRef (accounted : Accounted workspace (handle.target :: pending) spare) :
    Accounted (workspace.rebindRef name handle) pending spare := by
  have dropped := accounted.dropRef name
  have absent := accounted.get?_dropRef name
  rw [Workspace.rebindRef]
  generalize workspace.dropRef name = rest at dropped absent
  refine ⟨dropped.counted.perm ?_, dropped.refs_distinct.set name handle, dropped.projections_distinct⟩
  rw [held, held, Bindings.values_set, Bindings.erase_of_get?_eq_none absent]
  exact List.perm_middle.symm

theorem putRef (accounted : Accounted workspace pending spare) (name : String)
    (live : ∀ id, handle.target = some id → workspace.store.IsLive id)
    (used : ∀ id, spare = some id → handle.target = some id) :
    Accounted (workspace.putRef name handle) pending none :=
  (accounted.hold live used).rebindRef

theorem dropProjection (accounted : Accounted workspace pending spare) (name : String) :
    Accounted (workspace.dropProjection name) pending spare := by
  rw [Workspace.dropProjection]
  cases bound : workspace.projections.get? name with
  | none => exact accounted
  | some projection =>
    refine ⟨Store.Counted.letGo (accounted.counted.perm ?_), accounted.refs_distinct,
      accounted.projections_distinct.erase name⟩
    have taken := (Bindings.values_perm_of_get? bound).map Projection.target
    exact ((taken.append_left _).trans List.perm_middle).append_left pending |>.trans List.perm_middle

theorem get?_dropProjection (accounted : Accounted workspace pending spare) (name : String) :
    (workspace.dropProjection name).projections.get? name = none := by
  rw [Workspace.dropProjection]
  cases bound : workspace.projections.get? name with
  | none => exact bound
  | some projection => exact accounted.projections_distinct.get?_erase name

theorem rebindProjection (accounted : Accounted workspace (projection.target :: pending) spare)
    (name : String) : Accounted (workspace.rebindProjection name projection) pending spare := by
  have dropped := accounted.dropProjection name
  have absent := accounted.get?_dropProjection name
  rw [Workspace.rebindProjection]
  generalize workspace.dropProjection name = rest at dropped absent
  refine ⟨dropped.counted.perm ?_, dropped.refs_distinct, dropped.projections_distinct.set name projection⟩
  rw [held, held, Bindings.values_set, Bindings.erase_of_get?_eq_none absent]
  exact List.perm_middle.symm.trans (List.perm_middle.symm.append_left pending)

theorem putProjection (accounted : Accounted workspace pending none) (name : String)
    (live : ∀ id, projection.target = some id → workspace.store.IsLive id) :
    Accounted (workspace.putProjection name projection) pending none :=
  (accounted.hold live nofun).rebindProjection name

theorem holdAll (accounted : Accounted workspace pending none) (projections : List Projection)
    (live : ∀ projection ∈ projections, ∀ id, projection.target = some id →
      workspace.store.IsLive id) :
    Accounted
      { workspace with
        store := projections.foldl (fun store projection => store.hold projection.target)
          workspace.store }
      (projections.map Projection.target ++ pending) none := by
  induction projections generalizing workspace pending with
  | nil => exact accounted
  | cons projection projections ih =>
    have first := accounted.hold (live projection List.mem_cons_self) nofun
    have rest := ih first fun later member id pointing =>
      Store.isLive_hold (live later (List.mem_cons_of_mem projection member) id pointing)
    exact { rest with counted := rest.counted.perm (List.perm_middle.append_right workspace.held) }

theorem rebindAll {entries : List (Projection × Nat)} (stem : String)
    (accounted : Accounted workspace (entries.map (·.1.target) ++ pending) spare) :
    Accounted (entries.foldl (fun workspace (projection, index) =>
      workspace.rebindProjection (stem ++ toString index) projection) workspace) pending spare := by
  induction entries generalizing workspace with
  | nil => exact accounted
  | cons entry entries ih => exact ih (accounted.rebindProjection _)

theorem putProjections {projections : List Projection}
    (accounted : Accounted workspace pending none) (stem : String)
    (live : ∀ projection ∈ projections, ∀ id, projection.target = some id →
      workspace.store.IsLive id) :
    Accounted (workspace.putProjections stem projections) pending none := by
  refine rebindAll stem ?_
  have targets : projections.zipIdx.map (·.1.target) = projections.map Projection.target := calc
    _ = (projections.zipIdx.map Prod.fst).map Projection.target := List.map_map.symm
    _ = projections.map Projection.target := by rw [List.zipIdx_map_fst]
  rw [targets]
  -- All of them are held before the first name changes, so none is lost with what it replaces.
  exact accounted.holdAll projections live

theorem of_made {draft : Draft} (accounted : Accounted workspace pending none)
    (makes : Made workspace draft id made) : Accounted made pending (some id) := by
  cases makes with
  | @alloc children node bound sealed =>
    refine { accounted with counted := accounted.counted.alloc (fun child member => ?_) nofun }
    have pointing : some child ∈ (children.map Handle.target).children := by
      rw [sealed, Node.children_map]
      exact List.mem_map_of_mem member
    rw [Node.children_map] at pointing
    obtain ⟨handle, among, target⟩ := List.mem_map.mp pointing
    have named : some handle ∈ (draft.map workspace.refs.get?).children := by
      rw [bound, Node.children_map]
      exact List.mem_map_of_mem among
    rw [Node.children_map] at named
    obtain ⟨name, -, found⟩ := List.mem_map.mp named
    exact accounted.isLive_ref found target

theorem isLive_derived {derivation : Derivation} (accounted : Accounted workspace pending none)
    (derived : Derived workspace derivation handle) (pointing : handle.target = some id) :
    workspace.store.IsLive id := by
  cases derived with
  | null static => cases pointing
  | clone bound => exact accounted.isLive_ref bound pointing
  | upcast bound => exact accounted.isLive_ref bound pointing
  | cast bound known admitted => exact accounted.isLive_ref bound pointing
  | castOrNull bound => exact accounted.isLive_ref bound (Handle.target_of_castOrNull pointing)
  | part bound usable below =>
    cases pointing
    obtain ⟨parent, -, found⟩ := Option.bind_eq_some_iff.mp (Handle.get_eq_ok_iff.mp usable).1
    exact accounted.counted.isLive_child found (Node.mem_children_of_part? below)
  | projected bound => exact accounted.isLive_projection bound pointing

theorem isLive_leaf {leaf : Option String} {bottom : Option Handle}
    (accounted : Accounted workspace pending spare)
    (bound : leaf.map workspace.refs.get? = bottom.map some)
    (pointing : bottom.bind Handle.target = some id) : workspace.store.IsLive id := by
  obtain ⟨handle, rfl, target⟩ := Option.bind_eq_some_iff.mp pointing
  obtain ⟨name, -, found⟩ := Option.map_eq_some_iff.mp bound
  exact accounted.isLive_ref found target

theorem isLive_below {children : List Projection} {child : Projection}
    (accounted : Accounted workspace pending spare)
    (below : Logged.outcome (projection.children workspace.store) = .ok children)
    (member : child ∈ children) (pointing : child.target = some id) : workspace.store.IsLive id := by
  obtain rfl | ⟨node, found, targets⟩ := Projection.targets_of_children below
  · exact absurd member List.not_mem_nil
  · obtain ⟨parent, -, found⟩ := Option.bind_eq_some_iff.mp found
    have among : some id ∈ node.children.map some := by
      rw [← targets, ← pointing]
      exact List.mem_map_of_mem member
    obtain ⟨_, below, ⟨⟩⟩ := List.mem_map.mp among
    exact accounted.counted.isLive_child found below

theorem of_performed {command : Command} (accounted : Accounted workspace [] none)
    (performed : Performed workspace command next) : Accounted next [] none := by
  cases performed with
  | query query => exact accounted
  | derive derived =>
    exact accounted.putRef _ (fun id pointing => accounted.isLive_derived derived pointing) nofun
  | noChild bound beyond => exact accounted
  | @child ref index as handle child bound below =>
    refine accounted.putRef as (fun id pointing => ?_) nofun
    cases pointing
    cases found : handle.node? workspace.store with
    | none =>
      rw [found] at below
      cases below
    | some node =>
      rw [found] at below
      obtain ⟨parent, -, found⟩ := Option.bind_eq_some_iff.mp found
      exact accounted.counted.isLive_child found (List.mem_of_getElem? below)
  | @build draft typed handover as id made makes =>
    have kept := (accounted.of_made makes).dropRefs (handover.given draft)
    refine kept.putRef as (fun other pointing => ?_) fun other idle => idle
    cases pointing
    exact kept.counted.isLive_spare
  | @chain ref shape count leaf as top bottom target store bound leafBound grown =>
    obtain ⟨spare, counted, live, used⟩ := accounted.counted.grow
      (fun id pointing => accounted.isLive_ref bound pointing)
      (fun id pointing => accounted.isLive_leaf leafBound pointing) nofun grown
    have chained : Accounted { workspace with store } [] spare := { accounted with counted }
    exact chained.putRef as live used
  | reset bound makes admitted =>
    have spare := accounted.of_made makes
    refine spare.putRef _ (fun other pointing => ?_) fun other idle => idle
    cases pointing
    exact spare.counted.isLive_spare
  | drop ref => exact accounted.dropRef ref
  | project bound known =>
    exact accounted.putProjection _ fun id pointing => accounted.isLive_ref bound pointing
  | nullProjection kind as => exact accounted.putProjection as nofun
  | @projectChildren name as projection children bound below =>
    cases as with
    | none => exact accounted
    | some stem =>
      exact accounted.putProjections stem fun child member id pointing =>
        accounted.isLive_below below member pointing
  | dropProjection name => exact accounted.dropProjection name
  | matcher fallback as => exact { accounted with }
  | rule bound parsed => exact { accounted with }
  | fallback bound => exact { accounted with }

theorem of_stepped {command : Command} (accounted : Accounted workspace [] none)
    (stepped : Stepped workspace command next) : Accounted next [] none := by
  cases stepped with
  | performed success => exact accounted.of_performed success
  | failed fails => exact accounted
  | abandoned building fails => exact accounted.dropRefs _

theorem run (commands : List Command) : Accounted (Workspace.empty.run commands).2 [] none :=
  run_of_stepped (fun workspace => Accounted workspace [] none) of_stepped empty commands

end Accounted

/-- After every run the live nodes are those that can be reached from what is held by name, and a
handle counts one holder for every name that holds its node and one for every child edge from a live
node to it. A query changes nothing. -/
theorem holders_exact (commands : List Command) :
    let reached := (empty.run commands).2
    (∀ id, reached.store.IsLive id ↔ reached.store.Reachable reached.held id) ∧
      (∀ static id, (Handle.mk static (some id)).holders reached.store =
        reached.held.count (some id) + reached.store.edges.count id) ∧
      ∀ query, (reached.step (.query query)).2 = reached := by
  intro reached
  have accounted : Accounted reached [] none := .run commands
  refine ⟨?live, ?holders, ?query⟩
  case live => exact fun id => accounted.counted.isLive_iff_reachable
  case holders => exact fun static id => accounted.counted.holders_eq id
  case query => exact fun query => reached.step_query query

/-- A leaf that a name and both sides of a move hold, and the same leaf when the move is gone. -/
example :
    let shared : List Command := [.build (.int 1) true false "leaf",
      .build (.move "leaf" "leaf") true false "pair", .project "pair" "seen"]
    (empty.run shared).2.store.holders 0 = 3 ∧ (empty.run shared).2.store.holders 1 = 2 ∧
      (empty.run (shared ++ [.drop "pair", .dropProjection "seen"])).2.store.holders 0 = 1 := by
  decide +kernel

end Workspace

end ShapeDispatch
