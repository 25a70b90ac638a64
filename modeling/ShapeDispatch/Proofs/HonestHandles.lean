import ShapeDispatch.Proofs.LastingNodes

/-! What the declared kind of a handle is worth. Handles are declared anew by many commands, some of which
never look at the node, and still no run leads to a handle whose node is of a kind that its declaration
does not admit. A handle is empty or it can be used as declared. -/

namespace ShapeDispatch

open Store (Evolves)

namespace Handle

variable {store before after : Store} {handle : Handle} {static : StaticKind} {target : Option NodeId}

/-- The handle is empty, or its node is of a kind that the declaration admits. -/
def Honest (store : Store) (handle : Handle) : Prop :=
  ∀ id, handle.target = some id → ∃ kind, store.kind? id = some kind ∧ handle.static.admits kind = true

theorem honest_null (static : StaticKind) : Honest store ⟨static, none⟩ := nofun

theorem honest_of_kind? {kind : Kind} (known : handle.kind? store = some kind)
    (admitted : static.admits kind = true) : Honest store ⟨static, handle.target⟩ := by
  intro id pointing
  rw [kind?, node?, pointing, Option.bind_some] at known
  exact ⟨kind, known, admitted⟩

theorem honest_node (live : ∀ id, target = some id → store.IsLive id) : Honest store ⟨.node, target⟩ := by
  intro id pointing
  obtain ⟨node, found⟩ := Option.isSome_iff_exists.mp (live id pointing)
  exact ⟨node.kind, by rw [Store.kind?, found, Option.map_some], rfl⟩

theorem Honest.isLive {id : NodeId} (honest : handle.Honest store) (pointing : handle.target = some id) :
    store.IsLive id := by
  obtain ⟨kind, known, -⟩ := honest id pointing
  rw [Store.IsLive, ← Option.isSome_map, ← Store.kind?, known, Option.isSome_some]

theorem Honest.exists_node {id : NodeId} (honest : handle.Honest store) (pointing : handle.target = some id) :
    ∃ node, store.node? id = some node ∧ handle.get store = .ok node := by
  obtain ⟨kind, known, admitted⟩ := honest id pointing
  obtain ⟨node, found, rfl⟩ := Option.map_eq_some_iff.mp known
  have here : handle.node? store = some node := by rw [node?, pointing, Option.bind_some, found]
  exact ⟨node, found, get_eq_ok_iff.mpr ⟨here, admitted⟩⟩

theorem honest_castOrNull (wanted : StaticKind) : (handle.castOrNull store wanted).Honest store := by
  unfold castOrNull
  split
  next => exact honest_null wanted
  next kind known =>
    split
    next admitted => exact honest_of_kind? known admitted
    next => exact honest_null wanted

theorem Honest.evolve (honest : handle.Honest before) (evolves : Evolves before after)
    (live : ∀ id, handle.target = some id → after.IsLive id) : handle.Honest after := by
  intro id pointing
  obtain ⟨kind, known, admitted⟩ := honest id pointing
  have old := Store.lt_size_of_isLive (honest.isLive pointing)
  refine ⟨kind, ?_, admitted⟩
  rw [Store.kind?, evolves.node?_eq id old (live id pointing), ← Store.kind?, known]

/-- What a client can rely on. An empty handle says so wherever its node is asked for, and any other one
gives its node, whose kind and identity its projection shows. -/
structure Reliable (store : Store) (handle : Handle) : Prop where
  promised : handle.target = none ∨
    ∃ kind, handle.kind? store = some kind ∧ handle.static.admits kind = true
  get_null : handle.target = none → handle.get store = .error (.nullReference handle.static)
  get_node : ∀ id, handle.target = some id → ∃ node, store.node? id = some node ∧
    handle.get store = .ok node
  deref : ∀ fault, handle.deref store = .error fault →
    handle.target = none ∧ fault = .dereference (.nullReference handle.static)
  project : ∀ id, handle.target = some id → ∃ kind, handle.kind? store = some kind ∧
    Logged.outcome (handle.project store) = .ok ⟨kind, some id⟩ ∧
    (Projection.mk kind (some id)).upcast.same handle = true

theorem Honest.reliable (honest : handle.Honest store) : handle.Reliable store := by
  rcases handle with ⟨static, _ | id⟩
  · refine ⟨.inl rfl, fun _ => rfl, nofun, fun fault fails => ⟨rfl, ?_⟩, nofun⟩
    cases fails
    rfl
  · obtain ⟨kind, known, admitted⟩ := honest id rfl
    obtain ⟨node, found, rfl⟩ := Option.map_eq_some_iff.mp known
    have usable : (Handle.mk static (some id)).get store = .ok node := get_eq_ok_iff.mpr ⟨found, admitted⟩
    refine ⟨.inr ⟨node.kind, known, admitted⟩, nofun, ?node, ?deref, ?project⟩
    case node =>
      rintro _ ⟨⟩
      exact ⟨node, found, usable⟩
    case deref =>
      intro fault fails
      rw [deref_eq_ok_iff.mpr usable] at fails
      cases fails
    case project =>
      rintro _ ⟨⟩
      refine ⟨node.kind, known, outcome_project_eq_ok_iff.mpr ⟨node.kind, known, rfl⟩, ?_⟩
      exact decide_eq_true rfl

end Handle

theorem Logged.exists_of_mem_outcome_mapM {α β ε : Type} {act : α → ExceptT ε Logged β} {items : List α}
    {results : List β} {result : β} (all : outcome (items.mapM act) = .ok results)
    (member : result ∈ results) : ∃ item ∈ items, outcome (act item) = .ok result := by
  have each := forall₂_of_outcome_mapM all
  clear all
  induction each with
  | nil => exact absurd member List.not_mem_nil
  | @cons item first items results acts _ ih =>
    obtain rfl | later := List.mem_cons.mp member
    · exact ⟨item, List.mem_cons_self, acts⟩
    · obtain ⟨other, among, acts⟩ := ih later
      exact ⟨other, List.mem_cons_of_mem item among, acts⟩

theorem Projection.exists_of_mem_children {store : Store} {projection child : Projection}
    {children : List Projection} (below : Logged.outcome (projection.children store) = .ok children)
    (member : child ∈ children) :
    ∃ id, Logged.outcome ((Handle.toNode id).project store) = .ok child := by
  rcases projection with ⟨_ | _ | _, target⟩
  case int =>
    cases below
    exact absurd member List.not_mem_nil
  all_goals
    obtain ⟨node, -, all⟩ := Logged.outcome_bind_eq_ok.mp below
    obtain ⟨id, -, projects⟩ := Logged.exists_of_mem_outcome_mapM all member
    exact ⟨id, projects⟩

theorem Projection.honest_of_mem_children {store : Store} {projection child : Projection}
    {children : List Projection} (below : Logged.outcome (projection.children store) = .ok children)
    (member : child ∈ children) : child.typed.Honest store := by
  obtain ⟨id, projects⟩ := exists_of_mem_children below member
  obtain ⟨kind, known, rfl⟩ := Handle.outcome_project_eq_ok_iff.mp projects
  exact Handle.honest_of_kind? known (decide_eq_true rfl)

namespace Workspace

variable {workspace next made : Workspace} {handle other : Handle} {name : String}

/-- Everything that is held by name, a projection as the handle declared with its tag. -/
def handles (workspace : Workspace) : List Handle :=
  workspace.refs.values ++ workspace.projections.values.map Projection.typed

theorem targets_handles (workspace : Workspace) :
    workspace.handles.map Handle.target = workspace.held := by
  rw [handles, held, List.map_append, List.map_map]
  rfl

theorem mem_handles_of_ref (bound : workspace.refs.get? name = some handle) :
    handle ∈ workspace.handles :=
  List.mem_append_left _ (Bindings.mem_values_of_get? bound)

/-! Which handles are held after a name has changed. -/

theorem mem_handles_of_dropRef (member : handle ∈ (workspace.dropRef name).handles) :
    handle ∈ workspace.handles := by
  rw [dropRef] at member
  cases bound : workspace.refs.get? name with
  | none => rwa [bound] at member
  | some dropped =>
    rw [bound] at member
    have fewer := (workspace.refs.entries_erase_sublist name).map Prod.snd
    exact (fewer.append_right _).subset member

theorem mem_handles_of_dropRefs {names : List String}
    (member : handle ∈ (workspace.dropRefs names).handles) : handle ∈ workspace.handles := by
  induction names generalizing workspace with
  | nil => exact member
  | cons name names ih => exact mem_handles_of_dropRef (ih member)

theorem mem_handles_of_dropProjection (member : handle ∈ (workspace.dropProjection name).handles) :
    handle ∈ workspace.handles := by
  rw [dropProjection] at member
  cases bound : workspace.projections.get? name with
  | none => rwa [bound] at member
  | some dropped =>
    rw [bound] at member
    have fewer := (workspace.projections.entries_erase_sublist name).map Prod.snd
    exact ((fewer.map Projection.typed).append_left _).subset member

theorem mem_handles_of_putRef (member : handle ∈ (workspace.putRef name other).handles) :
    handle = other ∨ handle ∈ workspace.handles := by
  let holding := { workspace with store := workspace.store.hold other.target }
  let dropped := holding.dropRef name
  change handle ∈ (other :: (dropped.refs.erase name).values) ++ dropped.projections.values.map _ at member
  obtain new | old := List.mem_cons.mp member
  · exact .inl new
  · have fewer := (dropped.refs.entries_erase_sublist name).map Prod.snd
    have held : handle ∈ (holding.dropRef name).handles := (fewer.append_right _).subset old
    have before : handle ∈ holding.handles := mem_handles_of_dropRef held
    exact .inr before

theorem mem_handles_of_rebindProjection {projection : Projection}
    (member : handle ∈ (workspace.rebindProjection name projection).handles) :
    handle = projection.typed ∨ handle ∈ workspace.handles := by
  let dropped := workspace.dropProjection name
  change handle ∈ dropped.refs.values ++
    (projection.typed :: (dropped.projections.erase name).values.map Projection.typed) at member
  obtain new | old := List.mem_cons.mp (List.perm_middle.mem_iff.mp member)
  · exact .inl new
  · have fewer := (dropped.projections.entries_erase_sublist name).map Prod.snd
    have held : handle ∈ dropped.handles := ((fewer.map Projection.typed).append_left _).subset old
    exact .inr (mem_handles_of_dropProjection held)

theorem mem_handles_of_putProjection {projection : Projection}
    (member : handle ∈ (workspace.putProjection name projection).handles) :
    handle = projection.typed ∨ handle ∈ workspace.handles := by
  let holding := { workspace with store := workspace.store.hold projection.target }
  have bound : handle = projection.typed ∨ handle ∈ holding.handles := mem_handles_of_rebindProjection member
  exact bound

theorem mem_handles_of_rebindAll {stem : String} {entries : List (Projection × Nat)}
    (member : handle ∈ (entries.foldl (fun workspace (projection, index) =>
      workspace.rebindProjection (stem ++ toString index) projection) workspace).handles) :
    (∃ entry ∈ entries, handle = entry.1.typed) ∨ handle ∈ workspace.handles := by
  induction entries generalizing workspace with
  | nil => exact .inr member
  | cons entry entries ih =>
    obtain ⟨later, among, same⟩ | held := ih member
    · exact .inl ⟨later, List.mem_cons_of_mem entry among, same⟩
    · obtain new | old := mem_handles_of_rebindProjection held
      · exact .inl ⟨entry, List.mem_cons_self, new⟩
      · exact .inr old

theorem mem_handles_of_putProjections {stem : String} {projections : List Projection}
    (member : handle ∈ (workspace.putProjections stem projections).handles) :
    (∃ projection ∈ projections, handle = projection.typed) ∨ handle ∈ workspace.handles := by
  obtain ⟨entry, among, same⟩ | old := mem_handles_of_rebindAll member
  · exact .inl ⟨entry.1, List.fst_mem_of_mem_zipIdx among, same⟩
  · exact .inr old

/-! Where the handles come from. -/

def Honest (workspace : Workspace) : Prop :=
  ∀ handle ∈ workspace.handles, handle.Honest workspace.store

theorem Made.kind? {draft : Draft} {id : NodeId} (makes : Made workspace draft id made) :
    made.store.kind? id = some draft.kind := by
  obtain ⟨-, -, node, found, children⟩ := makes.exists_node
  have kinds : draft.kind = node.kind := calc
    draft.kind = (draft.map fun name => (workspace.refs.get? name).bind Handle.target).kind :=
      (Node.kind_map _ draft).symm
    _ = node.kind := by rw [children, Node.kind_map]
  rw [kinds, Store.kind?, found, Option.map_some]

theorem Made.handles {draft : Draft} {id : NodeId} (makes : Made workspace draft id made) :
    made.handles = workspace.handles := by
  cases makes
  rfl

theorem Made.honest {draft : Draft} {id : NodeId} {static : StaticKind} (makes : Made workspace draft id made)
    (admitted : static.admits draft.kind = true) : Handle.Honest made.store ⟨static, some id⟩ := by
  rintro _ ⟨⟩
  exact ⟨draft.kind, makes.kind?, admitted⟩

theorem Derived.honest {derivation : Derivation} (accounted : Accounted workspace [] none)
    (honest : workspace.Honest) (derived : Derived workspace derivation handle) :
    handle.Honest workspace.store := by
  have live : ∀ id, handle.target = some id → workspace.store.IsLive id :=
    fun _ pointing => accounted.isLive_derived derived pointing
  cases derived with
  | null static => exact Handle.honest_null static
  | clone bound => exact honest handle (mem_handles_of_ref bound)
  | cast bound known admitted => exact Handle.honest_of_kind? known admitted
  | castOrNull bound => exact Handle.honest_castOrNull _
  | upcast | part | projected => exact Handle.honest_node live

theorem Accounted.isLive_listed {pending : List (Option NodeId)} {spare : Option NodeId} {index : Nat}
    {child : NodeId} (accounted : Accounted workspace pending spare)
    (below : ((handle.node? workspace.store).elim [] Node.children)[index]? = some child) :
    workspace.store.IsLive child := by
  cases known : handle.node? workspace.store with
  | none =>
    rw [known] at below
    cases below
  | some node =>
    rw [known] at below
    obtain ⟨parent, -, found⟩ := Option.bind_eq_some_iff.mp known
    exact accounted.counted.isLive_child found (List.mem_of_getElem? below)

/-- A handle that is held after a command kept its promise in some store on the way. -/
theorem Performed.exists_honest {command : Command} (accounted : Accounted workspace [] none)
    (honest : workspace.Honest) (performed : Performed workspace command next)
    (member : handle ∈ next.handles) :
    ∃ source, handle.Honest source ∧ Evolves source next.store := by
  have old (held : handle ∈ workspace.handles) :
      ∃ source, handle.Honest source ∧ Evolves source next.store :=
    ⟨workspace.store, honest handle held, performed.evolves⟩
  cases performed with
  | query | noChild | matcher | rule | fallback => exact old member
  | derive derived =>
    obtain rfl | held := mem_handles_of_putRef member
    · exact ⟨workspace.store, derived.honest accounted honest, evolves_putRef _ _ _⟩
    · exact old held
  | @child ref index as parent child bound below =>
    obtain rfl | held := mem_handles_of_putRef member
    · refine ⟨workspace.store, Handle.honest_node ?_, evolves_putRef _ _ _⟩
      rintro _ ⟨⟩
      exact accounted.isLive_listed below
    · exact old held
  | @build draft typed handover as id made makes =>
    obtain rfl | held := mem_handles_of_putRef member
    · refine ⟨made.store, makes.honest ?admitted, ?evolves⟩
      case admitted =>
        cases typed with
        | false => rfl
        | true => exact decide_eq_true rfl
      case evolves => exact (evolves_dropRefs made _).trans (evolves_putRef _ _ _)
    · exact old (makes.handles ▸ mem_handles_of_dropRefs held)
  | @chain ref shape count leaf as top bottom target store bound leafBound grown =>
    obtain rfl | held := mem_handles_of_putRef member
    · obtain ⟨_, _, live, _⟩ := accounted.counted.grow
        (fun id pointing => accounted.isLive_ref bound pointing)
        (fun id pointing => accounted.isLive_leaf leafBound pointing) nofun grown
      exact ⟨store, Handle.honest_node live, evolves_putRef { workspace with store } as ⟨.node, target⟩⟩
    · exact old held
  | reset bound makes admitted =>
    obtain rfl | held := mem_handles_of_putRef member
    · exact ⟨_, makes.honest admitted, evolves_putRef _ _ _⟩
    · exact old (makes.handles ▸ held)
  | drop ref => exact old (mem_handles_of_dropRef member)
  | project bound known =>
    obtain rfl | held := mem_handles_of_putProjection member
    · exact ⟨workspace.store, Handle.honest_of_kind? known (decide_eq_true rfl), evolves_putProjection _ _ _⟩
    · exact old held
  | nullProjection kind as =>
    obtain rfl | held := mem_handles_of_putProjection member
    · exact ⟨workspace.store, Handle.honest_null _, evolves_putProjection _ _ _⟩
    · exact old held
  | @projectChildren name as projection children bound below =>
    cases as with
    | none => exact old member
    | some stem =>
      obtain ⟨child, among, rfl⟩ | held := mem_handles_of_putProjections member
      · exact ⟨workspace.store, Projection.honest_of_mem_children below among,
          evolves_putProjections workspace stem children⟩
      · exact old held
  | dropProjection name => exact old (mem_handles_of_dropProjection member)

theorem Stepped.exists_honest {command : Command} (accounted : Accounted workspace [] none)
    (honest : workspace.Honest) (stepped : Stepped workspace command next)
    (member : handle ∈ next.handles) :
    ∃ source, handle.Honest source ∧ Evolves source next.store := by
  cases stepped with
  | performed success => exact success.exists_honest accounted honest member
  | failed => exact ⟨workspace.store, honest handle member, .refl workspace.store⟩
  | abandoned => exact ⟨workspace.store, honest handle (mem_handles_of_dropRefs member), evolves_dropRefs _ _⟩

theorem Accounted.isLive_handle {pending : List (Option NodeId)} {spare : Option NodeId} {id : NodeId}
    (accounted : Accounted workspace pending spare) (member : handle ∈ workspace.handles)
    (pointing : handle.target = some id) : workspace.store.IsLive id := by
  apply accounted.counted.isLive_of_mem
  rw [← pointing, ← targets_handles]
  exact List.mem_append_right _ (List.mem_map_of_mem member)

theorem Honest.of_stepped {command : Command} (accounted : Accounted workspace [] none)
    (honest : workspace.Honest) (stepped : Stepped workspace command next) : next.Honest := by
  intro handle member
  obtain ⟨source, kept, evolves⟩ := stepped.exists_honest accounted honest member
  -- A handle that is held keeps its node alive, so the node is still what it was when the promise was kept.
  exact kept.evolve evolves fun id pointing => (accounted.of_stepped stepped).isLive_handle member pointing

theorem Honest.run (commands : List Command) : (empty.run commands).2.Honest := by
  have both := run_of_stepped (fun workspace => Accounted workspace [] none ∧ workspace.Honest)
    (fun holds stepped => ⟨holds.1.of_stepped stepped, holds.2.of_stepped holds.1 stepped⟩)
    ⟨Accounted.empty, fun handle member => absurd member List.not_mem_nil⟩ commands
  exact both.2

/-- After every run a client can rely on every handle that is held, on the tags of projections and on the
children of every node: none of them leads to a node of another kind than it says. -/
theorem handles_reliable (commands : List Command) :
    let reached := (empty.run commands).2
    (∀ handle ∈ reached.handles, handle.Reliable reached.store) ∧
      (∀ projection ∈ reached.projections.values,
        projection.target = none ∨ projection.kind? reached.store = some projection.tag) ∧
      ∀ child ∈ reached.store.edges, (Handle.toNode child).Reliable reached.store := by
  intro reached
  have honest : reached.Honest := .run commands
  refine ⟨fun handle member => (honest handle member).reliable, ?tags, ?children⟩
  case tags =>
    intro projection member
    have held : projection.typed ∈ reached.handles :=
      List.mem_append_right _ (List.mem_map_of_mem member)
    obtain empty | ⟨kind, known, admitted⟩ := (honest _ held).reliable.promised
    · exact .inl empty
    · obtain rfl := (StaticKind.admits_exactly projection.tag kind).mp admitted
      exact .inr known
  case children =>
    intro child member
    obtain ⟨parent, node, found, below⟩ := Store.mem_edges_iff.mp member
    refine (Handle.honest_node ?_).reliable
    rintro _ ⟨⟩
    exact (Accounted.run commands).counted.isLive_child found below

theorem handles_reliable_redeclared :
    let reached := (empty.run [.build (.int 7) true false "leaf", .derive (.upcast "leaf") "any",
      .derive (.castOrNull "any" (.exactly .mem)) "none", .project "any" "seen", .reset "any" (.mem "leaf")]).2
    Handle.mk .node (some 1) ∈ reached.handles ∧ Handle.mk (.exactly .mem) none ∈ reached.handles ∧
      Projection.mk .int (some 0) ∈ reached.projections.values ∧ 0 ∈ reached.store.edges ∧
      (Handle.mk .node (some 1)).Reliable reached.store ∧
      (Handle.mk (.exactly .mem) none).get reached.store = .error (.nullReference (.exactly .mem)) ∧
      (Projection.mk .int (some 0)).kind? reached.store = some .int ∧
      (Handle.toNode 0).Reliable reached.store := by
  intro reached
  have above : Handle.mk .node (some 1) ∈ reached.handles := by decide +kernel
  have absent : Handle.mk (.exactly .mem) none ∈ reached.handles := by decide +kernel
  have seen : Projection.mk .int (some 0) ∈ reached.projections.values := by decide +kernel
  have below : 0 ∈ reached.store.edges := by decide +kernel
  obtain ⟨handles, tags, children⟩ := handles_reliable _
  exact ⟨above, absent, seen, below, handles _ above, (handles _ absent).get_null rfl,
    (tags _ seen).resolve_left nofun, children _ below⟩

end Workspace

end ShapeDispatch
