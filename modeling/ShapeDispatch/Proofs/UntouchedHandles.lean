import ShapeDispatch.Proofs.LastingNodes
import ShapeDispatch.Proofs.WrittenNames

/-! What a handle shows does not depend on what is done to others. As long as its name is not written, it
stands for the same node with the same tree below it, whoever shares that node and is reset, dropped or
built over. A reset writes one name and makes one node; what it frees could be reached no other way. -/

namespace ShapeDispatch

namespace Store

variable {before after : Store} {held held' : List (Option NodeId)} {spare spare' : Option NodeId}
  {node : Node NodeId} {id : NodeId}

/-! Freeing and holding make no cells. -/

theorem size_releaseAll (store : Store) (ids : List NodeId) :
    (store.releaseAll ids).cells.size = store.cells.size := by
  fun_induction Store.releaseAll store ids with
  | case1 store => rfl
  | case2 store id pending freed ih => exact ih
  | case3 store id pending cell found last ih => rw [ih, setCell, Array.size_setIfInBounds]
  | case4 store id pending cell found more ih => rw [ih, setCell, Array.size_setIfInBounds]

theorem size_hold (store : Store) (target : Option NodeId) :
    (store.hold target).cells.size = store.cells.size := by
  cases target with
  | none => rfl
  | some id => exact store.size_retain id

theorem size_letGo (store : Store) (target : Option NodeId) :
    (store.letGo target).cells.size = store.cells.size := by
  cases target with
  | none => rfl
  | some id => exact store.size_releaseAll [id]

namespace Counted

theorem node?_eq_of_reachable (counted : Counted before held spare) (counted' : Counted after held' spare')
    (evolves : Evolves before after) {roots : List (Option NodeId)}
    (old : ∀ id, some id ∈ roots → before.IsLive id) (live : ∀ id, some id ∈ roots → after.IsLive id)
    (reachable : Reachable before roots id) : after.IsLive id ∧ after.node? id = before.node? id := by
  induction reachable with
  | root member =>
    have still := live _ member
    exact ⟨still, evolves.node?_eq _ (lt_size_of_isLive (old _ member)) still⟩
  | child above found member ih =>
    have still := counted'.isLive_child (ih.2.trans found) member
    exact ⟨still, evolves.node?_eq _ (lt_size_of_isLive (counted.isLive_child found member)) still⟩

/-- Just those nodes are there that could be reached already, from what is held now or from the children of
the nodes that were made. -/
theorem isLive_iff_reachable_of_evolves (counted' : Counted after held' none) (evolves : Evolves before after)
    {young : List NodeId} (live : ∀ child ∈ young, after.IsLive child)
    (covers : ∀ id node, before.cells.size ≤ id → after.node? id = some node →
      ∀ child ∈ node.children, child ∈ young) :
    after.IsLive id ↔ Reachable before (young.map some ++ held') id := by
  constructor
  · intro live
    have reachable := counted'.reachable_of_isLive live
    clear live
    induction reachable with
    | root member => exact .root (List.mem_append_right _ member)
    | @child parent child node above found member ih =>
      obtain old | new := Nat.lt_or_ge parent before.cells.size
      · have live := counted'.isLive_of_reachable above
        exact .child ih ((evolves.node?_eq parent old live).symm.trans found) member
      · exact .root (List.mem_append_left _ (List.mem_map_of_mem (covers parent node new found child member)))
  · intro reachable
    induction reachable with
    | root member =>
      obtain below | above := List.mem_append.mp member
      · obtain ⟨child, among, ⟨⟩⟩ := List.mem_map.mp below
        exact live _ among
      · exact counted'.isLive_of_mem above
    | @child parent child other above found member ih =>
      have old : parent < before.cells.size := lt_size_of_isLive (by rw [IsLive, found, Option.isSome_some])
      exact counted'.isLive_child ((evolves.node?_eq parent old ih).trans found) member

theorem isLive_iff_reachable_before (counted' : Counted after held' none) (evolves : Evolves before after)
    (grown : after.cells.size = before.cells.size + 1)
    (newest : after.node? before.cells.size = some node) :
    after.IsLive id ↔ Reachable before (node.children.map some ++ held') id := by
  refine counted'.isLive_iff_reachable_of_evolves evolves (fun child member => ?_) ?_
  · exact counted'.isLive_child newest member
  · intro other found young present child member
    have bound := grown ▸ lt_size_of_isLive (by rw [IsLive, present, Option.isSome_some])
    obtain rfl : other = before.cells.size := Nat.le_antisymm (Nat.le_of_lt_succ bound) young
    exact Option.some.inj (present.symm.trans newest) ▸ member

theorem isLive_iff_reachable_still (counted' : Counted after held' none) (evolves : Evolves before after)
    (sameSize : after.cells.size = before.cells.size) : after.IsLive id ↔ Reachable before held' id := by
  refine counted'.isLive_iff_reachable_of_evolves evolves (List.forall_mem_nil _) ?_
  intro other found young present
  have bound := lt_size_of_isLive (by rw [IsLive, present, Option.isSome_some])
  exact absurd (sameSize ▸ young) (Nat.not_le_of_lt bound)

end Counted

end Store

open Store (Evolves)

/-- A handle shows the same in both stores: the node with everything below it, its text, its shape and what
it fits. -/
structure Handle.Unaltered (before after : Store) (handle : Handle) : Prop where
  node? : handle.node? after = handle.node? before
  kind? : handle.kind? after = handle.kind? before
  get : handle.get after = handle.get before
  below : ∀ id, before.Reachable [handle.target] id → after.node? id = before.node? id
  tree? : handle.tree? after = handle.tree? before
  render : handle.render after = handle.render before
  sameShape : ∀ other : Handle, other.tree? after = other.tree? before →
    handle.sameShape after other = handle.sameShape before other
  fits : ∀ (pattern : Pattern) (tag : Kind),
    pattern.fitsSubject (Projection.subject after ⟨tag, handle.target⟩) =
      pattern.fitsSubject (Projection.subject before ⟨tag, handle.target⟩)

theorem Handle.unaltered {before after : Store} {held held' : List (Option NodeId)} {spare spare' : Option NodeId}
    {handle : Handle} (counted : before.Counted held spare) (counted' : after.Counted held' spare')
    (evolves : Evolves before after) (old : ∀ id, handle.target = some id → before.IsLive id)
    (live : ∀ id, handle.target = some id → after.IsLive id) : handle.Unaltered before after := by
  have sameNode : handle.node? after = handle.node? before := by
    cases pointing : handle.target with
    | none => rw [Handle.node?, Handle.node?, pointing, Option.bind_none, Option.bind_none]
    | some id =>
      rw [Handle.node?, Handle.node?, pointing, Option.bind_some, Option.bind_some]
      exact evolves.node?_eq id (Store.lt_size_of_isLive (old id pointing)) (live id pointing)
  have sameTree : handle.tree? after = handle.tree? before := by
    cases pointing : handle.target with
    | none => rw [Handle.tree?, Handle.tree?, pointing, Option.bind_none, Option.bind_none]
    | some id =>
      rw [Handle.tree?, Handle.tree?, pointing, Option.bind_some, Option.bind_some]
      exact counted.tree?_eq_of_evolves counted' evolves (Store.lt_size_of_isLive (old id pointing))
        (live id pointing)
  refine ⟨sameNode, ?kind?, ?get, fun id reachable => ?below, sameTree, ?render, fun other same => ?sameShape,
    fun pattern tag => ?fits⟩
  case kind? => rw [Handle.kind?, sameNode, ← Handle.kind?]
  case get => rw [Handle.get, sameNode, ← Handle.get]
  case below =>
    exact (counted.node?_eq_of_reachable counted' evolves
      (fun root member => old root (List.mem_singleton.mp member).symm)
      (fun root member => live root (List.mem_singleton.mp member).symm) reachable).2
  case render => rw [Handle.render, sameTree, ← Handle.render]
  case sameShape => rw [Handle.sameShape, sameTree, same, ← Handle.sameShape]
  case fits =>
    have sameSubject : (Projection.subject after ⟨tag, handle.target⟩).tree? =
        (Projection.subject before ⟨tag, handle.target⟩).tree? := sameTree
    rw [Pattern.fitsSubject, sameSubject, ← Pattern.fitsSubject]

namespace Workspace

variable {workspace made : Workspace} {draft : Draft} {id : NodeId}

theorem size_dropRef (workspace : Workspace) (name : String) :
    (workspace.dropRef name).store.cells.size = workspace.store.cells.size := by
  rw [dropRef]
  cases workspace.refs.get? name with
  | none => rfl
  | some bound => exact workspace.store.size_letGo bound.target

theorem size_putRef (workspace : Workspace) (name : String) (handle : Handle) :
    (workspace.putRef name handle).store.cells.size = workspace.store.cells.size := by
  have dropped := size_dropRef { workspace with store := workspace.store.hold handle.target } name
  exact dropped.trans (workspace.store.size_hold handle.target)

/-- What a reset changes. The name stands for the youngest node, made over what its names stood for, and all
other names and nodes are as they were. A node is there just if it could be reached already, from what is
held now or from the new node. -/
structure Reset (workspace : Workspace) (ref : String) (draft : Draft) (next : Workspace) : Prop where
  bound : ∃ handle, workspace.refs.get? ref = some handle ∧
    next.refs.get? ref = some ⟨handle.static, some workspace.store.cells.size⟩
  refs : ∀ other, other ≠ ref → next.refs.get? other = workspace.refs.get? other
  projections : next.projections = workspace.projections
  matchers : next.matchers = workspace.matchers
  grown : next.store.cells.size = workspace.store.cells.size + 1
  made : ∃ node, next.store.node? workspace.store.cells.size = some node ∧
    (draft.map fun name => (workspace.refs.get? name).bind Handle.target) = node.map some ∧
    ∀ id, next.store.IsLive id ↔ workspace.store.Reachable (node.children.map some ++ next.held) id
  kept : ∀ id, id ≠ workspace.store.cells.size → next.store.IsLive id →
    next.store.node? id = workspace.store.node? id

theorem Performed.reset_spec {ref : String} {next : Workspace} (accounted : Accounted workspace [] none)
    (performed : Performed workspace (.reset ref draft) next) : Reset workspace ref draft next := by
  have accounted' := accounted.of_performed performed
  have evolves := performed.evolves
  cases performed with
  | @reset _ _ handle id made bound makes admitted =>
    obtain ⟨rfl, grows, node, newest, children⟩ := makes.exists_node
    let renewed : Handle := ⟨handle.static, some workspace.store.cells.size⟩
    have rebound : (made.putRef ref renewed).refs.get? ref = some renewed := Bindings.get?_set_self _ ref renewed
    have grown : (made.putRef ref renewed).store.cells.size = workspace.store.cells.size + 1 :=
      (size_putRef made ref renewed).trans grows
    have stays := (evolves_putRef made ref renewed).node?_eq workspace.store.cells.size
      (grows ▸ Nat.lt_succ_self _) (accounted'.isLive_ref rebound rfl)
    refine ⟨⟨handle, bound, rebound⟩, fun other different => ?refs, ?projections, ?matchers, grown,
      ⟨node, stays.trans newest, children, fun id => ?live⟩, fun id different live => ?kept⟩
    case refs => rw [get?_refs_putRef made renewed different, makes.refs]
    case projections => rw [projections_putRef, makes.projections]
    case matchers => rw [matchers_putRef, makes.matchers]
    case live =>
      exact accounted'.counted.isLive_iff_reachable_before evolves grown (stays.trans newest)
    case kept =>
      have bounded := grown ▸ Store.lt_size_of_isLive live
      exact evolves.node?_eq id (Nat.lt_of_le_of_ne (Nat.le_of_lt_succ bounded) different) live

/-- Through any run after any other, a reference and a projection whose names are not written stand for what
they stood for and show what they showed. A reset that succeeds changes no more than it says, and one that
fails changes nothing. -/
theorem changes_local (before after : List Command) :
    let reached := (empty.run before).2
    let later := (reached.run after).2
    (∀ name handle, reached.refs.get? name = some handle → name ∉ reached.writtenRefs after →
        later.refs.get? name = some handle ∧ handle.Unaltered reached.store later.store) ∧
      (∀ name projection, reached.projections.get? name = some projection →
        name ∉ reached.writtenProjections after → later.projections.get? name = some projection ∧
          projection.typed.Unaltered reached.store later.store) ∧
      ∀ ref draft,
        (∀ reply, (reached.step (.reset ref draft)).1.value = .ok reply →
          Reset reached ref draft (reached.step (.reset ref draft)).2) ∧
        ∀ failure, (reached.step (.reset ref draft)).1.value = .error failure →
          (reached.step (.reset ref draft)).2 = reached := by
  intro reached later
  have accounted : Accounted reached [] none := .run before
  have accounted' : Accounted later [] none :=
    run_of_stepped (Accounted · [] none) Accounted.of_stepped accounted after
  have evolves : Evolves reached.store later.store := reached.evolves_run after
  refine ⟨?refs, ?projections, fun ref draft => ?reset⟩
  case refs =>
    intro name handle bound kept
    have still : later.refs.get? name = some handle := (get?_refs_run kept).trans bound
    exact ⟨still, Handle.unaltered accounted.counted accounted'.counted evolves
      (fun _ => accounted.isLive_ref bound) fun _ => accounted'.isLive_ref still⟩
  case projections =>
    intro name projection bound kept
    have still : later.projections.get? name = some projection := (get?_projections_run kept).trans bound
    exact ⟨still, Handle.unaltered accounted.counted accounted'.counted evolves
      (fun _ => accounted.isLive_projection bound) fun _ => accounted'.isLive_projection still⟩
  case reset =>
    cases result : Logged.outcome (reached.perform (.reset ref draft)) with
    | ok performed =>
      obtain ⟨replies, leaves⟩ := step_of_outcome_eq_ok result
      rw [replies, leaves]
      exact ⟨fun _ _ => (performed_of_perform result).reset_spec accounted, nofun⟩
    | error failure =>
      obtain ⟨replies, leaves⟩ := step_of_outcome_eq_error result
      rw [replies, leaves]
      exact ⟨nofun, fun _ _ => rfl⟩

/-- A leaf under a name and in a projection, while its other holders are reset, given away and dropped. A cast
that fails and a child that is not there leave the name alone, and so does a reset over nothing. -/
theorem changes_local_shared :
    let before : List Command := [.build (.int 7) true false "leaf", .derive (.upcast "leaf") "alias",
      .build (.mem "leaf") false false "above", .project "leaf" "seen",
      .derive (.null .node) "none"]
    let after : List Command := [.reset "alias" (.move "above" "alias"),
      .derive (.cast "above" (.exactly .int)) "leaf", .drop "above",
      .build (.mem "alias") true true "above", .child "leaf" 0 "leaf"]
    let reached := (empty.run before).2
    let later := (reached.run after).2
    (reached.refs.get? "leaf" = some ⟨.exactly .int, some 0⟩ ∧ "leaf" ∉ reached.writtenRefs after) ∧
      (reached.projections.get? "seen" = some ⟨.int, some 0⟩ ∧
        "seen" ∉ reached.writtenProjections after) ∧
      (later.refs.get? "leaf" = some ⟨.exactly .int, some 0⟩ ∧
        (Handle.mk (.exactly .int) (some 0)).Unaltered reached.store later.store) ∧
      later.projections.get? "seen" = some ⟨.int, some 0⟩ ∧
      (∃ reply, (reached.step (.reset "alias" (.move "above" "alias"))).1.value = .ok reply) ∧
      Reset reached "alias" (.move "above" "alias") (reached.step (.reset "alias" (.move "above" "alias"))).2 ∧
      (∃ failure, (reached.step (.reset "alias" (.mem "none"))).1.value = .error failure) ∧
      (reached.step (.reset "alias" (.mem "none"))).2 = reached := by
  intro before after
  obtain ⟨refs, projections, resets⟩ := changes_local before after
  have bound : (empty.run before).2.refs.get? "leaf" = some ⟨.exactly .int, some 0⟩ := by decide +kernel
  have kept : "leaf" ∉ (empty.run before).2.writtenRefs after := by decide +kernel
  have seen : (empty.run before).2.projections.get? "seen" = some ⟨.int, some 0⟩ := by decide +kernel
  have keptSeen : "seen" ∉ (empty.run before).2.writtenProjections after := by decide +kernel
  have answered : ((empty.run before).2.step (.reset "alias" (.move "above" "alias"))).1.value.isOk = true := by
    decide +kernel
  have refused : ((empty.run before).2.step (.reset "alias" (.mem "none"))).1.value.isOk = false := by
    decide +kernel
  obtain ⟨reply, succeeds⟩ : ∃ reply,
      ((empty.run before).2.step (.reset "alias" (.move "above" "alias"))).1.value = .ok reply := by
    cases result : ((empty.run before).2.step (.reset "alias" (.move "above" "alias"))).1.value with
    | ok reply => exact ⟨reply, rfl⟩
    | error failure => exact nomatch result ▸ answered
  obtain ⟨failure, fails⟩ : ∃ failure,
      ((empty.run before).2.step (.reset "alias" (.mem "none"))).1.value = .error failure := by
    cases result : ((empty.run before).2.step (.reset "alias" (.mem "none"))).1.value with
    | ok reply => exact nomatch result ▸ refused
    | error failure => exact ⟨failure, rfl⟩
  exact ⟨⟨bound, kept⟩, ⟨seen, keptSeen⟩, refs _ _ bound kept, (projections _ _ seen keptSeen).1,
    ⟨reply, succeeds⟩, (resets _ _).1 reply succeeds, ⟨failure, fails⟩, (resets _ _).2 failure fails⟩

end Workspace

end ShapeDispatch
