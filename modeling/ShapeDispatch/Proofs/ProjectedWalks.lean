import ShapeDispatch.Proofs.Positions
import ShapeDispatch.Proofs.WholeTrees

/-! A walk through projections. A client that goes down by projecting children never casts, and asks each
projection for the node of its kind on the way. It sees what a client sees that goes down from node to node: the
projection of a node mirrors the node, its children mirror the children of the node in their order, and so both
walks come to the same nodes by every path. -/

namespace ShapeDispatch

open Logged

namespace Projection

def walk (store : Store) (seen : Projection) (path : List Nat) : ExceptT RefError Logged (Option Projection) :=
  descend (children store) path seen

/-- The projection shows the node that the handle shows: the same one, with the tag of its kind, the same
content, the same text and the same nodes for its children. -/
structure Mirrors (store : Store) (handle : Handle) (seen : Projection) (node : Node NodeId) : Prop where
  same : seen.target = handle.target
  usable : handle.get store = .ok node
  content : seen.typed.get store = .ok node
  tag : seen.tag = node.kind
  children : ∃ below, outcome (seen.children store) = .ok below ∧ below.length = seen.tag.arity ∧
    below.map upcast = node.children.map Handle.toNode
  render : ∃ text, handle.render store = .ok text ∧ seen.render store = .ok text

variable {store : Store} {seen : Projection} {node : Node NodeId} {below : List Projection}

theorem forall₂_children (content : seen.typed.get store = .ok node)
    (known : outcome (seen.children store) = .ok below) :
    List.Forall₂ (fun child kid => outcome ((Handle.toNode child).project store) = .ok kid)
      node.children below := by
  have admitted := (Handle.get_eq_ok_iff.mp content).2
  rcases seen with ⟨_ | _ | _, target⟩
  case int =>
    cases known
    cases node with
    | int val => exact .nil
    | mem exp | move dst src => cases admitted
  all_goals
    obtain ⟨node', usable, all⟩ := outcome_bind_eq_ok.mp known
    obtain rfl : node = node' := Except.ok.inj (content.symm.trans ((outcome_ofExcept _).symm.trans usable))
    exact forall₂_of_outcome_mapM all

end Projection

namespace Store.Counted

open Projection (Mirrors)

variable {store : Store} {held : List (Option NodeId)} {spare : Option NodeId} {handle : Handle}
  {node : Node NodeId} {seen : Projection} {id : NodeId}

theorem exists_mirror (counted : Counted store held spare) (usable : handle.get store = .ok node) :
    ∃ seen, outcome (handle.project store) = .ok seen ∧ Mirrors store handle seen node := by
  obtain ⟨here, -⟩ := Handle.get_eq_ok_iff.mp usable
  obtain ⟨id, pointing, found⟩ := Option.bind_eq_some_iff.mp here
  obtain ⟨tree, known, -⟩ := counted.exists_tree found
  obtain ⟨below, comes, targets⟩ := Projection.exists_children counted found
  have kind : handle.kind? store = some node.kind := congrArg (Option.map Node.kind) here
  refine ⟨⟨node.kind, some id⟩, Handle.outcome_project_eq_ok_iff.mpr ⟨_, kind, by rw [pointing]⟩, pointing.symm,
    usable, Handle.get_eq_ok_iff.mpr ⟨found, decide_eq_true rfl⟩, rfl, ⟨below, comes, ?length, ?nodes⟩,
    tree.render, ?handle, ?projection⟩
  case length =>
    have lengths := congrArg List.length targets
    rwa [List.length_map, List.length_map, node.length_children] at lengths
  case nodes =>
    have handles := congrArg (List.map (Handle.mk .node)) targets
    rwa [List.map_map, List.map_map] at handles
  case handle => simp only [Handle.render, Handle.tree?, pointing, Option.bind_some, known]
  case projection =>
    simp only [Projection.render, Projection.typed, Handle.render, Handle.tree?, Option.bind_some, known]

theorem forall₂_mirrors (counted : Counted store held spare) (mirrors : Mirrors store handle seen node) :
    ∃ below, outcome (seen.children store) = .ok below ∧
      List.Forall₂ (fun handle seen => ∃ node, Mirrors store handle seen node)
        (node.children.map Handle.toNode) below := by
  obtain ⟨below, comes, -⟩ := mirrors.children
  refine ⟨below, comes, ?_⟩
  obtain ⟨id, -, found⟩ := Option.bind_eq_some_iff.mp (Handle.get_eq_ok_iff.mp mirrors.usable).1
  have live : ∀ child ∈ node.children, store.IsLive child := fun child => counted.isLive_child found
  have projects := Projection.forall₂_children mirrors.content comes
  rw [List.forall₂_map_left_iff]
  refine ((List.forall₂_and_left _ _).mpr ⟨live, projects⟩).imp fun child kid shown => ?_
  obtain ⟨inner, there⟩ := Option.isSome_iff_exists.mp shown.1
  have usable : (Handle.toNode child).get store = .ok inner := Handle.get_eq_ok_iff.mpr ⟨there, rfl⟩
  obtain ⟨seen', projects', mirrors'⟩ := counted.exists_mirror usable
  obtain rfl : kid = seen' := Except.ok.inj (shown.2.symm.trans projects')
  exact ⟨inner, mirrors'⟩

theorem walk_mirrors (counted : Counted store held spare) (mirrors : Mirrors store handle seen node)
    (path : List Nat) : ∃ reached reached', handle.walk store path = .ok reached ∧
      outcome (seen.walk store path) = .ok reached' ∧
      Option.Rel (fun handle seen => ∃ node, Mirrors store handle seen node) reached reached' := by
  have steps {handle : Handle} {seen : Projection} (related : ∃ node, Mirrors store handle seen node) :
      ∃ children below, handle.children store = .ok children ∧ outcome (seen.children store) = .ok below ∧
        List.Forall₂ (fun handle seen => ∃ node, Mirrors store handle seen node) children below := by
    obtain ⟨node, mirrors⟩ := related
    obtain ⟨below, comes, all⟩ := counted.forall₂_mirrors mirrors
    exact ⟨_, below, Handle.children_eq_ok mirrors.usable, comes, all⟩
  rw [Projection.walk, outcome_descend]
  exact descend_related steps ⟨node, mirrors⟩ path

/-- A walk is no longer than there are older nodes, since each of its steps leads to an older one. -/
theorem length_le_of_walk (counted : Counted store held spare) {reached : Handle} {path : List Nat}
    (pointing : handle.target = some id) (walks : handle.walk store path = .ok (some reached)) :
    path.length ≤ id := by
  induction path generalizing handle id with
  | nil => exact Nat.zero_le id
  | cons index path ih =>
    cases usable : handle.get store with
    | error reason =>
      rw [Handle.walk, descend, Handle.children, usable] at walks
      cases walks
    | ok node =>
      rw [Handle.walk, descend_cons_of_ok (Handle.children_eq_ok usable), List.getElem?_map] at walks
      cases here : node.children[index]? with
      | none =>
        rw [here] at walks
        cases walks
      | some child =>
        rw [here] at walks
        have found := (Handle.get_eq_ok_iff.mp usable).1
        rw [Handle.node?, pointing] at found
        have older := counted.older id node found child (List.mem_of_getElem? here)
        exact Nat.succ_le_of_lt (Nat.lt_of_le_of_lt (ih rfl walks) older)

end Store.Counted

namespace Workspace

/-- After every run a handle that is not empty can be projected, and what is seen by going down from the
projection is what is there by going down from node to node. Neither way down fails by any path, both of them
lead to something or neither does, and what they lead to is the same node with the same content. No way down is
longer than there are older nodes. -/
theorem projections_mirror (commands : List Command) :
    let reached := (empty.run commands).2
    (∀ handle ∈ reached.handles, handle.Honest reached.store) ∧
      ∀ (handle : Handle) (id : NodeId), handle.Honest reached.store → handle.target = some id →
        ∃ seen, outcome (handle.project reached.store) = .ok seen ∧
          ∀ path, ∃ there mirrored, handle.walk reached.store path = .ok there ∧
            outcome (seen.walk reached.store path) = .ok mirrored ∧
            Option.Rel (fun handle seen => ∃ node, Projection.Mirrors reached.store handle seen node)
              there mirrored ∧
            (id < path.length → there = none) := by
  intro reached
  have counted := (Accounted.run commands).counted
  refine ⟨Honest.run commands, fun handle id honest pointing => ?_⟩
  obtain ⟨node, -, usable⟩ := honest.exists_node pointing
  obtain ⟨seen, projects, mirrors⟩ := counted.exists_mirror usable
  refine ⟨seen, projects, fun path => ?_⟩
  obtain ⟨there, mirrored, walks, walks', related⟩ := counted.walk_mirrors mirrors path
  refine ⟨there, mirrored, walks, walks', related, fun long => ?_⟩
  cases there with
  | none => rfl
  | some last => exact absurd (counted.length_le_of_walk pointing walks) (Nat.not_le_of_lt long)

theorem projections_mirror_shared :
    let reached := (empty.run [.build (.int 42) true false "leaf", .build (.mem "leaf") true false "access",
      .build (.move "access" "access") true false "shared"]).2
    (Handle.mk (.exactly .move) (some 2)).Honest reached.store ∧
      ∃ seen, outcome ((Handle.mk (.exactly .move) (some 2)).project reached.store) = .ok seen ∧
        ∃ leaf, outcome (seen.walk reached.store [1, 0]) = .ok (some leaf) ∧ leaf.tag = .int ∧
          leaf.target = some 0 ∧ leaf.typed.get reached.store = .ok (.int 42) := by
  intro reached
  obtain ⟨handles, mirrored⟩ := projections_mirror [.build (.int 42) true false "leaf",
    .build (.mem "leaf") true false "access", .build (.move "access" "access") true false "shared"]
  have honest := handles ⟨.exactly .move, some 2⟩ (by decide +kernel)
  obtain ⟨seen, projects, walks⟩ := mirrored _ 2 honest rfl
  obtain ⟨there, below, walksNodes, walksProjections, related, -⟩ := walks [1, 0]
  have leaf : (Handle.mk (.exactly .move) (some 2)).walk reached.store [1, 0] = .ok (some (.toNode 0)) := by
    decide +kernel
  obtain rfl : there = some (.toNode 0) := Except.ok.inj (walksNodes.symm.trans leaf)
  cases related with
  | some mirrors =>
    obtain ⟨node, mirrors⟩ := mirrors
    have content : (Handle.toNode 0).get reached.store = .ok (.int 42) := by decide +kernel
    obtain rfl : node = .int 42 := Except.ok.inj (mirrors.usable.symm.trans content)
    exact ⟨honest, seen, projects, _, walksProjections, mirrors.tag, mirrors.same, mirrors.content⟩

end Workspace

end ShapeDispatch
