import Mathlib.Logic.Relation
import ShapeDispatch.Proofs.HonestHandles

/-! No child is ever missing. A node is made over nodes that are there and holds them from then on, so every
way down from a handle ends at integers. What asks for each node in turn on its way through a tree finds
all of them, and answers as the tree does. -/

namespace ShapeDispatch

/-- A way down through the children of nodes. It fails at a child that is missing or not older than its
parent; where it succeeds, it came to an end. -/
abbrev Descent := Except NodeId

namespace Descent

variable (store : Store)

def visit (id : NodeId) : Descent { node : Node NodeId // ∀ child ∈ node.children, child < id } :=
  match store.node? id with
  | none => throw id
  | some node =>
    if older : ∀ child ∈ node.children, child < id then return ⟨node, older⟩ else throw id

def render (id : NodeId) : Descent String := do
  match ← visit store id with
  | ⟨.int val, _⟩ => return toString val.toInt
  | ⟨.mem exp, older⟩ =>
    have := older exp List.mem_cons_self
    return "Mem(" ++ (← render exp) ++ ")"
  | ⟨.move dst src, older⟩ =>
    have := older dst List.mem_cons_self
    have := older src (List.mem_cons_of_mem dst List.mem_cons_self)
    return "Move(" ++ (← render dst) ++ "," ++ (← render src) ++ ")"
termination_by id

def sameShape (a b : NodeId) : Descent Bool := do
  match ← visit store a, ← visit store b with
  | ⟨.int _, _⟩, ⟨.int _, _⟩ => return true
  | ⟨.mem first, older⟩, ⟨.mem second, _⟩ =>
    have := older first List.mem_cons_self
    sameShape first second
  | ⟨.move left right, older⟩, ⟨.move left' right', _⟩ =>
    have := older left List.mem_cons_self
    have := older right (List.mem_cons_of_mem left List.mem_cons_self)
    -- The sources are not visited where the destinations are unlike.
    if ← sameShape left left' then sameShape right right' else return false
  | _, _ => return false
termination_by a

def fits : Pattern → NodeId → Descent Bool
  -- The node is visited even where its content does not matter.
  | .any, id => do
    let _ ← visit store id
    return true
  | .int, id => do
    match ← visit store id with
    | ⟨.int _, _⟩ => return true
    | _ => return false
  | .mem exp, id => do
    match ← visit store id with
    | ⟨.mem child, _⟩ => fits exp child
    | _ => return false
  | .move dst src, id => do
    match ← visit store id with
    | ⟨.move left right, _⟩ => if ← fits dst left then fits src right else return false
    | _ => return false
  | .moveAlike, id => do
    match ← visit store id with
    | ⟨.move left right, _⟩ => sameShape store left right
    | _ => return false

end Descent

namespace Store

variable {store : Store} {id other : NodeId} {node : Node NodeId} {tree otherTree : Tree}

/-- The tree that comes of visiting a node and what is below it, down to the integers. -/
inductive Unfolds (store : Store) : NodeId → Tree → Prop where
  | int {id : NodeId} {val : Int64} {older : ∀ child ∈ (Node.int val).children, child < id}
      (visits : Descent.visit store id = pure ⟨.int val, older⟩) : Unfolds store id (.int val)
  | mem {id exp : NodeId} {tree : Tree} {older : ∀ child ∈ (Node.mem exp).children, child < id}
      (visits : Descent.visit store id = pure ⟨.mem exp, older⟩) (inner : Unfolds store exp tree) :
      Unfolds store id (.mem tree)
  | move {id dst src : NodeId} {left right : Tree} {older : ∀ child ∈ (Node.move dst src).children, child < id}
      (visits : Descent.visit store id = pure ⟨.move dst src, older⟩) (first : Unfolds store dst left)
      (second : Unfolds store src right) : Unfolds store id (.move left right)

def ChildOf (store : Store) (child parent : NodeId) : Prop :=
  ∃ node, store.node? parent = some node ∧ child ∈ node.children

namespace Unfolds

theorem render (unfolds : store.Unfolds id tree) : Descent.render store id = pure tree.render := by
  induction unfolds with
  | int visits =>
    rw [Descent.render, visits]
    rfl
  | mem visits inner ih =>
    rw [Descent.render, visits]
    simp only [pure_bind, ih]
    rfl
  | move visits first second ihFirst ihSecond =>
    rw [Descent.render, visits]
    simp only [pure_bind, ihFirst, ihSecond]
    rfl

theorem sameShape (first : store.Unfolds id tree) (second : store.Unfolds other otherTree) :
    Descent.sameShape store id other = pure (tree.sameShape otherTree) := by
  induction first generalizing other otherTree with
  | int visits =>
    cases second with
    | int there | mem there | move there =>
      rw [Descent.sameShape, visits, there]
      rfl
  | mem visits inner ih =>
    cases second with
    | mem there below =>
      rw [Descent.sameShape, visits, there]
      exact ih below
    | int there | move there =>
      rw [Descent.sameShape, visits, there]
      rfl
  | move visits left right ihLeft ihRight =>
    cases second with
    | move there left' right' =>
      rw [Descent.sameShape, visits, there]
      simp only [pure_bind, ihLeft left', ihRight right', Tree.sameShape]
      cases Tree.sameShape _ _ <;> rfl
    | int there | mem there =>
      rw [Descent.sameShape, visits, there]
      rfl

theorem fits (unfolds : store.Unfolds id tree) (pattern : Pattern) :
    Descent.fits store pattern id = pure (pattern.fits tree) := by
  induction pattern generalizing id tree with
  | any =>
    cases unfolds with
    | int visits | mem visits | move visits =>
      rw [Descent.fits, visits]
      rfl
  | int =>
    cases unfolds with
    | int visits | mem visits | move visits =>
      rw [Descent.fits, visits]
      rfl
  | mem exp ih =>
    cases unfolds with
    | mem visits inner =>
      rw [Descent.fits, visits]
      exact ih inner
    | int visits | move visits =>
      rw [Descent.fits, visits]
      rfl
  | move dst src ihDst ihSrc =>
    cases unfolds with
    | move visits first second =>
      rw [Descent.fits, visits]
      simp only [pure_bind, ihDst first, ihSrc second, Pattern.fits]
      cases Pattern.fits dst _ <;> rfl
    | int visits | mem visits =>
      rw [Descent.fits, visits]
      rfl
  | moveAlike =>
    cases unfolds with
    | move visits first second =>
      rw [Descent.fits, visits]
      exact first.sameShape second
    | int visits | mem visits =>
      rw [Descent.fits, visits]
      rfl

end Unfolds

namespace Counted

variable {held : List (Option NodeId)} {spare : Option NodeId}

theorem visit_eq (counted : Counted store held spare) (found : store.node? id = some node) :
    Descent.visit store id = pure ⟨node, counted.older id node found⟩ := by
  simp only [Descent.visit, found]
  exact dif_pos (counted.older id node found)

theorem unfolds (counted : Counted store held spare) {id : NodeId} {tree : Tree} (live : store.IsLive id)
    (known : store.tree? id = some tree) : store.Unfolds id tree := by
  obtain ⟨node, found⟩ := Option.isSome_iff_exists.mp live
  have visits := counted.visit_eq found
  have below : ∀ child ∈ node.children, ∀ {inner}, store.tree? child = some inner →
      store.Unfolds child inner := by
    intro child member inner knownInner
    have younger := counted.older id node found child member
    exact counted.unfolds (counted.isLive_child found member) knownInner
  rw [counted.tree?_eq found] at known
  cases node with
  | int val =>
    cases known
    exact .int visits
  | mem exp =>
    obtain ⟨root, made, rfl⟩ := Option.map_eq_some_iff.mp known
    obtain ⟨inner, knownInner, ⟨⟩⟩ := Option.bind_eq_some_iff.mp made
    exact .mem visits (below exp List.mem_cons_self knownInner)
  | move dst src =>
    obtain ⟨root, made, rfl⟩ := Option.map_eq_some_iff.mp known
    obtain ⟨left, knownLeft, rest⟩ := Option.bind_eq_some_iff.mp made
    obtain ⟨right, knownRight, ⟨⟩⟩ := Option.bind_eq_some_iff.mp rest
    exact .move visits (below dst List.mem_cons_self knownLeft)
      (below src (List.mem_cons_of_mem dst List.mem_cons_self) knownRight)
termination_by id

theorem lt_of_transGen_childOf (counted : Counted store held spare) {child parent : NodeId}
    (above : Relation.TransGen store.ChildOf child parent) : child < parent := by
  induction above with
  | single edge =>
    obtain ⟨node, found, member⟩ := edge
    exact counted.older _ node found child member
  | tail _ edge ih =>
    obtain ⟨node, found, member⟩ := edge
    exact Nat.lt_trans ih (counted.older _ node found _ member)

end Counted

end Store

theorem Logged.exists_outcome_mapM {α β ε : Type} {act : α → ExceptT ε Logged β} {items : List α}
    (each : ∀ item ∈ items, ∃ result, outcome (act item) = .ok result) :
    ∃ results, outcome (items.mapM act) = .ok results := by
  induction items with
  | nil => exact ⟨[], rfl⟩
  | cons item items ih =>
    obtain ⟨first, acts⟩ := each item List.mem_cons_self
    obtain ⟨others, later⟩ := ih fun other among => each other (List.mem_cons_of_mem item among)
    refine ⟨first :: others, ?_⟩
    rw [List.mapM_cons]
    exact outcome_bind_eq_ok.mpr ⟨first, acts, outcome_bind_eq_ok.mpr ⟨others, later, rfl⟩⟩

variable {store : Store} {held : List (Option NodeId)} {spare : Option NodeId} {handle : Handle}
  {id : NodeId} {node : Node NodeId}

theorem Projection.exists_children (counted : store.Counted held spare) (found : store.node? id = some node) :
    ∃ children, Logged.outcome ((mk node.kind (some id)).children store) = .ok children ∧
      children.map target = node.children.map some := by
  have usable : (typed ⟨node.kind, some id⟩).get store = .ok node :=
    Handle.get_eq_ok_iff.mpr ⟨found, decide_eq_true rfl⟩
  have projects : ∀ child ∈ node.children, ∃ seen,
      Logged.outcome ((Handle.toNode child).project store) = .ok seen := by
    intro child member
    obtain ⟨below, there⟩ := Option.isSome_iff_exists.mp (counted.isLive_child found member)
    have known : (Handle.toNode child).kind? store = some below.kind := congrArg (Option.map Node.kind) there
    exact ⟨_, Handle.outcome_project_eq_ok_iff.mpr ⟨below.kind, known, rfl⟩⟩
  obtain ⟨children, all⟩ := Logged.exists_outcome_mapM projects
  refine ⟨children, ?_, targets_of_mapM_project all⟩
  cases node with
  | int val =>
    cases all
    rfl
  | mem | move => exact Logged.outcome_bind_eq_ok.mpr ⟨_, (Logged.outcome_ofExcept _).trans usable, all⟩

/-- Every way through the tree of a handle reaches its end. What goes down node by node finds each of them
and comes to what the tree says. -/
structure Handle.Traversable (store : Store) (handle : Handle) (id : NodeId) (tree : Tree) : Prop where
  stands : handle.tree? store = some tree
  declared : handle.static.admits tree.kind = true
  render : Descent.render store id = pure tree.render ∧ handle.render store = .ok tree.render
  sameShape : ∀ other otherId, other.target = some otherId → store.IsLive otherId →
    ∃ otherTree, other.tree? store = some otherTree ∧
      Descent.sameShape store id otherId = pure (tree.sameShape otherTree) ∧
      handle.sameShape store other = tree.sameShape otherTree
  fits : ∀ pattern, Descent.fits store pattern id = pure (pattern.fits tree) ∧
    pattern.fitsSubject (Projection.subject store ⟨tree.kind, some id⟩) = pattern.fits tree
  project : Logged.outcome (handle.project store) = .ok ⟨tree.kind, some id⟩
  children : ∃ node children, store.node? id = some node ∧ handle.deref store = .ok node ∧
    Logged.outcome ((Projection.mk tree.kind (some id)).children store) = .ok children ∧
    children.map Projection.target = node.children.map some

theorem Handle.Honest.exists_traversable (honest : handle.Honest store) (counted : store.Counted held spare)
    (pointing : handle.target = some id) : ∃ tree, handle.Traversable store id tree := by
  obtain ⟨static, target⟩ := handle
  obtain rfl : target = some id := pointing
  obtain ⟨kind, known, admitted⟩ := honest id rfl
  obtain ⟨node, found, rfl⟩ := Option.map_eq_some_iff.mp known
  obtain ⟨tree, stands, sameKind⟩ := counted.exists_tree found
  have here : (Handle.mk static (some id)).tree? store = some tree := stands
  have unfolds := counted.unfolds (honest.isLive rfl) stands
  have usable : (Handle.mk static (some id)).deref store = .ok node :=
    deref_eq_ok_iff.mpr (get_eq_ok_iff.mpr ⟨found, admitted⟩)
  have projects : Logged.outcome ((Handle.mk static (some id)).project store) = .ok ⟨node.kind, some id⟩ :=
    outcome_project_eq_ok_iff.mpr ⟨node.kind, known, rfl⟩
  obtain ⟨children, below, targets⟩ := Projection.exists_children counted found
  rw [← sameKind] at admitted projects below
  refine ⟨tree, here, admitted, ⟨unfolds.render, ?render⟩, ?sameShape,
    fun pattern => ⟨unfolds.fits pattern, ?fits⟩, projects, node, children, found, usable, below, targets⟩
  case render => rw [Handle.render, here]
  case sameShape =>
    rintro ⟨otherStatic, _⟩ otherId ⟨⟩ live
    obtain ⟨otherNode, there⟩ := Option.isSome_iff_exists.mp live
    obtain ⟨otherTree, otherStands, -⟩ := counted.exists_tree there
    refine ⟨otherTree, otherStands, unfolds.sameShape (counted.unfolds live otherStands), ?_⟩
    have beside : (Handle.mk otherStatic (some otherId)).tree? store = some otherTree := otherStands
    rw [Handle.sameShape, here, beside]
  case fits =>
    have seen : (Projection.subject store ⟨tree.kind, some id⟩).tree? = some tree := stands
    rw [Pattern.fitsSubject, seen, Option.any_some]

namespace Workspace

variable {workspace made : Workspace} {draft : Draft} {name : String}

theorem Made.exists_child (makes : Made workspace draft id made) (member : name ∈ draft.children) :
    ∃ handle child, workspace.refs.get? name = some handle ∧ handle.target = some child := by
  obtain ⟨-, -, node, -, children⟩ := makes.exists_node
  have pointing : (workspace.refs.get? name).bind Handle.target ∈ (node.map some).children := by
    rw [← children, Node.children_map]
    exact List.mem_map_of_mem member
  rw [Node.children_map] at pointing
  obtain ⟨child, -, target⟩ := List.mem_map.mp pointing
  obtain ⟨handle, bound, points⟩ := Option.bind_eq_some_iff.mp target.symm
  exact ⟨handle, child, bound, points⟩

/-- After every run each child of a node is there and was made before the node, so that no node is below
itself. New nodes are made over nodes only, and no way through a tree of a handle gets stuck. -/
theorem trees_whole (commands : List Command) :
    let reached := (empty.run commands).2
    (∀ id node, reached.store.node? id = some node →
        ∀ child ∈ node.children, reached.store.IsLive child ∧ child < id) ∧
      (∀ id, ¬ Relation.TransGen reached.store.ChildOf id id) ∧
      (∀ draft id made, Logged.outcome (reached.make draft) = .ok (id, made) →
        id = reached.store.cells.size ∧ ∀ name ∈ draft.children, ∃ handle child,
          reached.refs.get? name = some handle ∧ handle.target = some child ∧ reached.store.IsLive child) ∧
      ∀ handle ∈ reached.handles, ∀ id, handle.target = some id →
        ∃ tree, handle.Traversable reached.store id tree := by
  intro reached
  have accounted : Accounted reached [] none := .run commands
  have counted := accounted.counted
  refine ⟨fun id node found child member => ⟨counted.isLive_child found member,
    counted.older id node found child member⟩, fun id cycle => ?acyclic, ?made, ?traversable⟩
  case acyclic => exact Nat.lt_irrefl id (counted.lt_of_transGen_childOf cycle)
  case made =>
    intro draft id made makes
    have new := made_of_make makes
    refine ⟨new.exists_node.1, fun name member => ?_⟩
    obtain ⟨handle, child, bound, pointing⟩ := new.exists_child member
    exact ⟨handle, child, bound, pointing, accounted.isLive_ref bound pointing⟩
  case traversable =>
    intro handle member id pointing
    exact (Honest.run commands handle member).exists_traversable counted pointing

theorem trees_whole_reset :
    let reached := (empty.run [.build (.int 7) false false "x", .reset "x" (.mem "x"), .reset "x" (.move "x" "x"),
      .project "x" "seen"]).2
    reached.store.node? 2 = some (.move 1 1) ∧ (reached.store.IsLive 1 ∧ 1 < 2) ∧
      Handle.mk .node (some 2) ∈ reached.handles ∧ Handle.mk (.exactly .move) (some 2) ∈ reached.handles ∧
      (∃ tree, (Handle.mk .node (some 2)).Traversable reached.store 2 tree) ∧
      ∃ tree, (Handle.mk (.exactly .move) (some 2)).Traversable reached.store 2 tree := by
  intro reached
  obtain ⟨children, -, -, traversable⟩ := trees_whole _
  have top : reached.store.node? 2 = some (.move 1 1) := by decide +kernel
  have bound : Handle.mk .node (some 2) ∈ reached.handles := by decide +kernel
  have seen : Handle.mk (.exactly .move) (some 2) ∈ reached.handles := by decide +kernel
  exact ⟨top, children 2 _ top 1 List.mem_cons_self, bound, seen, traversable _ bound 2 rfl,
    traversable _ seen 2 rfl⟩

end Workspace

end ShapeDispatch
