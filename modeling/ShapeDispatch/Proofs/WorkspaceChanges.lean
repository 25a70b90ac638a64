import ShapeDispatch.Proofs.DispatchOrder
import ShapeDispatch.Workspace.Step

/-! What a command can do to a workspace. The relations say it once for each command, with
everything that was checked on the way, so that a property of all workspaces is a case analysis over
them. -/

namespace ShapeDispatch

namespace Logged

variable {α β ε : Type} {action : ExceptT ε Logged α} {next : α → ExceptT ε Logged β} {result : β}

/-- What the action comes to, without the events on the way. -/
def outcome (action : ExceptT ε Logged α) : Except ε α :=
  action.run.value

@[simp]
theorem outcome_pure (value : α) : outcome (pure value : ExceptT ε Logged α) = .ok value := rfl

@[simp]
theorem outcome_ofExcept (checked : Except ε α) :
    outcome (MonadExcept.ofExcept checked : ExceptT ε Logged α) = checked := by
  cases checked <;> rfl

theorem outcome_bind (action : ExceptT ε Logged α) (next : α → ExceptT ε Logged β) :
    outcome (action >>= next) = (outcome action >>= fun value => outcome (next value)) := by
  simp only [outcome, ExceptT.run_bind, value_bind]
  cases action.run.value <;> rfl

@[simp]
theorem outcome_bind_eq_ok :
    outcome (action >>= next) = .ok result ↔
      ∃ value, outcome action = .ok value ∧ outcome (next value) = .ok result := by
  rw [outcome_bind]
  cases outcome action with
  | error reason => exact iff_of_false nofun nofun
  | ok value =>
    refine ⟨fun goesOn => ⟨value, rfl, goesOn⟩, ?_⟩
    rintro ⟨_, ⟨⟩, goesOn⟩
    exact goesOn

theorem forall₂_of_outcome_mapM {act : α → ExceptT ε Logged β} {items : List α} {results : List β}
    (all : outcome (items.mapM act) = .ok results) :
    List.Forall₂ (fun item result => outcome (act item) = .ok result) items results := by
  induction items generalizing results with
  | nil =>
    cases all
    exact .nil
  | cons item items ih =>
    rw [List.mapM_cons] at all
    obtain ⟨first, acts, rest⟩ := outcome_bind_eq_ok.mp all
    obtain ⟨others, later, ⟨⟩⟩ := outcome_bind_eq_ok.mp rest
    exact .cons acts (ih later)

end Logged

namespace Attempting

open Logged

variable {α ε : Type} {value : α}

@[simp]
theorem outcome_need_eq_ok {value? : Option α} :
    outcome (need value?) = .ok value ↔ value? = some value := by
  cases value? with
  | none => exact iff_of_false nofun nofun
  | some known => simp only [need, outcome_pure, Except.ok.injEq, Option.some.injEq]

@[simp]
theorem outcome_require_eq_ok {cause : ε → Failure} {checked : Except ε α} :
    outcome (require cause checked) = .ok value ↔ checked = .ok value := by
  rw [require, outcome_ofExcept]
  cases checked <;> simp [Except.mapError]

@[simp]
theorem outcome_requireLogged_eq_ok {attempt : ExceptT RefError Logged α} :
    outcome (requireLogged attempt) = .ok value ↔ outcome attempt = .ok value := by
  rw [requireLogged, outcome_bind_eq_ok]
  constructor
  · rintro ⟨checked, ran, required⟩
    cases ran
    exact outcome_require_eq_ok.mp required
  · exact fun succeeds => ⟨_, rfl, outcome_require_eq_ok.mpr succeeds⟩

end Attempting

open Logged

theorem Node.seal_eq_ok_iff {targets : Node (Option NodeId)} {node : Node NodeId} :
    targets.seal = .ok node ↔ targets = node.map some := by
  constructor
  · intro sealed
    rcases targets with val | ⟨_ | exp⟩ | ⟨_ | dst, _ | src⟩ <;> cases sealed <;> rfl
  · rintro rfl
    cases node <;> rfl

theorem Handle.deref_eq_ok_iff {store : Store} {handle : Handle} {node : Node NodeId} :
    handle.deref store = .ok node ↔ handle.get store = .ok node := by
  rw [deref]
  cases handle.get store <;> simp [Except.mapError]

theorem Handle.outcome_cast_eq_ok_iff {store : Store} {handle result : Handle} {wanted : StaticKind} :
    outcome (handle.cast store wanted) = .ok result ↔
      ∃ kind, handle.kind? store = some kind ∧ wanted.admits kind = true ∧
        result = ⟨wanted, handle.target⟩ := by
  unfold cast
  cases known : handle.kind? store with
  | none => exact iff_of_false nofun nofun
  | some kind =>
    by_cases admitted : wanted.admits kind = true
    · simp only [admitted, if_true]
      refine ⟨fun casts => ⟨kind, rfl, admitted, ?_⟩, ?_⟩
      · cases casts
        rfl
      · rintro ⟨_, -, -, rfl⟩
        rfl
    · simp only [admitted]
      refine iff_of_false nofun ?_
      rintro ⟨_, ⟨⟩, admits, -⟩
      exact admitted admits

theorem Handle.outcome_project_eq_ok_iff {store : Store} {handle : Handle} {projection : Projection} :
    outcome (handle.project store) = .ok projection ↔
      ∃ kind, handle.kind? store = some kind ∧ projection = ⟨kind, handle.target⟩ := by
  cases known : handle.kind? store with
  | none =>
    rw [outcome, run_project_of_absent known]
    exact iff_of_false nofun nofun
  | some kind =>
    rw [outcome, run_project_of_kind? known, Logged.value_bind, Logged.value_pure, Except.ok.injEq]
    constructor
    · rintro rfl
      exact ⟨kind, rfl, rfl⟩
    · rintro ⟨_, ⟨⟩, rfl⟩
      rfl

theorem Handle.get_eq_ok_iff {store : Store} {handle : Handle} {node : Node NodeId} :
    handle.get store = .ok node ↔
      handle.node? store = some node ∧ handle.static.admits node.kind = true := by
  rw [get]
  cases handle.node? store with
  | none => exact iff_of_false nofun nofun
  | some found =>
    by_cases admitted : handle.static.admits found.kind = true
    · simp only [admitted, if_true, Except.ok.injEq, Option.some.injEq, iff_self_and]
      rintro rfl
      exact admitted
    · simp only [admitted]
      refine iff_of_false nofun ?_
      rintro ⟨⟨⟩, admits⟩
      exact admitted admits

theorem Projection.targets_of_mapM_project {store : Store} {ids : List NodeId}
    {projections : List Projection}
    (all : outcome (ids.mapM fun id => (Handle.toNode id).project store) = .ok projections) :
    projections.map target = ids.map some := by
  have each := forall₂_of_outcome_mapM all
  clear all
  induction each with
  | nil => rfl
  | cons projects others ih =>
    obtain ⟨kind, -, rfl⟩ := Handle.outcome_project_eq_ok_iff.mp projects
    rw [List.map_cons, List.map_cons, ih]
    rfl

theorem Projection.targets_of_children {store : Store} {projection : Projection}
    {children : List Projection} (below : outcome (projection.children store) = .ok children) :
    children = [] ∨ ∃ node, projection.typed.node? store = some node ∧
      children.map target = node.children.map some := by
  rcases projection with ⟨_ | _ | _, target⟩
  case int =>
    cases below
    exact .inl rfl
  all_goals
    obtain ⟨node, used, all⟩ := outcome_bind_eq_ok.mp below
    rw [outcome_ofExcept] at used
    exact .inr ⟨node, (Handle.get_eq_ok_iff.mp used).1, targets_of_mapM_project all⟩

namespace Workspace

open Attempting

variable {workspace next made : Workspace} {handle : Handle}

theorem outcome_ref_eq_ok {name : String} :
    outcome (workspace.ref name) = .ok handle ↔ workspace.refs.get? name = some handle :=
  outcome_need_eq_ok

theorem outcome_projection_eq_ok {name : String} {projection : Projection} :
    outcome (workspace.projection name) = .ok projection ↔
      workspace.projections.get? name = some projection :=
  outcome_need_eq_ok

inductive Derived (workspace : Workspace) : Derivation → Handle → Prop where
  | null (static : StaticKind) : Derived workspace (.null static) (.null static)
  | clone {ref : String} {handle : Handle} (bound : workspace.refs.get? ref = some handle) :
      Derived workspace (.clone ref) handle
  | upcast {ref : String} {handle : Handle} (bound : workspace.refs.get? ref = some handle) :
      Derived workspace (.upcast ref) handle.upcast
  | cast {ref : String} {handle : Handle} {wanted : StaticKind} {kind : Kind}
      (bound : workspace.refs.get? ref = some handle)
      (known : handle.kind? workspace.store = some kind) (admitted : wanted.admits kind = true) :
      Derived workspace (.cast ref wanted) ⟨wanted, handle.target⟩
  | castOrNull {ref : String} {handle : Handle} {wanted : StaticKind}
      (bound : workspace.refs.get? ref = some handle) :
      Derived workspace (.castOrNull ref wanted) (handle.castOrNull workspace.store wanted)
  | part {ref : String} {handle : Handle} {part : Part} {node : Node NodeId} {child : NodeId}
      (bound : workspace.refs.get? ref = some handle)
      (usable : handle.get workspace.store = .ok node) (below : node.part? part = some child) :
      Derived workspace (.part ref part) (.toNode child)
  | projected {name : String} {projection : Projection}
      (bound : workspace.projections.get? name = some projection) :
      Derived workspace (.projected name) projection.upcast

/-- A node that was made over bound references, none of them null, and the workspace with it. -/
inductive Made (workspace : Workspace) (draft : Draft) : NodeId → Workspace → Prop where
  | alloc {children : Node Handle} {node : Node NodeId}
      (bound : draft.map workspace.refs.get? = children.map some)
      (sealed : children.map Handle.target = node.map some) :
      Made workspace draft (workspace.store.alloc node).1
        { workspace with store := (workspace.store.alloc node).2 }

/-- What a command makes of a workspace when it succeeds. -/
inductive Performed (workspace : Workspace) : Command → Workspace → Prop where
  | query (query : Query) : Performed workspace (.query query) workspace
  | derive {derivation : Derivation} {as : String} {handle : Handle}
      (derived : Derived workspace derivation handle) :
      Performed workspace (.derive derivation as) (workspace.putRef as handle)
  | noChild {ref : String} {index : Nat} {as : String} {handle : Handle}
      (bound : workspace.refs.get? ref = some handle)
      (beyond : ((handle.node? workspace.store).elim [] Node.children)[index]? = none) :
      Performed workspace (.child ref index as) workspace
  | child {ref : String} {index : Nat} {as : String} {handle : Handle} {child : NodeId}
      (bound : workspace.refs.get? ref = some handle)
      (below : ((handle.node? workspace.store).elim [] Node.children)[index]? = some child) :
      Performed workspace (.child ref index as) (workspace.putRef as (.toNode child))
  | build {draft : Draft} {typed : Bool} {handover : Handover} {as : String} {id : NodeId} {made : Workspace}
      (makes : Made workspace draft id made) :
      Performed workspace (.build draft typed handover as)
        ((made.dropRefs (handover.given draft)).putRef as
          ⟨if typed then .exactly draft.kind else .node, some id⟩)
  | chain {ref : String} {shape : ChainShape} {count : Nat} {leaf : Option String} {as : String}
      {top : Handle} {bottom : Option Handle} {target : Option NodeId} {store : Store}
      (bound : workspace.refs.get? ref = some top)
      (leafBound : leaf.map workspace.refs.get? = bottom.map some)
      (grown : grow shape (bottom.bind Handle.target) count top.target workspace.store =
        .ok (target, store)) :
      Performed workspace (.chain ref shape count leaf as)
        ({ workspace with store }.putRef as ⟨.node, target⟩)
  | reset {ref : String} {draft : Draft} {handle : Handle} {id : NodeId} {made : Workspace}
      (bound : workspace.refs.get? ref = some handle) (makes : Made workspace draft id made)
      (admitted : handle.static.admits draft.kind = true) :
      Performed workspace (.reset ref draft) (made.putRef ref ⟨handle.static, some id⟩)
  | drop (ref : String) : Performed workspace (.drop ref) (workspace.dropRef ref)
  | project {ref as : String} {handle : Handle} {kind : Kind}
      (bound : workspace.refs.get? ref = some handle)
      (known : handle.kind? workspace.store = some kind) :
      Performed workspace (.project ref as) (workspace.putProjection as ⟨kind, handle.target⟩)
  | nullProjection (kind : Kind) (as : String) :
      Performed workspace (.nullProjection kind as) (workspace.putProjection as ⟨kind, none⟩)
  | projectChildren {name : String} {as : Option String} {projection : Projection}
      {children : List Projection} (bound : workspace.projections.get? name = some projection)
      (below : outcome (projection.children workspace.store) = .ok children) :
      Performed workspace (.projectChildren name as)
        (as.elim workspace (workspace.putProjections · children))
  | dropProjection (name : String) :
      Performed workspace (.dropProjection name) (workspace.dropProjection name)
  | matcher (fallback : Option String) (as : String) :
      Performed workspace (.matcher fallback as) (workspace.setMatcher as (.ofFallback fallback))
  | rule {name text label : String} {matcher : Matcher} {pattern : Pattern}
      (bound : workspace.matchers.get? name = some matcher)
      (parsed : Pattern.parse text = .ok pattern) :
      Performed workspace (.rule name text label)
        (workspace.setMatcher name (matcher.register pattern label).value)
  | fallback {name label : String} {matcher : Matcher}
      (bound : workspace.matchers.get? name = some matcher) :
      Performed workspace (.fallback name label)
        (workspace.setMatcher name (matcher.setFallback label))

theorem derived_of_derive {derivation : Derivation}
    (derives : outcome (workspace.derive derivation) = .ok handle) :
    Derived workspace derivation handle := by
  cases derivation with
  | null static =>
    cases derives
    exact .null static
  | clone ref => exact .clone (outcome_ref_eq_ok.mp derives)
  | upcast ref =>
    obtain ⟨origin, bound, ⟨⟩⟩ := outcome_bind_eq_ok.mp derives
    exact .upcast (outcome_ref_eq_ok.mp bound)
  | cast ref wanted =>
    obtain ⟨origin, bound, casts⟩ := outcome_bind_eq_ok.mp derives
    obtain ⟨kind, known, admitted, rfl⟩ :=
      Handle.outcome_cast_eq_ok_iff.mp (outcome_requireLogged_eq_ok.mp casts)
    exact .cast (outcome_ref_eq_ok.mp bound) known admitted
  | castOrNull ref wanted =>
    obtain ⟨origin, bound, ⟨⟩⟩ := outcome_bind_eq_ok.mp derives
    exact .castOrNull (outcome_ref_eq_ok.mp bound)
  | part ref part =>
    obtain ⟨origin, bound, used⟩ := outcome_bind_eq_ok.mp derives
    obtain ⟨node, usable, below⟩ := outcome_bind_eq_ok.mp used
    obtain ⟨child, known, ⟨⟩⟩ := outcome_bind_eq_ok.mp below
    exact .part (outcome_ref_eq_ok.mp bound)
      (Handle.deref_eq_ok_iff.mp (outcome_require_eq_ok.mp usable)) (outcome_need_eq_ok.mp known)
  | projected name =>
    obtain ⟨origin, bound, ⟨⟩⟩ := outcome_bind_eq_ok.mp derives
    exact .projected (outcome_projection_eq_ok.mp bound)

theorem bound_of_mapM_ref {draft : Draft} {children : Node Handle}
    (found : outcome (draft.mapM workspace.ref) = .ok children) :
    draft.map workspace.refs.get? = children.map some := by
  cases draft with
  | int val =>
    cases found
    rfl
  | mem exp =>
    obtain ⟨handle, bound, ⟨⟩⟩ := outcome_bind_eq_ok.mp found
    rw [Node.map, outcome_ref_eq_ok.mp bound, Node.map]
  | move dst src =>
    obtain ⟨left, leftBound, rest⟩ := outcome_bind_eq_ok.mp found
    obtain ⟨right, rightBound, ⟨⟩⟩ := outcome_bind_eq_ok.mp rest
    rw [Node.map, outcome_ref_eq_ok.mp leftBound, outcome_ref_eq_ok.mp rightBound, Node.map]

theorem bound_of_mapM_leaf {leaf : Option String} {bottom : Option Handle}
    (found : outcome (leaf.mapM workspace.ref) = .ok bottom) :
    leaf.map workspace.refs.get? = bottom.map some := by
  cases leaf with
  | none =>
    cases found
    rfl
  | some name =>
    obtain ⟨handle, bound, ⟨⟩⟩ := outcome_bind_eq_ok.mp found
    rw [Option.map_some, outcome_ref_eq_ok.mp bound, Option.map_some]

theorem made_of_make {draft : Draft} {id : NodeId}
    (makes : outcome (workspace.make draft) = .ok (id, made)) : Made workspace draft id made := by
  obtain ⟨children, bound, rest⟩ := outcome_bind_eq_ok.mp makes
  obtain ⟨node, sealed, ⟨⟩⟩ := outcome_bind_eq_ok.mp rest
  exact .alloc (bound_of_mapM_ref bound)
    (Node.seal_eq_ok_iff.mp (outcome_require_eq_ok.mp sealed))

theorem performed_of_perform {command : Command} {reply : Reply}
    (performs : outcome (workspace.perform command) = .ok (reply, next)) :
    Performed workspace command next := by
  cases command with
  | query query =>
    obtain ⟨answer, -, ⟨⟩⟩ := outcome_bind_eq_ok.mp performs
    exact .query query
  | derive derivation as =>
    obtain ⟨handle, derives, ⟨⟩⟩ := outcome_bind_eq_ok.mp performs
    exact .derive (derived_of_derive derives)
  | child ref index as =>
    obtain ⟨handle, bound, rest⟩ := outcome_bind_eq_ok.mp performs
    cases below : ((handle.node? workspace.store).elim [] Node.children)[index]? with
    | none =>
      simp only [below] at rest
      cases rest
      exact .noChild (outcome_ref_eq_ok.mp bound) below
    | some child =>
      simp only [below] at rest
      cases rest
      exact .child (outcome_ref_eq_ok.mp bound) below
  | build draft typed handover as =>
    obtain ⟨⟨id, made⟩, makes, ⟨⟩⟩ := outcome_bind_eq_ok.mp performs
    exact .build (made_of_make makes)
  | chain ref shape count leaf as =>
    obtain ⟨top, bound, rest⟩ := outcome_bind_eq_ok.mp performs
    obtain ⟨bottom, leafBound, rest⟩ := outcome_bind_eq_ok.mp rest
    obtain ⟨⟨target, store⟩, grown, ⟨⟩⟩ := outcome_bind_eq_ok.mp rest
    exact .chain (outcome_ref_eq_ok.mp bound) (bound_of_mapM_leaf leafBound)
      (outcome_require_eq_ok.mp grown)
  | reset ref draft =>
    obtain ⟨handle, bound, rest⟩ := outcome_bind_eq_ok.mp performs
    obtain ⟨⟨id, made⟩, makes, rest⟩ := outcome_bind_eq_ok.mp rest
    by_cases admitted : handle.static.admits draft.kind = true
    · simp only [admitted, if_true] at rest
      cases rest
      exact .reset (outcome_ref_eq_ok.mp bound) (made_of_make makes) admitted
    · simp only [admitted] at rest
      cases rest
  | drop ref =>
    cases performs
    exact .drop ref
  | project ref as =>
    obtain ⟨handle, bound, rest⟩ := outcome_bind_eq_ok.mp performs
    obtain ⟨projection, projects, ⟨⟩⟩ := outcome_bind_eq_ok.mp rest
    obtain ⟨kind, known, rfl⟩ :=
      Handle.outcome_project_eq_ok_iff.mp (outcome_requireLogged_eq_ok.mp projects)
    exact .project (outcome_ref_eq_ok.mp bound) known
  | nullProjection kind as =>
    cases performs
    exact .nullProjection kind as
  | projectChildren name as =>
    obtain ⟨projection, bound, rest⟩ := outcome_bind_eq_ok.mp performs
    obtain ⟨children, below, rest⟩ := outcome_bind_eq_ok.mp rest
    obtain ⟨shown, -, ⟨⟩⟩ := outcome_bind_eq_ok.mp rest
    exact .projectChildren (outcome_projection_eq_ok.mp bound) (outcome_requireLogged_eq_ok.mp below)
  | dropProjection name =>
    cases performs
    exact .dropProjection name
  | matcher fallback as =>
    cases performs
    exact .matcher fallback as
  | rule name text label =>
    obtain ⟨matcher, bound, rest⟩ := outcome_bind_eq_ok.mp performs
    obtain ⟨pattern, parsed, rest⟩ := outcome_bind_eq_ok.mp rest
    obtain ⟨extended, registers, ⟨⟩⟩ := outcome_bind_eq_ok.mp rest
    cases registers
    exact .rule (outcome_need_eq_ok.mp bound) (outcome_require_eq_ok.mp parsed)
  | fallback name label =>
    obtain ⟨matcher, bound, ⟨⟩⟩ := outcome_bind_eq_ok.mp performs
    exact .fallback (outcome_need_eq_ok.mp bound)

/-- What a command makes of a workspace, whether it succeeds or fails. -/
inductive Stepped (workspace : Workspace) (command : Command) : Workspace → Prop where
  | performed {next : Workspace} (success : Performed workspace command next) :
      Stepped workspace command next
  | failed {failure : Failure} (fails : outcome (workspace.perform command) = .error failure) :
      Stepped workspace command workspace
  | abandoned {draft : Draft} {typed : Bool} {handover : Handover} {as : String} {fault : Fault}
      (building : command = .build draft typed handover as)
      (fails : outcome (workspace.perform command) = .error (.fault fault)) :
      Stepped workspace command (workspace.dropRefs (handover.given draft))

theorem stepped_step (workspace : Workspace) (command : Command) :
    Stepped workspace command (workspace.step command).2 := by
  rw [step]
  cases result : outcome (workspace.perform command) with
  | ok performed =>
    rw [outcome] at result
    simp only [result]
    exact .performed (performed_of_perform result)
  | error failure =>
    have fails := result
    rw [outcome] at result
    simp only [result]
    unfold abandon
    split
    next draft typed handover as fault => exact .abandoned rfl fails
    next => exact .failed fails

theorem step_query (workspace : Workspace) (query : Query) :
    (workspace.step (.query query)).2 = workspace := by
  have stepped := workspace.stepped_step (.query query)
  generalize (workspace.step (.query query)).2 = next at stepped ⊢
  cases stepped with
  | performed success =>
    cases success
    rfl
  | failed fails => rfl
  | abandoned building fails => cases building

/-- What holds at the start and is kept by every step holds after every run. -/
theorem run_of_stepped (holds : Workspace → Prop)
    (keeps : ∀ {workspace command next}, holds workspace → Stepped workspace command next → holds next)
    (start : holds workspace) (commands : List Command) : holds (workspace.run commands).2 := by
  induction commands generalizing workspace with
  | nil => exact start
  | cons command commands ih => exact ih (keeps start (workspace.stepped_step command))

end Workspace

end ShapeDispatch
