import ShapeDispatch.Proofs.Unwinding

/-! Commands that fail leave nothing behind. What a failing command shared on the way it lets go of again, and
then everything is as it was. Only children that were moved into a node that could not be built are gone,
with whatever they alone kept. -/

namespace ShapeDispatch

open Logged

theorem Bindings.Distinct.entries_erase {α : Type} {bindings : Bindings α} (distinct : bindings.Distinct)
    (name : String) :
    (bindings.erase name).entries = bindings.entries.filter fun entry => entry.1 ≠ name := by
  obtain ⟨entries⟩ := bindings
  show entries.eraseP (fun entry => entry.1 = name) = entries.filter fun entry => entry.1 ≠ name
  unfold Distinct at distinct
  induction entries with
  | nil => rfl
  | cons entry entries ih =>
    obtain ⟨fresh, rest⟩ := List.nodup_cons.mp distinct
    by_cases here : entry.1 = name
    · have others : ∀ other ∈ entries, other.1 ≠ name := by
        intro other member same
        exact fresh (List.mem_map.mpr ⟨other, member, same.trans here.symm⟩)
      have stay := List.filter_eq_self.mpr fun other member => decide_eq_true (others other member)
      simpa [here] using stay.symm
    · simp [here, ih rest]

namespace Handover

def moves : Handover → Part → Bool
  | shareAll, _ => false
  | moveAll, _ => true
  | moveOnly moved, part => moved = part

def received (handover : Handover) : Draft → List (Bool × String)
  | .int _ => []
  | .mem exp => [(handover.moves .exp, exp)]
  | .move dst src => [(handover.moves .dst, dst), (handover.moves .src, src)]

theorem map_filter_received (handover : Handover) (draft : Draft) :
    ((handover.received draft).filter (·.1)).map (·.2) = handover.given draft := by
  cases handover with
  | shareAll | moveAll => cases draft <;> rfl
  | moveOnly part => cases part <;> cases draft <;> rfl

end Handover

def Command.taken : Command → List String
  | .build draft _ handover _ => handover.given draft
  | _ => []

namespace Workspace

open Attempting

variable {workspace next : Workspace} {pending : List (Option NodeId)} {spare : Option NodeId} {draft : Draft}
  {fault : Fault} {failure : Failure}

/-- What is in hand when a command can fail. References that a node is to be built over are shared or taken
from left to right, and a reference is shared while it is dispatched. A chain fails at its first link or not
at all, so it has made no node. -/
def underway (workspace : Workspace) : Command → Underway
  | .build draft _ handover _ =>
    (handover.received draft).foldl (fun underway child => underway.receive child.1 child.2) ⟨workspace, []⟩
  | .reset _ draft => draft.children.foldl Underway.share ⟨workspace, []⟩
  | .chain ref _ _ leaf _ => (ref :: leaf.toList).foldl Underway.share ⟨workspace, []⟩
  | .query (.dispatch _ (.ref name)) => Underway.share ⟨workspace, []⟩ name
  | _ => ⟨workspace, []⟩

theorem Accounted.from_underway (accounted : Accounted workspace [] none) (command : Command) :
    Underway.From workspace command.taken (workspace.underway command) := by
  have start := Underway.From.start accounted
  cases command with
  | build draft typed handover as =>
    rw [Command.taken, ← handover.map_filter_received]
    exact start.receiveAll (handover.received draft)
  | reset ref draft => exact start.shareAll draft.children
  | chain ref shape count leaf as => exact start.shareAll (ref :: leaf.toList)
  | query query =>
    cases query with
    | dispatch matcher target =>
      cases target with
      | ref name => exact start.share name
      | projection name => exact start
    | _ => exact start
  | _ => exact start

/-- What the names were taken from, without them: whatever was reached from them alone is gone, and the rest
is as it was, with the holders that are left. -/
structure Released (workspace : Workspace) (names : List String) (next : Workspace) : Prop where
  refs : next.refs.entries = workspace.refs.entries.filter fun entry => entry.1 ∉ names
  projections : next.projections = workspace.projections
  matchers : next.matchers = workspace.matchers
  size_eq : next.store.cells.size = workspace.store.cells.size
  live : ∀ id, next.store.IsLive id ↔ workspace.store.Reachable next.held id
  kept : ∀ id, next.store.IsLive id → next.store.node? id = workspace.store.node? id
  holders : ∀ id, next.store.holders id = next.held.count (some id) + next.store.edges.count id

namespace Accounted

theorem entries_dropRefs (accounted : Accounted workspace pending spare) (names : List String) :
    (workspace.dropRefs names).refs.entries =
      workspace.refs.entries.filter fun entry => entry.1 ∉ names := by
  induction names generalizing workspace with
  | nil => exact (List.filter_eq_self.mpr fun entry _ => decide_eq_true List.not_mem_nil).symm
  | cons name names ih =>
    have first := accounted.refs_distinct.entries_erase name
    rw [← refs_dropRef] at first
    refine (ih (accounted.dropRef name)).trans ?_
    rw [first, List.filter_filter]
    refine List.filter_congr fun entry _ => ?_
    simpa using Bool.and_comm _ _

theorem released (accounted : Accounted workspace [] none) (names : List String) :
    Released workspace names (workspace.dropRefs names) := by
  have accounted' := accounted.dropRefs names
  have evolves := workspace.evolves_dropRefs names
  have sameSize := workspace.size_dropRefs names
  refine ⟨accounted.entries_dropRefs names, workspace.projections_dropRefs names,
    workspace.matchers_dropRefs names, sameSize, fun id => ?live, fun id live => ?kept,
    accounted'.counted.holders_eq⟩
  case live => exact accounted'.counted.isLive_iff_reachable_still evolves sameSize
  case kept => exact evolves.node?_eq id (sameSize ▸ Store.lt_size_of_isLive live) live

end Accounted

/-- What comes of a draft: every name must stand for something before any null is noticed. -/
theorem outcome_make (workspace : Workspace) (draft : Draft) :
    outcome (workspace.make draft) =
      match draft.mapM workspace.refs.get? with
      | none => .error .badRequest
      | some children =>
        match (children.map Handle.target).seal with
        | .error fault => .error (.fault fault)
        | .ok node =>
          .ok ((workspace.store.alloc node).1, { workspace with store := (workspace.store.alloc node).2 }) := by
  have named : outcome (draft.mapM workspace.ref) =
      (draft.mapM workspace.refs.get?).elim (.error .badRequest) .ok := by
    cases draft with
    | int val => rfl
    | mem exp =>
      simp only [Node.mapM, outcome_bind, ref]
      cases workspace.refs.get? exp <;> rfl
    | move dst src =>
      simp only [Node.mapM, outcome_bind, ref]
      cases workspace.refs.get? dst <;> cases workspace.refs.get? src <;> rfl
  rw [make, outcome_bind, named]
  cases draft.mapM workspace.refs.get? with
  | none => rfl
  | some children =>
    show outcome (require .fault (children.map Handle.target).seal >>= _) = _
    dsimp only
    cases (children.map Handle.target).seal <;> rfl

theorem failure_of_make (fails : outcome (workspace.make draft) = .error failure) :
    failure = .badRequest ∨ ∃ fault, failure = .fault fault := by
  rw [outcome_make] at fails
  split at fails
  next => exact .inl (Except.error.inj fails).symm
  next children named =>
    split at fails
    next fault sealed => exact .inr ⟨fault, (Except.error.inj fails).symm⟩
    next node sealed => cases fails

theorem outcome_make_of_null {children : Node Handle} (named : draft.mapM workspace.refs.get? = some children)
    (sealed : (children.map Handle.target).seal = .error fault) :
    outcome (workspace.make draft) = .error (.fault fault) := by
  simp only [outcome_make, named, sealed]

def Refuses (workspace : Workspace) (draft : Draft) (fault : Fault) : Prop :=
  (∀ typed handover as, (workspace.step (.build draft typed handover as)).1.value = .error (.fault fault)) ∧
    ∀ ref handle, workspace.refs.get? ref = some handle →
      (workspace.step (.reset ref draft)).1.value = .error (.fault fault)

theorem refuses_of_null {children : Node Handle} (named : draft.mapM workspace.refs.get? = some children)
    (sealed : (children.map Handle.target).seal = .error fault) : Refuses workspace draft fault := by
  have fails := outcome_make_of_null named sealed
  refine ⟨fun typed handover as => ?build, fun ref handle bound => ?reset⟩
  case build =>
    have stops : outcome (workspace.perform (.build draft typed handover as)) = .error (.fault fault) := by
      rw [perform, outcome_bind, fails]
      rfl
    exact (step_of_outcome_eq_error stops).1
  case reset =>
    have stops : outcome (workspace.perform (.reset ref draft)) = .error (.fault fault) := by
      rw [perform, outcome_bind, outcome_ref_eq_ok.mpr bound]
      show outcome (workspace.make draft >>= _) = _
      rw [outcome_bind, fails]
      rfl
    exact (step_of_outcome_eq_error stops).1

theorem refuses_mem {exp : String} {handle : Handle} (bound : workspace.refs.get? exp = some handle)
    (isNull : handle.isNull = true) : Refuses workspace (.mem exp) .nullChild := by
  have named : (Node.mem exp).mapM workspace.refs.get? = some (.mem handle) := by
    rw [Node.mapM, bound]
    rfl
  refine refuses_of_null named ?_
  rw [Node.map, Option.isNone_iff_eq_none.mp isNull]
  rfl

theorem refuses_move {dst src : String} {left right : Handle} (boundDst : workspace.refs.get? dst = some left)
    (boundSrc : workspace.refs.get? src = some right) (isNull : left.isNull = true ∨ right.isNull = true) :
    Refuses workspace (.move dst src) (if left.isNull then .nullDst else .nullSrc) := by
  have named : (Node.move dst src).mapM workspace.refs.get? = some (.move left right) := by
    rw [Node.mapM, boundDst, boundSrc]
    rfl
  refine refuses_of_null named ?_
  rw [Node.map]
  unfold Handle.isNull at isNull ⊢
  -- The destination is looked at first, and the source only behind a destination that is there.
  cases pointing : left.target with
  | none => rfl
  | some id =>
    rw [pointing] at isNull
    rw [Option.isNone_iff_eq_none.mp (isNull.resolve_left Bool.false_ne_true)]
    rfl

theorem abandon_eq {command : Command} (fails : outcome (workspace.perform command) = .error failure)
    (suited : failure ≠ .badRequest) : workspace.abandon command failure = workspace.dropRefs command.taken := by
  cases command with
  | build draft typed handover as =>
    have makes : outcome (workspace.make draft) = .error failure := by
      rw [perform, outcome_bind] at fails
      cases made : outcome (workspace.make draft) with
      | error reason =>
        rw [made] at fails
        cases fails
        rfl
      | ok made' =>
        rw [made] at fails
        cases fails
    obtain rfl | ⟨fault, rfl⟩ := failure_of_make makes
    · exact absurd rfl suited
    · rfl
  | _ => rfl

theorem abandon_badRequest (workspace : Workspace) (command : Command) :
    workspace.abandon command .badRequest = workspace := by
  unfold abandon
  split
  next unsuited => cases unsuited
  next => rfl

theorem fired_eq_nil_of_dispatch {table : RuleTable Action} {subject : Subject} {error : DispatchError}
    (fails : ((table.dispatch Action.run subject).run.run []).value.1 = .error error) :
    ((table.dispatch Action.run subject).run.run []).value.2 = [] := by
  unfold RuleTable.dispatch at fails ⊢
  cases present : subject.tree? with
  | none => rfl
  | some tree =>
    simp only [present] at fails
    cases chosen : table.choose tree with
    | rule index rule =>
      rw [chosen] at fails
      cases fails
    | fallback action =>
      rw [chosen] at fails
      cases fails
    | nothing =>
      simp only [chosen]
      rfl

theorem fired_eq_nil_of_dispatchHandle {table : RuleTable Action} {store : Store} {handle : Handle}
    {error : DispatchError}
    (fails : ((table.dispatchHandle Action.run store handle).run.run []).value.1 = .error error) :
    ((table.dispatchHandle Action.run store handle).run.run []).value.2 = [] := by
  cases known : handle.kind? store with
  | none =>
    rw [RuleTable.dispatchHandle_of_absent _ known]
    rfl
  | some kind =>
    rw [RuleTable.dispatchHandle_of_kind? _ known] at fails ⊢
    exact fired_eq_nil_of_dispatch fails

theorem fired_eq_nil_of_step {matcher : String} {target : Target} {error : DispatchError} {fired : List Nat}
    (answers : (workspace.step (.query (.dispatch matcher target))).1.value =
      .ok (.dispatched (.error error) fired)) : fired = [] := by
  cases result : outcome (workspace.perform (.query (.dispatch matcher target))) with
  | error failure =>
    rw [(step_of_outcome_eq_error result).1] at answers
    cases answers
  | ok performed =>
    rw [(step_of_outcome_eq_ok result).1] at answers
    obtain ⟨reply, answered, ⟨⟩⟩ := outcome_bind_eq_ok.mp result
    obtain ⟨found, named, rest⟩ := outcome_bind_eq_ok.mp answered
    cases target with
    | ref name =>
      obtain ⟨handle, bound, dispatches⟩ := outcome_bind_eq_ok.mp rest
      obtain ⟨fails, rfl⟩ := Reply.dispatched.inj
        (Except.ok.inj (dispatches.trans answers))
      exact fired_eq_nil_of_dispatchHandle fails
    | projection name =>
      obtain ⟨projection, bound, dispatches⟩ := outcome_bind_eq_ok.mp rest
      obtain ⟨fails, rfl⟩ := Reply.dispatched.inj
        (Except.ok.inj (dispatches.trans answers))
      exact fired_eq_nil_of_dispatch fails

/-- A command that fails with children to move in releases these and changes nothing else, and any other that
fails changes nothing at all. What it leaves is what comes of letting go of all that it had in hand. -/
structure Traceless (workspace : Workspace) (command : Command) : Prop where
  unchanged : ∀ failure, (workspace.step command).1.value = .error failure →
    command.taken = [] ∨ failure = .badRequest → (workspace.step command).2 = workspace
  released : ∀ failure, (workspace.step command).1.value = .error failure → failure ≠ .badRequest →
    Released workspace command.taken (workspace.step command).2
  unwound : ∀ failure, (workspace.step command).1.value = .error failure → failure ≠ .badRequest →
    (workspace.underway command).unwind = (workspace.step command).2
  unmatched : ∀ matcher target error fired, command = .query (.dispatch matcher target) →
    (workspace.step command).1.value = .ok (.dispatched (.error error) fired) →
    fired = [] ∧ (workspace.step command).2 = workspace ∧
      (workspace.underway command).unwind = (workspace.step command).2

/-- No node is built over null, and a null destination is noticed before a null source. -/
structure RefusesNull (workspace : Workspace) : Prop where
  child : ∀ exp handle, workspace.refs.get? exp = some handle → handle.isNull = true →
    workspace.Refuses (.mem exp) .nullChild
  sides : ∀ dst src left right, workspace.refs.get? dst = some left → workspace.refs.get? src = some right →
    left.isNull = true ∨ right.isNull = true →
    workspace.Refuses (.move dst src) (if left.isNull then .nullDst else .nullSrc)

theorem Accounted.traceless (accounted : Accounted workspace [] none) (command : Command) :
    Traceless workspace command := by
  have unwinds := (accounted.from_underway command).unwind_eq accounted
  have gives {failure : Failure} (replies : (workspace.step command).1.value = .error failure)
      (suited : failure ≠ .badRequest) : (workspace.step command).2 = workspace.dropRefs command.taken := by
    obtain ⟨fails, leaves⟩ := outcome_eq_error_of_step replies
    exact leaves.trans (abandon_eq fails suited)
  refine ⟨fun failure replies kept => ?unchanged, fun failure replies suited => ?released,
    fun failure replies suited => unwinds.trans (gives replies suited).symm, ?unmatched⟩
  case unchanged =>
    by_cases suited : failure = .badRequest
    · obtain ⟨-, leaves⟩ := outcome_eq_error_of_step replies
      rw [leaves, suited, abandon_badRequest]
    · rw [gives replies suited, kept.resolve_right suited]
      rfl
  case released => exact gives replies suited ▸ accounted.released command.taken
  case unmatched =>
    rintro matcher target error fired rfl answers
    have same := workspace.step_query (.dispatch matcher target)
    exact ⟨fired_eq_nil_of_step answers, same, unwinds.trans same.symm⟩

/-- In every workspace that a run can reach, commands that fail leave no trace, and null is refused. -/
theorem failures_leave_no_trace (commands : List Command) (command : Command) :
    Traceless (empty.run commands).2 command ∧ RefusesNull (empty.run commands).2 :=
  ⟨(Accounted.run commands).traceless command, fun _ _ => refuses_mem, fun _ _ _ _ => refuses_move⟩

/-- A leaf that an access holds alone, a null beside them, a projection of nothing and a matcher without rules. -/
theorem failures_leave_no_trace_null :
    let commands : List Command := [.build (.int 7) true false "leaf", .build (.mem "leaf") true true "access",
      .derive (.null .node) "none", .nullProjection .mem "hollow", .matcher none "bare"]
    let failing : List Command := [.derive (.cast "access" (.exactly .int)) "cast",
      .derive (.cast "none" .node) "cast", .query (.content "none"), .query (.val "none"),
      .query (.render "none"), .project "none" "seen", .projectChildren "hollow" none,
      .build (.move "access" "none") true false "pair", .reset "access" (.mem "none")]
    let moving : Command := .build (.move "access" "none") true true "pair"
    let mixed : Command := .build (.move "access" "none") true (.moveOnly .dst) "pair"
    let reached := (empty.run commands).2
    (∀ command ∈ failing, (reached.step command).1.value.isOk = false ∧ (reached.step command).2 = reached) ∧
      ((reached.step (.query (.dispatch "bare" (.ref "access")))).1.value =
          .ok (.dispatched (.error (.noMatch .mem)) []) ∧
        (reached.step (.query (.dispatch "bare" (.ref "access")))).2 = reached) ∧
      (Released reached ["access", "none"] (reached.step moving).2 ∧
        (reached.underway moving).unwind = (reached.step moving).2) ∧
      (Released reached ["access"] (reached.step mixed).2 ∧
        (reached.underway mixed).unwind = (reached.step mixed).2) ∧
      reached.Refuses (.mem "none") .nullChild ∧ reached.Refuses (.move "none" "none") .nullDst ∧
      reached.Refuses (.move "access" "none") .nullSrc := by
  intro commands failing moving mixed reached
  have bound : reached.refs.get? "access" = some ⟨.exactly .mem, some 1⟩ := by decide +kernel
  have null : reached.refs.get? "none" = some ⟨.node, none⟩ := by decide +kernel
  have refuses := (failures_leave_no_trace commands moving).2
  have nullSrc := refuses.sides _ _ _ _ bound null (.inr rfl)
  have moved := (failures_leave_no_trace commands moving).1
  have shared := (failures_leave_no_trace commands mixed).1
  refine ⟨fun command among => ?failing, ?dispatch,
    ⟨moved.released _ (nullSrc.1 true true "pair") nofun, moved.unwound _ (nullSrc.1 true true "pair") nofun⟩,
    ⟨shared.released _ (nullSrc.1 true (.moveOnly .dst) "pair") nofun,
      shared.unwound _ (nullSrc.1 true (.moveOnly .dst) "pair") nofun⟩,
    refuses.child _ _ null rfl, refuses.sides _ _ _ _ null null (.inl rfl), nullSrc⟩
  case failing =>
    have refused : ∀ command ∈ failing,
        (reached.step command).1.value.isOk = false ∧ command.taken = [] := by decide +kernel
    obtain ⟨fails, keeps⟩ := refused command among
    refine ⟨fails, ?_⟩
    cases result : (reached.step command).1.value with
    | ok reply => exact nomatch result ▸ fails
    | error failure => exact (failures_leave_no_trace commands command).1.unchanged failure result (.inl keeps)
  case dispatch =>
    have answers : (reached.step (.query (.dispatch "bare" (.ref "access")))).1.value =
      .ok (.dispatched (.error (.noMatch .mem)) []) := by with_unfolding_all rfl
    have traceless := (failures_leave_no_trace commands (.query (.dispatch "bare" (.ref "access")))).1
    exact ⟨answers, (traceless.unmatched _ _ _ _ rfl answers).2.1⟩

end Workspace

end ShapeDispatch
