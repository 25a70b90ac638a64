import Mathlib.Data.List.Forall2
import ShapeDispatch.Proofs.WorkspaceChanges

/-! Which names a command writes. The command and its reply tell, and every other name stands for what it
stood for, however many handles share its node. -/

namespace ShapeDispatch

open Logged

namespace Command

/-- The references that were bound, replaced or dropped. Children that are given away go even if their node
could not be built. -/
def writtenRefs : Command → Except Failure Reply → List String
  | .build draft _ handover _, .error (.fault _) => handover.given draft
  | _, .error _ => []
  | .derive _ as, .ok _ => [as]
  | .child _ _ _, .ok .nothing => []
  | .child _ _ as, .ok _ => [as]
  | .build draft _ handover as, .ok _ => as :: handover.given draft
  | .chain _ _ _ _ as, .ok _ => [as]
  | .reset ref _, .ok _ => [ref]
  | .drop ref, .ok _ => [ref]
  | _, .ok _ => []

def writtenProjections : Command → Except Failure Reply → List String
  | .project _ as, .ok _ => [as]
  | .nullProjection _ as, .ok _ => [as]
  | .projectChildren _ (some stem), .ok (.children shown) =>
    (List.range shown.length).map (stem ++ toString ·)
  | .dropProjection name, .ok _ => [name]
  | _, _ => []

end Command

namespace Workspace

open Attempting

variable {workspace next : Workspace} {command : Command} {reply : Reply} {name other : String}

/-- The references that a run wrote. -/
def writtenRefs (workspace : Workspace) (commands : List Command) : List String :=
  (commands.zip (workspace.run commands).1).flatMap fun (command, reply) => command.writtenRefs reply.value

def writtenProjections (workspace : Workspace) (commands : List Command) : List String :=
  (commands.zip (workspace.run commands).1).flatMap fun (command, reply) =>
    command.writtenProjections reply.value

/-! References leave projections and matchers alone, and projections leave references alone. -/

theorem projections_dropRef (workspace : Workspace) (name : String) :
    (workspace.dropRef name).projections = workspace.projections := by
  rw [dropRef]
  cases workspace.refs.get? name <;> rfl

theorem matchers_dropRef (workspace : Workspace) (name : String) :
    (workspace.dropRef name).matchers = workspace.matchers := by
  rw [dropRef]
  cases workspace.refs.get? name <;> rfl

theorem refs_dropProjection (workspace : Workspace) (name : String) :
    (workspace.dropProjection name).refs = workspace.refs := by
  rw [dropProjection]
  cases workspace.projections.get? name <;> rfl

theorem projections_dropRefs (workspace : Workspace) (names : List String) :
    (workspace.dropRefs names).projections = workspace.projections := by
  induction names generalizing workspace with
  | nil => rfl
  | cons name names ih => exact (ih (workspace.dropRef name)).trans (workspace.projections_dropRef name)

theorem matchers_dropRefs (workspace : Workspace) (names : List String) :
    (workspace.dropRefs names).matchers = workspace.matchers := by
  induction names generalizing workspace with
  | nil => rfl
  | cons name names ih => exact (ih (workspace.dropRef name)).trans (workspace.matchers_dropRef name)

theorem projections_putRef (workspace : Workspace) (name : String) (handle : Handle) :
    (workspace.putRef name handle).projections = workspace.projections :=
  projections_dropRef { workspace with store := workspace.store.hold handle.target } name

theorem matchers_putRef (workspace : Workspace) (name : String) (handle : Handle) :
    (workspace.putRef name handle).matchers = workspace.matchers :=
  matchers_dropRef { workspace with store := workspace.store.hold handle.target } name

theorem refs_putProjection (workspace : Workspace) (name : String) (projection : Projection) :
    (workspace.putProjection name projection).refs = workspace.refs :=
  refs_dropProjection { workspace with store := workspace.store.hold projection.target } name

theorem refs_rebindAll (workspace : Workspace) (stem : String) (entries : List (Projection × Nat)) :
    (entries.foldl (fun workspace (projection, index) =>
      workspace.rebindProjection (stem ++ toString index) projection) workspace).refs = workspace.refs := by
  induction entries generalizing workspace with
  | nil => rfl
  | cons entry entries ih => exact (ih _).trans (workspace.refs_dropProjection (stem ++ toString entry.2))

theorem refs_putProjections (workspace : Workspace) (stem : String) (projections : List Projection) :
    (workspace.putProjections stem projections).refs = workspace.refs :=
  refs_rebindAll _ stem projections.zipIdx

/-! What stands under the other names. -/

theorem get?_refs_dropRef (workspace : Workspace) (different : other ≠ name) :
    (workspace.dropRef name).refs.get? other = workspace.refs.get? other := by
  rw [dropRef]
  cases workspace.refs.get? name with
  | none => rfl
  | some handle => exact workspace.refs.get?_erase_of_ne different

theorem get?_refs_dropRefs (workspace : Workspace) {names : List String} (kept : other ∉ names) :
    (workspace.dropRefs names).refs.get? other = workspace.refs.get? other := by
  induction names generalizing workspace with
  | nil => rfl
  | cons name names ih =>
    have first := workspace.get?_refs_dropRef (List.ne_of_not_mem_cons kept)
    exact (ih (workspace.dropRef name) (List.not_mem_of_not_mem_cons kept)).trans first

theorem get?_refs_putRef (workspace : Workspace) (handle : Handle) (different : other ≠ name) :
    (workspace.putRef name handle).refs.get? other = workspace.refs.get? other := by
  let holding := { workspace with store := workspace.store.hold handle.target }
  calc (workspace.putRef name handle).refs.get? other
    _ = (holding.dropRef name).refs.get? other := Bindings.get?_set_of_ne _ handle different
    _ = workspace.refs.get? other := holding.get?_refs_dropRef different

theorem get?_projections_dropProjection (workspace : Workspace) (different : other ≠ name) :
    (workspace.dropProjection name).projections.get? other = workspace.projections.get? other := by
  rw [dropProjection]
  cases workspace.projections.get? name with
  | none => rfl
  | some projection => exact workspace.projections.get?_erase_of_ne different

theorem get?_projections_rebindProjection (workspace : Workspace) (projection : Projection)
    (different : other ≠ name) :
    (workspace.rebindProjection name projection).projections.get? other =
      workspace.projections.get? other := calc
  _ = (workspace.dropProjection name).projections.get? other :=
    Bindings.get?_set_of_ne _ projection different
  _ = workspace.projections.get? other := workspace.get?_projections_dropProjection different

theorem get?_projections_rebindAll (workspace : Workspace) {stem : String}
    {entries : List (Projection × Nat)} (kept : ∀ entry ∈ entries, other ≠ stem ++ toString entry.2) :
    (entries.foldl (fun workspace (projection, index) =>
      workspace.rebindProjection (stem ++ toString index) projection) workspace).projections.get? other =
      workspace.projections.get? other := by
  induction entries generalizing workspace with
  | nil => rfl
  | cons entry entries ih =>
    have first := workspace.get?_projections_rebindProjection entry.1 (kept entry List.mem_cons_self)
    exact (ih _ fun later member => kept later (List.mem_cons_of_mem entry member)).trans first

theorem get?_projections_putProjections (workspace : Workspace) {stem : String} {projections : List Projection}
    (kept : other ∉ (List.range projections.length).map (stem ++ toString ·)) :
    (workspace.putProjections stem projections).projections.get? other =
      workspace.projections.get? other := by
  refine get?_projections_rebindAll _ fun entry member same => kept ?_
  have bound := List.snd_lt_of_mem_zipIdx member
  exact List.mem_map.mpr ⟨entry.2, List.mem_range.mpr (by omega), same.symm⟩

/-! One step. -/

theorem step_of_outcome_eq_ok (performs : outcome (workspace.perform command) = .ok (reply, next)) :
    (workspace.step command).1.value = .ok reply ∧ (workspace.step command).2 = next := by
  rw [outcome] at performs
  simp only [step, performs, and_self]

theorem step_of_outcome_eq_error {failure : Failure}
    (fails : outcome (workspace.perform command) = .error failure) :
    (workspace.step command).1.value = .error failure ∧
      (workspace.step command).2 = workspace.abandon command failure := by
  rw [outcome] at fails
  simp only [step, fails, and_self]

theorem outcome_eq_error_of_step {failure : Failure} (replies : (workspace.step command).1.value = .error failure) :
    outcome (workspace.perform command) = .error failure ∧
      (workspace.step command).2 = workspace.abandon command failure := by
  cases result : outcome (workspace.perform command) with
  | ok performed =>
    rw [(step_of_outcome_eq_ok result).1] at replies
    cases replies
  | error reason =>
    obtain ⟨refused, leaves⟩ := step_of_outcome_eq_error result
    cases refused.symm.trans replies
    exact ⟨rfl, leaves⟩

theorem exists_text_of_child {ref as : String} {index : Nat} {handle : Handle} {child : NodeId}
    (performs : outcome (workspace.perform (.child ref index as)) = .ok (reply, next))
    (bound : workspace.refs.get? ref = some handle)
    (below : ((handle.node? workspace.store).elim [] Node.children)[index]? = some child) :
    ∃ text, reply = .text text := by
  obtain ⟨found, known, rest⟩ := outcome_bind_eq_ok.mp performs
  obtain rfl : handle = found := Option.some.inj (bound.symm.trans (outcome_ref_eq_ok.mp known))
  simp only [below] at rest
  cases rest
  exact ⟨_, rfl⟩

theorem exists_shown_of_projectChildren {as : Option String} {projection : Projection}
    {children : List Projection}
    (performs : outcome (workspace.perform (.projectChildren name as)) = .ok (reply, next))
    (bound : workspace.projections.get? name = some projection)
    (below : outcome (projection.children workspace.store) = .ok children) :
    ∃ shown, reply = .children shown ∧ shown.length = children.length := by
  obtain ⟨found, known, rest⟩ := outcome_bind_eq_ok.mp performs
  obtain rfl : projection = found := Option.some.inj (bound.symm.trans (outcome_projection_eq_ok.mp known))
  obtain ⟨listed, lists, rest⟩ := outcome_bind_eq_ok.mp rest
  obtain rfl : children = listed := Except.ok.inj (below.symm.trans (outcome_requireLogged_eq_ok.mp lists))
  obtain ⟨shown, shows, ⟨⟩⟩ := outcome_bind_eq_ok.mp rest
  exact ⟨shown, rfl, (forall₂_of_outcome_mapM shows).length_eq.symm⟩

theorem Made.refs {draft : Draft} {id : NodeId} {made : Workspace} (makes : Made workspace draft id made) :
    made.refs = workspace.refs := by
  cases makes
  rfl

theorem Made.projections {draft : Draft} {id : NodeId} {made : Workspace}
    (makes : Made workspace draft id made) : made.projections = workspace.projections := by
  cases makes
  rfl

theorem Made.matchers {draft : Draft} {id : NodeId} {made : Workspace}
    (makes : Made workspace draft id made) : made.matchers = workspace.matchers := by
  cases makes
  rfl

theorem get?_refs_of_perform (performs : outcome (workspace.perform command) = .ok (reply, next))
    (kept : name ∉ command.writtenRefs (.ok reply)) :
    next.refs.get? name = workspace.refs.get? name := by
  cases performed_of_perform performs with
  | query | noChild | matcher | rule | fallback => rfl
  | derive => exact get?_refs_putRef _ _ (List.ne_of_not_mem_cons kept)
  | child bound below =>
    -- Only the reply tells this command from one that found no child and wrote nothing.
    obtain ⟨text, rfl⟩ := exists_text_of_child performs bound below
    exact get?_refs_putRef _ _ (List.ne_of_not_mem_cons kept)
  | @build draft typed handover as id made makes =>
    rw [get?_refs_putRef _ _ (List.ne_of_not_mem_cons kept), ← makes.refs]
    exact made.get?_refs_dropRefs (List.not_mem_of_not_mem_cons kept)
  | chain => exact get?_refs_putRef _ _ (List.ne_of_not_mem_cons kept)
  | reset bound makes => rw [get?_refs_putRef _ _ (List.ne_of_not_mem_cons kept), makes.refs]
  | drop => exact get?_refs_dropRef _ (List.ne_of_not_mem_cons kept)
  | project | nullProjection => rw [refs_putProjection]
  | @projectChildren name as projection children =>
    cases as with
    | none => rfl
    | some stem => rw [Option.elim_some, refs_putProjections]
  | dropProjection => rw [refs_dropProjection]

theorem get?_projections_of_perform (performs : outcome (workspace.perform command) = .ok (reply, next))
    (kept : name ∉ command.writtenProjections (.ok reply)) :
    next.projections.get? name = workspace.projections.get? name := by
  cases performed_of_perform performs with
  | query | noChild | matcher | rule | fallback => rfl
  | derive | child | chain => rw [projections_putRef]
  | @build draft typed handover as id made makes =>
    rw [projections_putRef, ← makes.projections, projections_dropRefs]
  | reset bound makes => rw [projections_putRef, makes.projections]
  | drop => rw [projections_dropRef]
  | project | nullProjection =>
    exact get?_projections_rebindProjection _ _ (List.ne_of_not_mem_cons kept)
  | @projectChildren source as projection children bound below =>
    cases as with
    | none => rfl
    | some stem =>
      obtain ⟨shown, rfl, length⟩ := exists_shown_of_projectChildren performs bound below
      refine workspace.get?_projections_putProjections ?_
      rwa [← length]
  | dropProjection => exact get?_projections_dropProjection _ (List.ne_of_not_mem_cons kept)

theorem get?_refs_abandon {failure : Failure} (kept : name ∉ command.writtenRefs (.error failure)) :
    (workspace.abandon command failure).refs.get? name = workspace.refs.get? name := by
  unfold abandon
  split
  next => exact workspace.get?_refs_dropRefs kept
  next => rfl

theorem projections_abandon (workspace : Workspace) (command : Command) (failure : Failure) :
    (workspace.abandon command failure).projections = workspace.projections := by
  unfold abandon
  split
  next => exact workspace.projections_dropRefs _
  next => rfl

theorem get?_refs_step (kept : name ∉ command.writtenRefs (workspace.step command).1.value) :
    (workspace.step command).2.refs.get? name = workspace.refs.get? name := by
  cases result : outcome (workspace.perform command) with
  | ok performed =>
    obtain ⟨replies, leaves⟩ := step_of_outcome_eq_ok result
    rw [replies] at kept
    rw [leaves]
    exact get?_refs_of_perform result kept
  | error failure =>
    obtain ⟨replies, leaves⟩ := step_of_outcome_eq_error result
    rw [replies] at kept
    rw [leaves]
    exact get?_refs_abandon kept

theorem get?_projections_step (kept : name ∉ command.writtenProjections (workspace.step command).1.value) :
    (workspace.step command).2.projections.get? name = workspace.projections.get? name := by
  cases result : outcome (workspace.perform command) with
  | ok performed =>
    obtain ⟨replies, leaves⟩ := step_of_outcome_eq_ok result
    rw [replies] at kept
    rw [leaves]
    exact get?_projections_of_perform result kept
  | error failure => rw [(step_of_outcome_eq_error result).2, projections_abandon]

/-! A whole run. -/

theorem get?_refs_run {commands : List Command} (kept : name ∉ workspace.writtenRefs commands) :
    (workspace.run commands).2.refs.get? name = workspace.refs.get? name := by
  induction commands generalizing workspace with
  | nil => rfl
  | cons command commands ih =>
    have first := get?_refs_step fun written => kept (List.mem_append_left _ written)
    exact (ih fun written => kept (List.mem_append_right _ written)).trans first

theorem get?_projections_run {commands : List Command}
    (kept : name ∉ workspace.writtenProjections commands) :
    (workspace.run commands).2.projections.get? name = workspace.projections.get? name := by
  induction commands generalizing workspace with
  | nil => rfl
  | cons command commands ih =>
    have first := get?_projections_step fun written => kept (List.mem_append_left _ written)
    exact (ih fun written => kept (List.mem_append_right _ written)).trans first

end Workspace

end ShapeDispatch
