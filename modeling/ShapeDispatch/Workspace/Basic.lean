import ShapeDispatch.RuleTable.Labelled
import ShapeDispatch.Workspace.Bindings
import ShapeDispatch.Workspace.Command

/-! A workspace is a store with everything that a client keeps of it: references, projections and
matchers, each under a name. A handle counts as a holder exactly as long as it stands under a name,
and a node that is no longer needed is gone at once. -/

namespace ShapeDispatch

/-- An action with the number it was registered under. -/
structure Action where
  number : Nat
  label : String
  deriving DecidableEq

namespace Action

def run (action : Action) (tree : Tree) : StateT (List Nat) Logged String := do
  modify (· ++ [action.number])
  return LabelledRule.answer action.label tree

end Action

/-- A rule table that numbers all actions it was ever given. -/
structure Matcher where
  table : RuleTable Action
  actions : Nat

namespace Matcher

def empty : Matcher := ⟨.empty, 0⟩

def setFallback (matcher : Matcher) (label : String) : Matcher :=
  ⟨matcher.table.setFallback ⟨matcher.actions, label⟩, matcher.actions + 1⟩

def ofFallback (fallback : Option String) : Matcher :=
  fallback.elim empty empty.setFallback

def register (matcher : Matcher) (pattern : Pattern) (label : String) : Logged Matcher := do
  let table ← matcher.table.register pattern ⟨matcher.actions, label⟩
  return ⟨table, matcher.actions + 1⟩

end Matcher

structure Workspace where
  store : Store
  refs : Bindings Handle
  projections : Bindings Projection
  matchers : Bindings Matcher

namespace Store

/-- Counts a handle with this target as a holder. -/
def hold (store : Store) (target : Option NodeId) : Store :=
  target.elim store store.retain

def letGo (store : Store) (target : Option NodeId) : Store :=
  target.elim store store.release

end Store

namespace Workspace

variable (workspace : Workspace)

def empty : Workspace := ⟨.empty, .empty, .empty, .empty⟩

def held : List (Option NodeId) :=
  workspace.refs.values.map Handle.target ++ workspace.projections.values.map Projection.target

def dropRef (name : String) : Workspace :=
  match workspace.refs.get? name with
  | none => workspace
  | some handle =>
    { workspace with
      store := workspace.store.letGo handle.target
      refs := workspace.refs.erase name }

def rebindRef (name : String) (handle : Handle) : Workspace :=
  let dropped := workspace.dropRef name
  { dropped with refs := dropped.refs.set name handle }

/-- Holds the new handle before it lets go of the old one. -/
def putRef (name : String) (handle : Handle) : Workspace :=
  { workspace with store := workspace.store.hold handle.target }.rebindRef name handle

def dropProjection (name : String) : Workspace :=
  match workspace.projections.get? name with
  | none => workspace
  | some projection =>
    { workspace with
      store := workspace.store.letGo projection.target
      projections := workspace.projections.erase name }

def rebindProjection (name : String) (projection : Projection) : Workspace :=
  let dropped := workspace.dropProjection name
  { dropped with projections := dropped.projections.set name projection }

def putProjection (name : String) (projection : Projection) : Workspace :=
  { workspace with store := workspace.store.hold projection.target }.rebindProjection name projection

/-- The projections go under `stem` with their index behind it. All of them are held before any name
changes, since one of the names may be what keeps the others alive. -/
def putProjections (stem : String) (projections : List Projection) : Workspace :=
  projections.zipIdx.foldl
    (fun workspace (projection, index) =>
      workspace.rebindProjection (stem ++ toString index) projection)
    { workspace with
      store := projections.foldl (fun store projection => store.hold projection.target)
        workspace.store }

def setMatcher (name : String) (matcher : Matcher) : Workspace :=
  { workspace with matchers := workspace.matchers.set name matcher }

end Workspace

/-- What a request does to a workspace, unless it fails. -/
abbrev Attempting := ExceptT Failure Logged

namespace Attempting

def need {α : Type} : Option α → Attempting α
  | none => throw .badRequest
  | some value => return value

/-- Goes on with the value, or fails for the given cause. -/
def require {ε α : Type} (cause : ε → Failure) (result : Except ε α) : Attempting α :=
  MonadExcept.ofExcept (result.mapError cause)

def requireLogged {α : Type} (action : ExceptT RefError Logged α) : Attempting α := do
  require .reference (← action.run)

end Attempting

namespace Workspace

open Attempting

variable (workspace : Workspace)

def ref (name : String) : Attempting Handle := need (workspace.refs.get? name)

def projection (name : String) : Attempting Projection := need (workspace.projections.get? name)

def matcher (name : String) : Attempting Matcher := need (workspace.matchers.get? name)

end Workspace

end ShapeDispatch
