import ShapeDispatch.RuleTable.Dump
import ShapeDispatch.Workspace.Basic

/-! The answers to queries. They are computed from the workspace and leave it as it is. -/

namespace ShapeDispatch.Workspace

open Attempting

variable (workspace : Workspace)

def dispatchWith
    (action : ExceptT DispatchError (StateT (List Nat) Logged) String) : Attempting Reply := do
  let (outcome, fired) ← action.run.run []
  return .dispatched outcome fired

def answer : Query → Attempting Reply
  | .isA ref kind => return .flag ((← workspace.ref ref).isA workspace.store kind)
  | .isNull ref => return .flag (← workspace.ref ref).isNull
  | .kind ref => return .kind ((← workspace.ref ref).kind? workspace.store)
  | .holders ref => return .count ((← workspace.ref ref).holders workspace.store)
  | .render ref => do
    return .text (← require .fault ((← workspace.ref ref).render workspace.store))
  | .describe ref => return .text ((← workspace.ref ref).describe workspace.store)
  | .length ref => do
    return .count (← require .fault ((← workspace.ref ref).render workspace.store)).length
  | .same a b => return .flag ((← workspace.ref a).same (← workspace.ref b))
  | .sameShape a b => do
    return .flag ((← workspace.ref a).sameShape workspace.store (← workspace.ref b))
  | .content ref => do
    let node ← require .reference ((← workspace.ref ref).get workspace.store)
    let texts ← node.mapM fun child =>
      require .fault ((Handle.toNode child).render workspace.store)
    return .content texts
  | .val ref => do
    match ← require .fault ((← workspace.ref ref).deref workspace.store) with
    | .int val => return .val val
    | _ => throw .badRequest
  | .projectionTag name => return .kind (some (← workspace.projection name).tag)
  | .projectionKind name => return .kind ((← workspace.projection name).kind? workspace.store)
  | .projectionRender name => do
    return .text (← require .fault ((← workspace.projection name).render workspace.store))
  | .sameProjection a b => do
    return .flag ((← workspace.projection a) = (← workspace.projection b))
  | .fits text target => do
    let pattern ← require (.notPattern text) (Pattern.parse text)
    match target with
    | .projection name =>
      return .flag (pattern.fitsSubject ((← workspace.projection name).subject workspace.store))
    | .ref name =>
      match (← workspace.ref name).tree? workspace.store with
      | none => return .nothing
      | some tree => return .flag (pattern.fits tree)
  | .hasFallback name => return .flag (← workspace.matcher name).table.hasFallback
  | .patterns name => return .patterns (← workspace.matcher name).table.patterns
  | .dump name => return .text (← workspace.matcher name).table.dump
  | .select name projection => do
    let matcher ← workspace.matcher name
    return .index (matcher.table.select ((← workspace.projection projection).subject workspace.store))
  | .dispatch name target => do
    let matcher ← workspace.matcher name
    match target with
    | .projection name =>
      let projection ← workspace.projection name
      dispatchWith (matcher.table.dispatch Action.run (projection.subject workspace.store))
    | .ref name =>
      let handle ← workspace.ref name
      dispatchWith (matcher.table.dispatchHandle Action.run workspace.store handle)

end ShapeDispatch.Workspace
