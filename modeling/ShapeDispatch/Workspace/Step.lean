import ShapeDispatch.Workspace.Query

/-! Running commands. A command that fails leaves the workspace as it was, except that children
moved into a node that could not be built are gone. -/

namespace ShapeDispatch.Workspace

open Attempting

variable (workspace : Workspace)

def derive : Derivation → Attempting Handle
  | .null static => return .null static
  | .clone ref => workspace.ref ref
  | .upcast ref => return (← workspace.ref ref).upcast
  | .cast ref wanted => do requireLogged ((← workspace.ref ref).cast workspace.store wanted)
  | .castOrNull ref wanted => return (← workspace.ref ref).castOrNull workspace.store wanted
  | .part ref part => do
    let node ← require .fault ((← workspace.ref ref).deref workspace.store)
    return .toNode (← need (node.part? part))
  | .projected projection => return (← workspace.projection projection).upcast

def make (draft : Draft) : Attempting (NodeId × Workspace) := do
  let children ← draft.mapM workspace.ref
  let node ← require .fault (children.map Handle.target).seal
  let (id, store) := workspace.store.alloc node
  return (id, { workspace with store })

def link (shape : ChainShape) (top leaf : Option NodeId) : Node (Option NodeId) :=
  match shape with
  | .mem => .mem top
  | .twice => .move top top
  | .dst => .move top leaf
  | .src => .move leaf top

/-- Puts `count` nodes around `top`, one after the other. -/
def grow (shape : ChainShape) (leaf : Option NodeId) :
    Nat → Option NodeId → Store → Except Fault (Option NodeId × Store)
  | 0, top, store => .ok (top, store)
  | count + 1, top, store => do
    let node ← (link shape top leaf).seal
    let (id, store) := store.alloc node
    grow shape leaf count (some id) store

def bind (as : String) (handle : Handle) : Attempting (Reply × Workspace) :=
  return (.text (handle.describe workspace.store), workspace.putRef as handle)

def dropRefs (names : List String) : Workspace :=
  names.foldl dropRef workspace

/-- The reply to a command and the workspace after it. -/
def perform : Command → Attempting (Reply × Workspace)
  | .query query => return (← workspace.answer query, workspace)
  | .derive derivation as => do workspace.bind as (← workspace.derive derivation)
  | .child ref index as => do
    let children := ((← workspace.ref ref).node? workspace.store).elim [] Node.children
    match children[index]? with
    | none => return (.nothing, workspace)
    | some child => workspace.bind as (.toNode child)
  | .build draft typed handover as => do
    let (id, made) ← workspace.make draft
    let static := if typed then .exactly draft.kind else .node
    (made.dropRefs (handover.given draft)).bind as ⟨static, some id⟩
  | .chain ref shape count leaf as => do
    let top ← workspace.ref ref
    let leaf ← leaf.mapM workspace.ref
    let (target, store) ← require .fault
      (grow shape (leaf.bind Handle.target) count top.target workspace.store)
    return (.nothing, { workspace with store }.putRef as ⟨.node, target⟩)
  | .reset ref draft => do
    let handle ← workspace.ref ref
    let (id, made) ← workspace.make draft
    unless handle.static.admits draft.kind do throw .badRequest
    made.bind ref ⟨handle.static, some id⟩
  | .drop ref => return (.flag (workspace.refs.contains ref), workspace.dropRef ref)
  | .project ref as => do
    let projection ← requireLogged ((← workspace.ref ref).project workspace.store)
    return (.kind (some projection.tag), workspace.putProjection as projection)
  | .nullProjection kind as => return (.nothing, workspace.putProjection as ⟨kind, none⟩)
  | .projectChildren name as => do
    let children ← requireLogged ((← workspace.projection name).children workspace.store)
    let shown ← children.mapM fun child => do
      return (child.tag, ← require .fault (child.render workspace.store))
    return (.children shown, as.elim workspace (workspace.putProjections · children))
  | .dropProjection name =>
    return (.flag (workspace.projections.contains name), workspace.dropProjection name)
  | .matcher fallback as => return (.nothing, workspace.setMatcher as (.ofFallback fallback))
  | .rule name text label => do
    let matcher ← workspace.matcher name
    let pattern ← require (.notPattern text) (Pattern.parse text)
    let extended ← matcher.register pattern label
    return (.patterns extended.table.patterns, workspace.setMatcher name extended)
  | .fallback name label => do
    let extended := (← workspace.matcher name).setFallback label
    return (.patterns extended.table.patterns, workspace.setMatcher name extended)

/-- The workspace after a command that failed. -/
def abandon (command : Command) (failure : Failure) : Workspace :=
  match command, failure with
  | .build draft _ handover _, .fault _ => workspace.dropRefs (handover.given draft)
  | _, _ => workspace

def step (command : Command) : Logged (Except Failure Reply) × Workspace :=
  let result := (workspace.perform command).run
  match result.value with
  | .ok (reply, next) => (⟨result.events, .ok reply⟩, next)
  | .error failure => (⟨result.events, .error failure⟩, workspace.abandon command failure)

def run (workspace : Workspace) : List Command → List (Logged (Except Failure Reply)) × Workspace
  | [] => ([], workspace)
  | command :: commands =>
    let (reply, next) := workspace.step command
    let (replies, last) := run next commands
    (reply :: replies, last)

/-- The references by name, with their declared kinds and the holders of their nodes. -/
def summary : List (String × StaticKind × Nat) :=
  workspace.refs.entries.map fun (name, handle) =>
    (name, handle.static, handle.holders workspace.store)

end ShapeDispatch.Workspace
