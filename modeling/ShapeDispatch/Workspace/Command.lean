import ShapeDispatch.Pattern.Parser
import ShapeDispatch.RuleTable.Dispatch

/-! What a client can ask of a workspace, and what it gets back. Things are called by name. A query
only looks; a command may also make, bind, replace or drop what stands under a name. -/

namespace ShapeDispatch

abbrev Draft := Node String

inductive Part where
  | exp
  | dst
  | src
  deriving DecidableEq

def Node.part? {α : Type} : Part → Node α → Option α
  | .exp, .mem exp => some exp
  | .dst, .move dst _ => some dst
  | .src, .move _ src => some src
  | _, _ => none

/-- How a new node comes by its children. A child that is moved in gives up its name; any other is shared. -/
inductive Handover where
  | shareAll
  | moveAll
  | moveOnly (part : Part)
  deriving DecidableEq

namespace Handover

def ofFlag : Bool → Handover
  | false => shareAll
  | true => moveAll

instance : Coe Bool Handover := ⟨ofFlag⟩

/-- The names that are given up. -/
def given : Handover → Draft → List String
  | shareAll, _ => []
  | moveAll, draft => draft.children
  | moveOnly part, draft => (draft.part? part).toList

end Handover

inductive Target where
  | ref (name : String)
  | projection (name : String)
  deriving DecidableEq

inductive Query where
  | isA (ref : String) (kind : StaticKind)
  | isNull (ref : String)
  | kind (ref : String)
  | holders (ref : String)
  | render (ref : String)
  | describe (ref : String)
  | length (ref : String)
  | same (a b : String)
  | sameShape (a b : String)
  | content (ref : String)
  | val (ref : String)
  | projectionTag (projection : String)
  | projectionKind (projection : String)
  | projectionRender (projection : String)
  | sameProjection (a b : String)
  | fits (pattern : String) (target : Target)
  | hasFallback (matcher : String)
  | patterns (matcher : String)
  | dump (matcher : String)
  | select (matcher projection : String)
  | dispatch (matcher : String) (target : Target)
  deriving DecidableEq

inductive Derivation where
  | null (static : StaticKind)
  | clone (ref : String)
  | upcast (ref : String)
  | cast (ref : String) (wanted : StaticKind)
  | castOrNull (ref : String) (wanted : StaticKind)
  | part (ref : String) (part : Part)
  | projected (projection : String)
  deriving DecidableEq

/-- How a chain grows around the node made last. -/
inductive ChainShape where
  | mem
  | twice
  | dst
  | src
  deriving DecidableEq

inductive Command where
  | query (query : Query)
  | derive (derivation : Derivation) (as : String)
  | child (ref : String) (index : Nat) (as : String)
  /-- With `typed` the new reference is declared with the kind of the node. Children that are moved in give
  up their names whether or not the node can be built. -/
  | build (draft : Draft) (typed : Bool) (handover : Handover) (as : String)
  | chain (ref : String) (shape : ChainShape) (count : Nat) (leaf : Option String) (as : String)
  | reset (ref : String) (draft : Draft)
  | drop (ref : String)
  | project (ref as : String)
  | nullProjection (kind : Kind) (as : String)
  | projectChildren (projection : String) (as : Option String)
  | dropProjection (projection : String)
  | matcher (fallback : Option String) (as : String)
  | rule (matcher pattern label : String)
  | fallback (matcher label : String)
  deriving DecidableEq

inductive Reply where
  | nothing
  | flag (value : Bool)
  | count (value : Nat)
  | index (value : Option Nat)
  | text (value : String)
  | kind (value : Option Kind)
  | val (value : Int64)
  | content (value : Node String)
  | children (values : List (Kind × String))
  | patterns (values : List Pattern)
  /-- The outcome of a dispatch, with the numbers of the actions that ran. -/
  | dispatched (outcome : Except DispatchError String) (fired : List Nat)

inductive Failure where
  /-- A name stands for nothing, or for something that the request does not suit. -/
  | badRequest
  | reference (error : RefError)
  | fault (fault : Fault)
  | notPattern (text : String) (error : ParseError)
  deriving DecidableEq

end ShapeDispatch
