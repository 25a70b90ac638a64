import ShapeDispatch.Handle.Error
import ShapeDispatch.Log
import ShapeDispatch.Store.View

/-! Handles are what a client keeps of a store: a target, or nothing, under a declared kind. Casts
check the kind of the node, never the declaration, and two handles are the same when they point to
the same node. A projection is a handle whose kind has been read off the node. -/

namespace ShapeDispatch

structure Handle where
  static : StaticKind
  target : Option NodeId
  deriving DecidableEq

structure Projection where
  tag : Kind
  target : Option NodeId
  deriving DecidableEq

/-- The node over its children, unless one of them is nothing. The destination of a move is looked
at first. -/
def Node.seal : Node (Option NodeId) → Except Fault (Node NodeId)
  | .int val => .ok (.int val)
  | .mem none => .error .nullChild
  | .mem (some exp) => .ok (.mem exp)
  | .move none _ => .error .nullDst
  | .move (some _) none => .error .nullSrc
  | .move (some dst) (some src) => .ok (.move dst src)

namespace Handle

def null (static : StaticKind) : Handle := ⟨static, none⟩

def toNode (id : NodeId) : Handle := ⟨.node, some id⟩

def isNull (handle : Handle) : Bool := handle.target.isNone

def same (a b : Handle) : Bool := a.target = b.target

def upcast (handle : Handle) : Handle := ⟨.node, handle.target⟩

variable (store : Store) (handle : Handle)

def node? : Option (Node NodeId) := handle.target.bind store.node?

def kind? : Option Kind := (handle.node? store).map Node.kind

def tree? : Option Tree := handle.target.bind store.tree?

def holders : Nat := (handle.target.map store.holders).getD 0

def get : Except RefError (Node NodeId) :=
  match handle.node? store with
  | none => .error (.nullReference handle.static)
  | some node =>
    if handle.static.admits node.kind then .ok node
    else .error (.badCast (some node.kind) handle.static)

/-- The node itself, for a client that takes the handle to be usable. -/
def deref : Except Fault (Node NodeId) :=
  (handle.get store).mapError .dereference

def isA (wanted : StaticKind) : Bool :=
  (handle.kind? store).any wanted.admits

def cast (wanted : StaticKind) : ExceptT RefError Logged Handle := do
  match handle.kind? store with
  | none =>
    log (.badNullCast handle.static wanted)
    throw (.badCast none wanted)
  | some kind =>
    if wanted.admits kind then
      return ⟨wanted, handle.target⟩
    else
      log (.badCast kind wanted)
      throw (.badCast (some kind) wanted)

def castOrNull (wanted : StaticKind) : Handle :=
  match handle.kind? store with
  | none => null wanted
  | some kind => if wanted.admits kind then ⟨wanted, handle.target⟩ else null wanted

def project : ExceptT RefError Logged Projection := do
  match handle.kind? store with
  | none => throw (.nullReference handle.static)
  | some kind =>
    log (.projecting handle.static kind)
    return ⟨kind, (handle.castOrNull store (.exactly kind)).target⟩

/-- The same shape below both, or nothing in either. -/
def sameShape (other : Handle) : Bool :=
  match handle.tree? store, other.tree? store with
  | some a, some b => a.sameShape b
  | none, none => true
  | _, _ => false

def render : Except Fault String :=
  match handle.tree? store with
  | none => .error (.dereference (.nullReference handle.static))
  | some tree => .ok tree.render

/-- The declared kind with the text of the tree, or `null`. -/
def describe : String :=
  "Ref<" ++ handle.static.name ++ ">(" ++ ((handle.tree? store).map Tree.render).getD "null" ++ ")"

end Handle

end ShapeDispatch
