/-! The three kinds of node, and the kind a reference is declared with. A declared kind is either
one of the three or the abstract kind that admits every node. -/

namespace ShapeDispatch

inductive Kind where
  | int
  | mem
  | move
  deriving DecidableEq

namespace Kind

def name : Kind → String
  | int => "Int"
  | mem => "Mem"
  | move => "Move"

def arity : Kind → Nat
  | int => 0
  | mem => 1
  | move => 2

def ofName? : String → Option Kind
  | "Int" => some int
  | "Mem" => some mem
  | "Move" => some move
  | _ => none

theorem ofName?_name (kind : Kind) : ofName? kind.name = some kind := by
  cases kind <;> rfl

end Kind

/-- What a reference promises about the node it points to. -/
inductive StaticKind where
  | node
  | exactly (kind : Kind)
  deriving DecidableEq

namespace StaticKind

def name : StaticKind → String
  | node => "Node"
  | exactly kind => kind.name

def admits : StaticKind → Kind → Bool
  | node, _ => true
  | exactly promised, kind => promised = kind

def ofName? (text : String) : Option StaticKind :=
  if text = "Node" then some node else (Kind.ofName? text).map exactly

theorem admits_exactly (promised kind : Kind) :
    (exactly promised).admits kind = true ↔ promised = kind := by
  simp only [admits, decide_eq_true_eq]

theorem ofName?_name (static : StaticKind) : ofName? static.name = some static := by
  cases static with
  | node => rfl
  | exactly kind => cases kind <;> rfl

end StaticKind

end ShapeDispatch
