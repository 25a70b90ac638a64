import ShapeDispatch.RuleTable.Dispatch
import ShapeDispatch.RuleTable.Labelled

/-! The demonstration: five trees that share their leaves, to be dispatched through a table of
labels. The default table distinguishes nested memory accesses from plain ones, and moves between
equal shapes from other moves. -/

namespace ShapeDispatch.Demo

def defaultRules : List LabelledRule :=
  [⟨.mem (.mem .any), "Mem with a Mem child!"⟩,
    ⟨.mem .any, "Mem!"⟩,
    ⟨.moveAlike, "Move with same shape dst and src!"⟩,
    ⟨.move .any .any, "Move with different shape dst and src!"⟩]

def fallbackLabel : String := "auto!"

/-- The trees `Mem(42)`, `Mem(Mem(42))`, `Move(21,Mem(Mem(42)))`, `Move(21,42)` and `42`. They are
made of six nodes, all but the leaf 21 held by a handle. -/
def trees : List Handle × Store :=
  let (leaf, store) := Store.empty.alloc (.int 42)
  let (other, store) := store.alloc (.int 21)
  let (access, store) := store.alloc (.mem leaf)
  let (nested, store) := store.alloc (.mem access)
  let (unlike, store) := store.alloc (.move other nested)
  let (alike, store) := store.alloc (.move other leaf)
  let held := [access, nested, unlike, alike, leaf]
  (held.map Handle.toNode, held.foldl Store.retain store)

def handles : List Handle := trees.1

def store : Store := trees.2

def holders : List Nat := handles.map (·.holders store)

def run (table : RuleTable String) : ExceptT DispatchError Logged (List String) :=
  handles.mapM fun handle =>
    table.dispatchHandle (m := Logged) (fun label tree => return LabelledRule.answer label tree) store handle

end ShapeDispatch.Demo
