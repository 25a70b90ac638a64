import ShapeDispatch.Handle.Projection
import ShapeDispatch.RuleTable.Basic

/-! Dispatch runs the one action that a table chooses for a projected node, and reports the choice
first. Nothing runs when there is no node or no choice. The action runs in any monad that can report
events, so whatever it does happens exactly as often as it is run. -/

namespace ShapeDispatch

inductive DispatchError where
  | noMatch (kind : Kind)
  | reference (error : RefError)
  deriving DecidableEq

/-- What a dispatch looks at: a kind, and the tree of that kind unless there is none. -/
structure Subject where
  tag : Kind
  tree? : Option Tree
  deriving DecidableEq

namespace Subject

def ofTree (tree : Tree) : Subject := ⟨tree.kind, some tree⟩

end Subject

def Projection.subject (store : Store) (projection : Projection) : Subject :=
  ⟨projection.tag, projection.tree? store⟩

/-- Nothing fits where there is no tree. -/
def Pattern.fitsSubject (pattern : Pattern) (subject : Subject) : Bool :=
  subject.tree?.any pattern.fits

namespace RuleTable

variable {α β : Type} {m : Type → Type} [Monad m] [MonadLog m] (table : RuleTable α)

/-- The index of the rule that a dispatch would take. -/
def select (subject : Subject) : Option Nat :=
  subject.tree?.bind table.firstFit?

def dispatch (run : α → Tree → m β) (subject : Subject) : ExceptT DispatchError m β := do
  match subject.tree? with
  | none => throw (.reference (.nullReference (.exactly subject.tag)))
  | some tree =>
    match table.choose tree with
    | .rule index rule =>
      log (.matchedRule subject.tag index rule.pattern)
      run rule.action tree
    | .fallback action =>
      log (.usedFallback subject.tag)
      run action tree
    | .nothing =>
      log (.matchedNothing subject.tag)
      throw (.noMatch subject.tag)

/-- Projects the handle and dispatches what it points to. -/
def dispatchHandle [MonadLiftT Logged m] (run : α → Tree → m β) (store : Store) (handle : Handle) :
    ExceptT DispatchError m β := do
  match ← (handle.project store).run with
  | .error error => throw (.reference error)
  | .ok projection => table.dispatch run (projection.subject store)

end RuleTable

end ShapeDispatch
