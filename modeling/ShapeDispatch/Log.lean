import ShapeDispatch.Pattern.Basic

/-! What a run reports on the side. Events say what happened, and their wording is settled here and
nowhere else. A logged value carries the events that led to it, in order. -/

namespace ShapeDispatch

inductive Level where
  | debug
  | trace
  deriving DecidableEq

namespace Level

def name : Level → String
  | debug => "DEBUG"
  | trace => "TRACE"

/-- The least verbosity that shows messages of this level, on the scale that starts with errors,
warnings and information at 0, 1 and 2. -/
def verbosity : Level → Nat
  | debug => 3
  | trace => 4

end Level

inductive Event where
  | projecting (static : StaticKind) (kind : Kind)
  | badCast (kind : Kind) (wanted : StaticKind)
  | badNullCast (static wanted : StaticKind)
  | registering (pattern : Pattern) (index : Nat) (specificity : Specificity)
  | matchedRule (kind : Kind) (index : Nat) (pattern : Pattern)
  | usedFallback (kind : Kind)
  | matchedNothing (kind : Kind)
  deriving DecidableEq

namespace Event

def level : Event → Level
  | projecting .. | registering .. => .trace
  | _ => .debug

def message : Event → String
  | projecting static kind => "Projecting " ++ static.name ++ " as " ++ kind.name
  | badCast kind wanted => "Bad cast from " ++ kind.name ++ " to " ++ wanted.name
  | badNullCast static wanted => "Bad cast from null " ++ static.name ++ " to " ++ wanted.name
  | registering pattern index specificity =>
    "Registering " ++ pattern.render ++ " at " ++ toString index ++ " (Specificity \x7b depth: " ++
      toString specificity.depth ++ ", constraints: " ++ toString specificity.constraints ++ " \x7d)"
  | matchedRule kind index pattern =>
    kind.name ++ " matched rule " ++ toString index ++ " (" ++ pattern.render ++ ")"
  | usedFallback kind => kind.name ++ " matched no rule, using fallback"
  | matchedNothing kind => kind.name ++ " matched nothing"

end Event

structure Logged (α : Type) where
  events : List Event
  value : α

namespace Logged

instance : Monad Logged where
  pure value := ⟨[], value⟩
  bind first next :=
    let second := next first.value
    ⟨first.events ++ second.events, second.value⟩

instance : LawfulMonad Logged :=
  LawfulMonad.mk' Logged
    (by intro α logged; simp only [Functor.map, List.append_nil, id, Function.comp])
    (by intro α β value next; simp only [bind, pure, List.nil_append])
    (by intro α β γ first next last; simp only [bind, List.append_assoc])

theorem value_bind {α β : Type} (first : Logged α) (next : α → Logged β) :
    (first >>= next).value = (next first.value).value := rfl

theorem value_pure {α : Type} (value : α) : (pure value : Logged α).value = value := rfl

end Logged

class MonadLog (m : Type → Type) where
  log : Event → m Unit

export MonadLog (log)

instance : MonadLog Logged where
  log event := ⟨[event], ()⟩

instance {m n : Type → Type} [MonadLog m] [MonadLift m n] : MonadLog n where
  log event := liftM (log event : m Unit)

end ShapeDispatch
