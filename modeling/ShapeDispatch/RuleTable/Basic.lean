import ShapeDispatch.Log

/-! A rule table picks one action for a tree. Its rules stand from the most specific to the least,
equally specific ones in the order they were added, so the first rule that fits is the one to take.
The fallback stands outside the order and is taken when no rule fits. -/

namespace ShapeDispatch

structure Rule (α : Type) where
  pattern : Pattern
  action : α
  specificity : Specificity := pattern.specificity

structure RuleTable (α : Type) where
  rules : List (Rule α)
  fallback : Option α

inductive Choice (α : Type) where
  | rule (index : Nat) (rule : Rule α)
  | fallback (action : α)
  | nothing

namespace RuleTable

variable {α : Type} (table : RuleTable α)

def empty : RuleTable α := ⟨[], none⟩

/-- The rules that keep their place when one of this rank is added. -/
def notBelow (specificity : Specificity) : List (Rule α) :=
  table.rules.takeWhile fun rule => ¬rule.specificity < specificity

def below (specificity : Specificity) : List (Rule α) :=
  table.rules.dropWhile fun rule => ¬rule.specificity < specificity

/-- Adds a rule behind all that are at least as specific. -/
def add (pattern : Pattern) (action : α) : RuleTable α :=
  { table with
    rules := table.notBelow pattern.specificity ++
      { pattern, action } :: table.below pattern.specificity }

def setFallback (action : α) : RuleTable α :=
  { table with fallback := some action }

/-- Adds a rule and reports the index that it got. -/
def register (pattern : Pattern) (action : α) : Logged (RuleTable α) := do
  log (.registering pattern (table.notBelow pattern.specificity).length pattern.specificity)
  return table.add pattern action

def patterns : List Pattern := table.rules.map Rule.pattern

def hasFallback : Bool := table.fallback.isSome

def firstFit? (tree : Tree) : Option Nat :=
  table.rules.findIdx? fun rule => rule.pattern.fits tree

def choose (tree : Tree) : Choice α :=
  match (table.firstFit? tree).bind fun index => table.rules[index]?.map (index, ·) with
  | some (index, rule) => .rule index rule
  | none =>
    match table.fallback with
    | some action => .fallback action
    | none => .nothing

end RuleTable

end ShapeDispatch
