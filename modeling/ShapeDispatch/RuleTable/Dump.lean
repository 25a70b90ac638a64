import ShapeDispatch.RuleTable.Basic

/-! The text of a rule table: a line for each rule in order, with its pattern in a field of 24
characters that a longer pattern overruns, and a last line for the fallback if there is one. -/

namespace ShapeDispatch.RuleTable

def fieldWidth : Nat := 24

def padRight (text : String) : String :=
  text ++ String.ofList (List.replicate (fieldWidth - text.length) ' ')

def ruleLine {α : Type} (rule : Rule α) : String :=
  padRight rule.pattern.render ++ " depth " ++ toString rule.specificity.depth ++
    " constraints " ++ toString rule.specificity.constraints ++ "\n"

def fallbackLine : String := padRight Pattern.any.render ++ " fallback\n"

def dump {α : Type} (table : RuleTable α) : String :=
  String.join (table.rules.map ruleLine) ++ if table.hasFallback then fallbackLine else ""

end ShapeDispatch.RuleTable
