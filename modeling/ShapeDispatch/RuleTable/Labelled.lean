import ShapeDispatch.Pattern.LabelledRule
import ShapeDispatch.RuleTable.Basic

/-! Rule tables whose actions are labels. The action answers its label and the text of the tree, with
a blank between them. -/

namespace ShapeDispatch

def LabelledRule.answer (label : String) (tree : Tree) : String :=
  label ++ " " ++ tree.render

def RuleTable.ofRules (rules : List LabelledRule) (fallback : Option String) :
    Logged (RuleTable String) := do
  let table ← rules.foldlM (fun table rule => table.register rule.pattern rule.label) empty
  return fallback.elim table table.setFallback

end ShapeDispatch
