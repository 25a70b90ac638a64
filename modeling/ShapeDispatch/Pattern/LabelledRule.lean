import ShapeDispatch.Pattern.Parser

/-! Rules as text: a pattern, an equals sign and a label that runs to the end. The label may hold
anything, further equals signs too; only what surrounds it is trimmed. -/

namespace ShapeDispatch

open Text

structure LabelledRule where
  pattern : Pattern
  label : String
  deriving DecidableEq

namespace LabelledRule

/-- Reads `PATTERN=LABEL`. The label is all that follows the mark, less the blanks in front and the
spaces at its end. -/
def parse (text : String) : Except ParseError LabelledRule :=
  match Pattern.read (skipBlanks text.toList) with
  | .error rest => .error (.ofUnread rest)
  | .ok reading =>
    match symbol '=' reading.rest with
    | .error rest => .error (.ofUnread rest)
    | .ok mark => .ok ⟨reading.value, String.ofList (trimEnd mark.rest)⟩

structure Rejected where
  index : Nat
  text : String
  error : ParseError
  deriving DecidableEq

def parseFrom (index : Nat) : List String → Except Rejected (List LabelledRule)
  | [] => .ok []
  | text :: others =>
    match parse text with
    | .error error => .error ⟨index, text, error⟩
    | .ok rule => (parseFrom (index + 1) others).map (rule :: ·)

def parseAll (texts : List String) : Except Rejected (List LabelledRule) :=
  parseFrom 0 texts

end LabelledRule

end ShapeDispatch
