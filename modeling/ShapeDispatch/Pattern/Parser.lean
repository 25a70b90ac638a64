import ShapeDispatch.Pattern.Basic
import ShapeDispatch.Text.Reading

/-! Reading patterns. `Mem` alone stands for `Mem(_)` and `Move` alone for `Move(_,_)`; between the
parentheses of a move stand two patterns or two variables. A variable stands for whatever tree is
there, so the same one twice asks for the same shape and two different ones ask for nothing.

An open parenthesis commits the reader: what goes wrong behind it is the error of the whole text. -/

namespace ShapeDispatch

open Text

/-- A text that is no pattern, with the number of its bytes behind the place of the failure. -/
structure ParseError where
  unread : Nat
  deriving DecidableEq

namespace ParseError

def ofUnread (rest : List Char) : ParseError := ⟨byteLength rest⟩

/-- The bytes of `text` before the place of the failure. -/
def column (error : ParseError) (text : String) : Nat := text.utf8ByteSize - error.unread

end ParseError

namespace Pattern

inductive Head where
  | any
  | int
  | mem
  | move
  deriving DecidableEq

namespace Head

/-- Tries the four words in order; when none is there, the last attempt reports. -/
def read (text : List Char) : Attempt (Reading text Head) :=
  match keyword '_' [] text with
  | .ok found => .ok (found.as any)
  | .error _ =>
    match keyword 'I' ['n', 't'] text with
    | .ok found => .ok (found.as int)
    | .error _ =>
      match keyword 'M' ['e', 'm'] text with
      | .ok found => .ok (found.as mem)
      | .error _ => (keyword 'M' ['o', 'v', 'e'] text).map (·.as move)

end Head

/-- Variables are capitalised and are none of the names of kinds. -/
def isVariable (name : List Char) : Bool :=
  (match name with
    | [] => false
    | c :: _ => c.isUpper) &&
  !([['I', 'n', 't'], ['M', 'e', 'm'], ['M', 'o', 'v', 'e']].contains name)

def readVariables (text : List Char) : Attempt (Reading text Pattern) := do
  let dst ← word isVariable text
  let comma ← symbol ',' dst.rest
  let src ← word isVariable comma.rest
  return dst.followedBy (comma.followedBy src)
    |>.as (if dst.value = src.value then moveAlike else move any any)

/-- Reads one pattern off the front of a text without leading blanks. -/
def read (text : List Char) : Attempt (Reading text Pattern) := do
  let head ← Head.read text
  match head.value with
  | .any => return head.as any
  | .int => return head.as int
  | .mem =>
    match symbol '(' head.rest with
    | .error _ => return head.as (mem any)
    | .ok opened =>
      let exp ← read opened.rest
      let closed ← symbol ')' exp.rest
      return head.followedBy (opened.followedBy (exp.followedBy closed))
        |>.as (mem exp.value)
  | .move =>
    match symbol '(' head.rest with
    | .error _ => return head.as (move any any)
    | .ok opened =>
      match readVariables opened.rest with
      | .ok sides =>
        let closed ← symbol ')' sides.rest
        return head.followedBy (opened.followedBy (sides.followedBy closed))
          |>.as sides.value
      | .error _ =>
        let dst ← read opened.rest
        let comma ← symbol ',' dst.rest
        let src ← read comma.rest
        let closed ← symbol ')' src.rest
        let sides := dst.followedBy (comma.followedBy (src.followedBy closed))
        return head.followedBy (opened.followedBy sides) |>.as (move dst.value src.value)
termination_by text.length
decreasing_by
  · exact Nat.lt_trans opened.shorter head.shorter
  · exact Nat.lt_trans opened.shorter head.shorter
  · exact Nat.lt_trans (Nat.lt_trans comma.shorter dst.shorter)
      (Nat.lt_trans opened.shorter head.shorter)

/-- Reads a text that is one pattern, with blanks around it. -/
def parse (text : String) : Except ParseError Pattern :=
  match read (skipBlanks text.toList) with
  | .error rest => .error (.ofUnread rest)
  | .ok reading =>
    if reading.rest.isEmpty then .ok reading.value else .error (.ofUnread reading.rest)

end Pattern

end ShapeDispatch
