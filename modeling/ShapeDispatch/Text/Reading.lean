import ShapeDispatch.Text.Blank

/-! Reading from the front of a text. A reading always takes something, so that what is left is
shorter; where reading fails, the text still unread tells where. Tokens are symbols, whole words
and names made of word characters, each taken together with the blanks after it. -/

namespace ShapeDispatch.Text

structure Reading (text : List Char) (α : Type) where
  value : α
  rest : List Char
  shorter : rest.length < text.length

/-- A failure is the text unread at the place where reading stopped. -/
abbrev Attempt := Except (List Char)

namespace Reading

variable {α β : Type} {text : List Char}

def as (reading : Reading text α) (value : β) : Reading text β :=
  ⟨value, reading.rest, reading.shorter⟩

/-- Continues the first reading by the second, which supplies the value. -/
def followedBy (first : Reading text α) (second : Reading first.rest β) : Reading text β :=
  ⟨second.value, second.rest, Nat.lt_trans second.shorter first.shorter⟩

end Reading

def isWordChar (c : Char) : Bool := c.isAlphanum || c = '_'

def startsWithWord : List Char → Bool
  | [] => false
  | c :: _ => isWordChar c

def symbol (mark : Char) (text : List Char) : Attempt (Reading text Unit) :=
  match text with
  | [] => .error []
  | c :: rest =>
    if c = mark then
      .ok ⟨(), skipBlanks rest, Nat.lt_succ_of_le (length_skipBlanks_le rest)⟩
    else .error (c :: rest)

def dropLiteral? : (literal text : List Char) → Option (List Char)
  | [], text => some text
  | _ :: _, [] => none
  | c :: literal, d :: text => if c = d then dropLiteral? literal text else none

theorem dropLiteral?_eq_some_iff (literal text rest : List Char) :
    dropLiteral? literal text = some rest ↔ text = literal ++ rest := by
  induction literal generalizing text with
  | nil => simp only [dropLiteral?, Option.some.injEq, List.nil_append]
  | cons c literal ih =>
    cases text with
    | nil => simp [dropLiteral?]
    | cons d text =>
      by_cases same : c = d
      · simp [dropLiteral?, same, ih]
      · simp [dropLiteral?, same, Ne.symm same]

/-- The word `first :: others`, which must end where a word ends. A failure after the letters is
reported there, and any other one where the word should have begun. -/
def keyword (first : Char) (others text : List Char) : Attempt (Reading text Unit) :=
  match found : dropLiteral? (first :: others) text with
  | none => .error text
  | some rest =>
    if startsWithWord rest then .error rest
    else .ok ⟨(), skipBlanks rest, by
      have whole := (dropLiteral?_eq_some_iff _ _ _).mp found
      have kept := length_skipBlanks_le rest
      simp only [whole, List.cons_append, List.length_cons, List.length_append]
      omega⟩

/-- The longest run of word characters, if `accepts` holds of it. -/
def word (accepts : List Char → Bool) (text : List Char) : Attempt (Reading text (List Char)) :=
  match text with
  | [] => .error []
  | c :: others =>
    if isWordChar c ∧ accepts (c :: others.takeWhile isWordChar) then
      .ok ⟨c :: others.takeWhile isWordChar, skipBlanks (others.dropWhile isWordChar), by
        have kept := length_skipBlanks_le (others.dropWhile isWordChar)
        have dropped := (List.dropWhile_sublist isWordChar (l := others)).length_le
        simp only [List.length_cons]
        omega⟩
    else .error (c :: others)

end ShapeDispatch.Text
