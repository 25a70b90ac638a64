import ShapeDispatch.Pattern.Parser
import ShapeDispatch.Proofs.Tokens

/-! Readers that are put together from smaller ones. Where other ways of reading are still open, a failure
has a strength: a recoverable one lets the next way be tried, and a committed one is the failure of the
whole text. A reader that wants more text than there is reports no place at all. Tokens are read as by the
token readers, and they are where no reader has committed itself yet. -/

namespace ShapeDispatch

namespace Text

inductive Ending (α : Type) where
  | done (value : α) (rest : List Char)
  | recoverable (unread : List Char)
  | committed (unread : List Char)
  | incomplete

namespace Ending

variable {α : Type}

/-- The ending without the strength of its failure, unless it is for want of text. -/
def settled : Ending α → Option (Except (List Char) (α × List Char))
  | done value rest => some (.ok (value, rest))
  | recoverable unread => some (.error unread)
  | committed unread => some (.error unread)
  | incomplete => none

def finish : Ending α → Except ParseError α
  | done value _ => .ok value
  | recoverable unread => .error (.ofUnread unread)
  | committed unread => .error (.ofUnread unread)
  -- More text would have been wanted behind all that there is.
  | incomplete => .error ⟨0⟩

def ofOutcome : Except (List Char) (α × List Char) → Ending α
  | .ok (value, rest) => done value rest
  | .error unread => recoverable unread

theorem settled_eq_some_ok_iff {ending : Ending α} {value : α} {rest : List Char} :
    ending.settled = some (.ok (value, rest)) ↔ ending = done value rest := by
  cases ending <;> simp [settled]

theorem settled_eq_some_error_iff {ending : Ending α} {unread : List Char} :
    ending.settled = some (.error unread) ↔
      ending = recoverable unread ∨ ending = committed unread := by
  cases ending <;> simp [settled]

end Ending

def Reader (α : Type) : Type := List Char → Ending α

namespace Reader

variable {α β : Type}

instance : Monad Reader where
  pure value := fun text => .done value text
  bind first next := fun text =>
    match first text with
    | .done value rest => next value rest
    | .recoverable unread => .recoverable unread
    | .committed unread => .committed unread
    | .incomplete => .incomplete

def either (first second : Reader α) : Reader α := fun text =>
  match first text with
  | .recoverable _ => second text
  | ending => ending

def perhaps (reader : Reader α) : Reader (Option α) := fun text =>
  match reader text with
  | .done value rest => .done (some value) rest
  | .recoverable _ => .done none text
  | .committed unread => .committed unread
  | .incomplete => .incomplete

def commit (reader : Reader α) : Reader α := fun text =>
  match reader text with
  | .recoverable unread => .committed unread
  | ending => ending

def ahead (reader : Reader α) : Reader α := fun text =>
  match reader text with
  | .done value _ => .done value text
  | ending => ending

def verify (reader : Reader α) (accepts : α → Bool) : Reader α := fun text =>
  match reader text with
  | .done value rest => if accepts value then .done value rest else .recoverable text
  | ending => ending

def throughout (reader : Reader α) : Reader α := fun text =>
  match reader text with
  | .done value rest => if rest.isEmpty then .done value rest else .recoverable rest
  | ending => ending

def atEnd : Reader Unit := fun text =>
  if text.isEmpty then .done () text else .recoverable text

def anyChar : Reader Char
  | [] => .recoverable []
  | c :: rest => .done c rest

def literal (expected : List Char) : Reader Unit := fun text =>
  match dropLiteral? expected text with
  | some rest => .done () rest
  | none => .recoverable text

def blanks : Reader Unit := fun text => .done () (text.dropWhile isBlank)

/-- A reader of the texts that are shorter than `text`. Asked for any other one it would run for ever,
which here is to want more text. -/
def below (text : List Char)
    (reader : (rest : List Char) → rest.length < text.length → Ending α) : Reader α := fun rest =>
  if shorter : rest.length < text.length then reader rest shorter else .incomplete

def wordChars : Reader (List Char) := fun text =>
  match text.takeWhile isWordChar with
  | [] => .recoverable text
  | c :: others => .done (c :: others) (text.dropWhile isWordChar)

def wordEnd : Reader Unit :=
  either atEnd (do
    let _ ← ahead (verify anyChar fun c => !isWordChar c)
    return ())

def symbol (mark : Char) : Reader Unit := do
  literal [mark]
  blanks

def keyword (name : List Char) : Reader Unit := do
  literal name
  wordEnd
  blanks

def word : Reader (List Char) := do
  let name ← wordChars
  wordEnd
  blanks
  return name

/-- What an open parenthesis is followed by must be there, and closed. -/
def parenthesised (reader : Reader α) : Reader α := do
  symbol '('
  let value ← commit reader
  commit (symbol ')')
  return value

section Tokens

variable {α β : Type}

theorem bind_of_done {first : Reader α} {text rest : List Char} {value : α}
    (reads : first text = .done value rest) (next : α → Reader β) :
    (first >>= next) text = next value rest := by
  simp only [bind, reads]

theorem bind_of_recoverable {first : Reader α} {text unread : List Char}
    (fails : first text = .recoverable unread) (next : α → Reader β) :
    (first >>= next) text = .recoverable unread := by
  simp only [bind, fails]

theorem bind_of_committed {first : Reader α} {text unread : List Char}
    (fails : first text = .committed unread) (next : α → Reader β) :
    (first >>= next) text = .committed unread := by
  simp only [bind, fails]

theorem wordEnd_eq (text : List Char) :
    wordEnd text = if startsWithWord text then .recoverable text else .done () text := by
  cases text with
  | nil => rfl
  | cons c rest =>
    by_cases letter : isWordChar c = true
    · simp [wordEnd, either, atEnd, ahead, verify, anyChar, bind, startsWithWord, letter]
    · simp [wordEnd, either, atEnd, ahead, verify, anyChar, bind, pure, startsWithWord, letter]

theorem symbol_eq (mark : Char) (text : List Char) :
    symbol mark text = .ofOutcome (outcome (Text.symbol mark text)) := by
  cases text with
  | nil => rfl
  | cons c rest =>
    by_cases same : c = mark
    · simp [symbol, Text.symbol, literal, dropLiteral?, same, bind, blanks, outcome, Except.map,
        Ending.ofOutcome, skipBlanks]
    · simp [symbol, Text.symbol, literal, dropLiteral?, same, Ne.symm same, bind, outcome,
        Except.map, Ending.ofOutcome]

theorem keyword_eq (first : Char) (others text : List Char) :
    keyword (first :: others) text = .ofOutcome (outcome (Text.keyword first others text)) := by
  rw [Text.keyword]
  split
  next missing =>
    exact bind_of_recoverable (by rw [literal, missing]) _
  next rest found =>
    have start : literal (first :: others) text = .done () rest := by rw [literal, found]
    rw [keyword, bind_of_done start]
    by_cases longer : startsWithWord rest = true
    · rw [if_pos longer]
      exact bind_of_recoverable (by rw [wordEnd_eq, if_pos longer]) _
    · rw [if_neg longer]
      exact bind_of_done (by rw [wordEnd_eq, if_neg longer]) _

theorem verify_word_eq (accepts : List Char → Bool) (text : List Char) :
    verify word accepts text = .ofOutcome (outcome (Text.word accepts text)) := by
  cases text with
  | nil => rfl
  | cons c others =>
    by_cases letter : isWordChar c = true
    · have run : wordChars (c :: others) =
          .done (c :: others.takeWhile isWordChar) (others.dropWhile isWordChar) := by
        simp [wordChars, letter]
      have ends : wordEnd (others.dropWhile isWordChar) = .done () (others.dropWhile isWordChar) := by
        rw [wordEnd_eq, startsWithWord_dropWhile, if_neg Bool.false_ne_true]
      have reads : word (c :: others) =
          .done (c :: others.takeWhile isWordChar) (skipBlanks (others.dropWhile isWordChar)) := by
        rw [word, bind_of_done run, bind_of_done ends]
        rfl
      by_cases accepted : accepts (c :: others.takeWhile isWordChar) = true
      · simp [verify, reads, accepted, Text.word, letter, outcome, Except.map, Ending.ofOutcome]
      · simp [verify, reads, accepted, Text.word, letter, outcome, Except.map, Ending.ofOutcome]
    · have stops : wordChars (c :: others) = .recoverable (c :: others) := by
        simp [wordChars, letter]
      have fails : word (c :: others) = .recoverable (c :: others) := bind_of_recoverable stops _
      simp [verify, fails, Text.word, letter, outcome, Except.map, Ending.ofOutcome]

theorem below_of_shorter {text rest : List Char} (reader : Reader α)
    (shorter : rest.length < text.length) : below text (fun rest _ => reader rest) rest = reader rest :=
  dif_pos shorter

theorem either_of_done {first : Reader α} {text rest : List Char} {value : α}
    (reads : first text = .done value rest) (second : Reader α) :
    either first second text = .done value rest := by
  simp only [either, reads]

theorem either_of_recoverable {first : Reader α} {text unread : List Char}
    (fails : first text = .recoverable unread) (second : Reader α) :
    either first second text = second text := by
  simp only [either, fails]

theorem commit_of_done {reader : Reader α} {text rest : List Char} {value : α}
    (reads : reader text = .done value rest) : commit reader text = .done value rest := by
  simp only [commit, reads]

theorem commit_of_settled_error {reader : Reader α} {text unread : List Char}
    (fails : (reader text).settled = some (.error unread)) :
    commit reader text = .committed unread := by
  obtain stopped | stopped := Ending.settled_eq_some_error_iff.mp fails <;>
    simp only [commit, stopped]

theorem symbol_of_ok {mark : Char} {text rest : List Char}
    (reads : outcome (Text.symbol mark text) = .ok ((), rest)) : symbol mark text = .done () rest := by
  rw [symbol_eq, reads]
  rfl

theorem symbol_of_error {mark : Char} {text unread : List Char}
    (fails : outcome (Text.symbol mark text) = .error unread) :
    symbol mark text = .recoverable unread := by
  rw [symbol_eq, fails]
  rfl

theorem perhaps_bind_ne_recoverable (reader : Reader α) (next : Option α → β) (text unread : List Char) :
    (do let value ← perhaps reader; return next value : Reader β) text ≠ .recoverable unread := by
  simp only [bind, perhaps, pure]
  cases reader text <;> exact nofun

theorem perhaps_parenthesised_of_closedText {reader : Reader α} {text unread : List Char}
    (alone : outcome (Text.symbol '(' text) = .error unread) :
    perhaps (parenthesised reader) text = .done none text := by
  simp only [perhaps, parenthesised, bind_of_recoverable (symbol_of_error alone)]

theorem perhaps_parenthesised_of_stuck {reader : Reader α} {text inner unread : List Char}
    (opened : outcome (Text.symbol '(' text) = .ok ((), inner))
    (stuck : (reader inner).settled = some (.error unread)) :
    perhaps (parenthesised reader) text = .committed unread := by
  have stops : parenthesised reader text = .committed unread := by
    rw [parenthesised, bind_of_done (symbol_of_ok opened)]
    exact bind_of_committed (commit_of_settled_error stuck) _
  simp only [perhaps, stops]

theorem perhaps_parenthesised_of_unclosed {reader : Reader α} {text inner after unread : List Char}
    {value : α} (opened : outcome (Text.symbol '(' text) = .ok ((), inner))
    (reads : reader inner = .done value after)
    (unclosed : outcome (Text.symbol ')' after) = .error unread) :
    perhaps (parenthesised reader) text = .committed unread := by
  have stops : parenthesised reader text = .committed unread := by
    rw [parenthesised, bind_of_done (symbol_of_ok opened), bind_of_done (commit_of_done reads)]
    refine bind_of_committed (commit_of_settled_error ?_) _
    rw [symbol_of_error unclosed]
    rfl
  simp only [perhaps, stops]

theorem perhaps_parenthesised_of_closed {reader : Reader α} {text inner after rest : List Char}
    {value : α} (opened : outcome (Text.symbol '(' text) = .ok ((), inner))
    (reads : reader inner = .done value after)
    (closed : outcome (Text.symbol ')' after) = .ok ((), rest)) :
    perhaps (parenthesised reader) text = .done (some value) rest := by
  have whole : parenthesised reader text = .done value rest := by
    rw [parenthesised, bind_of_done (symbol_of_ok opened), bind_of_done (commit_of_done reads)]
    exact bind_of_done (commit_of_done (symbol_of_ok closed)) _
  simp only [perhaps, whole]

end Tokens

end Reader

end Text

end ShapeDispatch
