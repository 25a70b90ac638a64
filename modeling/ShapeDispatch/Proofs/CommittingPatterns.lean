import ShapeDispatch.Pattern.LabelledRule
import ShapeDispatch.Proofs.Commitment
import ShapeDispatch.Proofs.PatternReading

/-! The reader of patterns with its choices left open: four kinds of pattern in order, an argument that
may be missing, variables before patterns, and a commitment behind each open parenthesis. It goes the
way of `Pattern.read` through every text. Each pattern inside stands on a shorter text, so it never
wants more text than there is. -/

namespace ShapeDispatch

open Text

namespace Pattern

def memReader (inner : Reader Pattern) : Reader Pattern := do
  Reader.keyword Head.mem.word
  let exp ← Reader.perhaps (Reader.parenthesised inner)
  return mem (exp.getD any)

def variablesReader : Reader Pattern := do
  let dst ← Reader.verify Reader.word isVariable
  Reader.symbol ','
  let src ← Reader.verify Reader.word isVariable
  return if dst = src then moveAlike else move any any

def sidesReader (inner : Reader Pattern) : Reader Pattern := do
  let dst ← inner
  Reader.symbol ','
  let src ← Reader.commit inner
  return move dst src

def moveReader (inner : Reader Pattern) : Reader Pattern := do
  Reader.keyword Head.move.word
  let sides ← Reader.perhaps
    (Reader.parenthesised (Reader.either variablesReader (sidesReader inner)))
  return sides.getD (move any any)

/-- Tries the four kinds of pattern in order. The patterns inside stand on shorter texts. -/
def reader (text : List Char) : Ending Pattern :=
  let inner := Reader.below text fun rest _ => reader rest
  Reader.either (do Reader.keyword Head.any.word; return any)
    (Reader.either (do Reader.keyword Head.int.word; return int)
      (Reader.either (memReader inner) (moveReader inner))) text
termination_by text.length

def textReader : Reader Pattern := Reader.throughout do
  Reader.blanks
  reader

section Agreement

theorem Head.keyword_of_read {text rest : List Char} {head : Head}
    (found : outcome (Head.read text) = .ok (head, rest)) :
    Reader.keyword head.word text = .done () rest := by
  obtain ⟨after, whole, rfl⟩ := Head.outcome_read_eq_ok_iff.mp found
  have reads {first : Char} {others : List Char} (spelled : head.word = first :: others) :
      Reader.keyword (first :: others) text = .done () (skipBlanks after) := by
    rw [Reader.keyword_eq, outcome_keyword_eq_ok_iff.mpr ⟨after, spelled ▸ whole, rfl⟩]
    rfl
  cases head <;> exact reads rfl

theorem Head.keyword_of_other {text rest : List Char} {head : Head} (other : Head)
    (found : outcome (Head.read text) = .ok (head, rest)) (different : head ≠ other) :
    ∃ unread, Reader.keyword other.word text = .recoverable unread := by
  obtain ⟨after, whole, -⟩ := Head.outcome_read_eq_ok_iff.mp found
  have fails {first : Char} {others : List Char} (spelled : other.word = first :: others) :
      ∃ unread, Reader.keyword (first :: others) text = .recoverable unread := by
    have differentWords : head.word ≠ first :: others := by
      rw [← spelled]
      revert different
      cases head <;> cases other <;> decide
    obtain ⟨unread, stops⟩ := outcome_keyword_error_of_wholeWord whole head.isWordChar_of_mem_word
      (spelled ▸ other.isWordChar_of_mem_word) differentWords
    exact ⟨unread, by rw [Reader.keyword_eq, stops]; rfl⟩
  cases other <;> exact fails rfl

/-- Without a word in front, all four fail, and the last of them reports. -/
theorem Head.keyword_of_noHead {text stop : List Char} (none : outcome (Head.read text) = .error stop) :
    (∀ head : Head, ∃ unread, Reader.keyword head.word text = .recoverable unread) ∧
      Reader.keyword Head.move.word text = .recoverable stop := by
  rw [Head.outcome_read] at none
  split at none
  next => cases none
  next unreadAny noAny =>
    split at none
    next => cases none
    next unreadInt noInt =>
      split at none
      next => cases none
      next unreadMem noMem =>
        split at none
        next => cases none
        next unreadMove noMove =>
          cases none
          have stops {first : Char} {others unread : List Char}
              (fails : outcome (keyword first others text) = .error unread) :
              Reader.keyword (first :: others) text = .recoverable unread := by
            rw [Reader.keyword_eq, fails]
            rfl
          refine ⟨?_, stops noMove⟩
          intro head
          cases head with
          | any => exact ⟨unreadAny, stops noAny⟩
          | int => exact ⟨unreadInt, stops noInt⟩
          | mem => exact ⟨unreadMem, stops noMem⟩
          | move => exact ⟨_, stops noMove⟩

def innerReader (text : List Char) : Reader Pattern := Reader.below text fun rest _ => reader rest

/-- One call of the reader, in which `inner` is called for the patterns inside. -/
def call (inner : Reader Pattern) : Reader Pattern :=
  Reader.either (do Reader.keyword Head.any.word; return any)
    (Reader.either (do Reader.keyword Head.int.word; return int)
      (Reader.either (memReader inner) (moveReader inner)))

theorem reader_eq_call (text : List Char) : reader text = call (innerReader text) text := by
  rw [reader]
  rfl

section Call

variable {text after rest stop : List Char} (inner : Reader Pattern)

theorem memReader_of_noWord (missing : Reader.keyword Head.mem.word text = .recoverable stop) :
    memReader inner text = .recoverable stop := Reader.bind_of_recoverable missing _

theorem call_of_noHead (none : outcome (Head.read text) = .error stop) :
    call inner text = .recoverable stop := by
  obtain ⟨missing, last⟩ := Head.keyword_of_noHead none
  obtain ⟨_, noAny⟩ := missing .any
  obtain ⟨_, noInt⟩ := missing .int
  obtain ⟨_, noMem⟩ := missing .mem
  rw [call, Reader.either_of_recoverable (Reader.bind_of_recoverable noAny _),
    Reader.either_of_recoverable (Reader.bind_of_recoverable noInt _),
    Reader.either_of_recoverable (memReader_of_noWord _ noMem)]
  exact Reader.bind_of_recoverable last _

theorem call_of_any (found : outcome (Head.read text) = .ok (.any, rest)) :
    call inner text = .done any rest := by
  rw [call, Reader.either_of_done]
  exact Reader.bind_of_done (Head.keyword_of_read found) _

theorem call_of_int (found : outcome (Head.read text) = .ok (.int, rest)) :
    call inner text = .done int rest := by
  obtain ⟨_, noAny⟩ := Head.keyword_of_other .any found (by decide)
  rw [call, Reader.either_of_recoverable (Reader.bind_of_recoverable noAny _), Reader.either_of_done]
  exact Reader.bind_of_done (Head.keyword_of_read found) _

theorem call_of_mem (found : outcome (Head.read text) = .ok (.mem, after)) :
    call inner text = (do
      let exp ← Reader.perhaps (Reader.parenthesised inner)
      return mem (exp.getD any) : Reader Pattern) after := by
  obtain ⟨_, noAny⟩ := Head.keyword_of_other .any found (by decide)
  obtain ⟨_, noInt⟩ := Head.keyword_of_other .int found (by decide)
  rw [call, Reader.either_of_recoverable (Reader.bind_of_recoverable noAny _),
    Reader.either_of_recoverable (Reader.bind_of_recoverable noInt _)]
  rw [Reader.either, memReader, Reader.bind_of_done (Head.keyword_of_read found)]
  split
  next fails => exact absurd fails (Reader.perhaps_bind_ne_recoverable _ _ _ _)
  next => rfl

theorem call_of_move (found : outcome (Head.read text) = .ok (.move, after)) :
    call inner text = (do
      let sides ← Reader.perhaps
        (Reader.parenthesised (Reader.either variablesReader (sidesReader inner)))
      return sides.getD (move any any) : Reader Pattern) after := by
  obtain ⟨_, noAny⟩ := Head.keyword_of_other .any found (by decide)
  obtain ⟨_, noInt⟩ := Head.keyword_of_other .int found (by decide)
  obtain ⟨_, noMem⟩ := Head.keyword_of_other .mem found (by decide)
  rw [call, Reader.either_of_recoverable (Reader.bind_of_recoverable noAny _),
    Reader.either_of_recoverable (Reader.bind_of_recoverable noInt _),
    Reader.either_of_recoverable (memReader_of_noWord _ noMem)]
  rw [moveReader, Reader.bind_of_done (Head.keyword_of_read found)]

end Call

theorem reader_of_mem_done {text after rest : List Char} {exp : Option Pattern}
    (found : outcome (Head.read text) = .ok (.mem, after))
    (reads : Reader.perhaps (Reader.parenthesised (innerReader text)) after = .done exp rest) :
    reader text = .done (mem (exp.getD any)) rest := by
  rw [reader_eq_call, call_of_mem _ found]
  exact Reader.bind_of_done reads _

theorem reader_of_mem_committed {text after unread : List Char}
    (found : outcome (Head.read text) = .ok (.mem, after))
    (fails : Reader.perhaps (Reader.parenthesised (innerReader text)) after = .committed unread) :
    reader text = .committed unread := by
  rw [reader_eq_call, call_of_mem _ found]
  exact Reader.bind_of_committed fails _

def argumentsReader (text : List Char) : Reader Pattern :=
  Reader.either variablesReader (sidesReader (innerReader text))

theorem reader_of_move_done {text after rest : List Char} {sides : Option Pattern}
    (found : outcome (Head.read text) = .ok (.move, after))
    (reads : Reader.perhaps (Reader.parenthesised (argumentsReader text)) after = .done sides rest) :
    reader text = .done (sides.getD (move any any)) rest := by
  rw [reader_eq_call, call_of_move _ found]
  exact Reader.bind_of_done reads _

theorem reader_of_move_committed {text after unread : List Char}
    (found : outcome (Head.read text) = .ok (.move, after))
    (fails : Reader.perhaps (Reader.parenthesised (argumentsReader text)) after = .committed unread) :
    reader text = .committed unread := by
  rw [reader_eq_call, call_of_move _ found]
  exact Reader.bind_of_committed fails _

theorem variablesReader_eq (text : List Char) :
    variablesReader text = .ofOutcome (outcome (readVariables text)) := by
  -- Variables are read by tokens alone, whose failures may all be taken back.
  rw [outcome_readVariables, variablesReader]
  cases first : outcome (word isVariable text) with
  | error stop =>
    refine Reader.bind_of_recoverable ?_ _
    rw [Reader.verify_word_eq, first]
    rfl
  | ok dst =>
    have dstRead : Reader.verify Reader.word isVariable text = .done dst.1 dst.2 := by
      rw [Reader.verify_word_eq, first]
      rfl
    rw [Reader.bind_of_done dstRead]
    cases comma : outcome (symbol ',' dst.2) with
    | error stop =>
      simp only [bind, Except.bind, comma, Reader.symbol_of_error comma]
      rfl
    | ok found =>
      have commaRead : Reader.symbol ',' dst.2 = .done () found.2 := Reader.symbol_of_ok comma
      rw [Reader.bind_of_done commaRead]
      simp only [bind, Except.bind, comma, Reader.verify_word_eq]
      cases second : outcome (word isVariable found.2) with
      | error stop => rfl
      | ok src => rfl

section Variables

variable {text inner after other : List Char} {sides : Pattern} {called : Reader Pattern}

theorem arguments_of_variables (named : outcome (readVariables inner) = .ok (sides, after)) :
    Reader.either variablesReader (sidesReader called) inner = .done sides after :=
  Reader.either_of_done (by rw [variablesReader_eq, named]; rfl) _

theorem arguments_of_noVariables (noVariables : outcome (readVariables inner) = .error other) :
    Reader.either variablesReader (sidesReader called) inner = sidesReader called inner := by
  have fails : variablesReader inner = .recoverable other := by
    rw [variablesReader_eq, noVariables]
    rfl
  exact Reader.either_of_recoverable fails _

theorem argumentsReader_of_variables (named : outcome (readVariables inner) = .ok (sides, after)) :
    argumentsReader text inner = .done sides after :=
  arguments_of_variables named

theorem argumentsReader_of_noVariables (noVariables : outcome (readVariables inner) = .error other) :
    argumentsReader text inner = sidesReader (innerReader text) inner :=
  arguments_of_noVariables noVariables

end Variables

theorem innerReader_of_shorter {text rest : List Char} (shorter : rest.length < text.length) :
    innerReader text rest = reader rest :=
  Reader.below_of_shorter reader shorter

theorem innerReader_done {text rest after : List Char} {pattern : Pattern}
    (shorter : rest.length < text.length) (reads : (reader rest).settled = some (.ok (pattern, after))) :
    innerReader text rest = .done pattern after := by
  rw [innerReader_of_shorter shorter]
  exact Ending.settled_eq_some_ok_iff.mp reads

section Arguments

variable {text inner after rest stop : List Char} {sides : Pattern}

theorem settled_of_arguments_stuck (opens : Opens .move text inner)
    (stuck : (argumentsReader text inner).settled = some (.error stop)) :
    (reader text).settled = some (.error stop) := by
  obtain ⟨_, head, opened⟩ := opens
  rw [reader_of_move_committed head (Reader.perhaps_parenthesised_of_stuck opened stuck)]
  rfl

theorem settled_of_arguments_unclosed (opens : Opens .move text inner)
    (reads : argumentsReader text inner = .done sides after)
    (unclosed : outcome (symbol ')' after) = .error stop) :
    (reader text).settled = some (.error stop) := by
  obtain ⟨_, head, opened⟩ := opens
  rw [reader_of_move_committed head (Reader.perhaps_parenthesised_of_unclosed opened reads unclosed)]
  rfl

theorem settled_of_arguments_closed (opens : Opens .move text inner)
    (reads : argumentsReader text inner = .done sides after)
    (closed : outcome (symbol ')' after) = .ok ((), rest)) :
    (reader text).settled = some (.ok (sides, rest)) := by
  obtain ⟨_, head, opened⟩ := opens
  rw [reader_of_move_done head (Reader.perhaps_parenthesised_of_closed opened reads closed)]
  rfl

end Arguments

section Sides

variable {inner : Reader Pattern} {text after second rest stop : List Char} {dst src : Pattern}

theorem sidesReader_of_dstStuck (stuck : (inner text).settled = some (.error stop)) :
    (sidesReader inner text).settled = some (.error stop) := by
  obtain fails | fails := Ending.settled_eq_some_error_iff.mp stuck
  · rw [sidesReader, Reader.bind_of_recoverable fails]
    rfl
  · rw [sidesReader, Reader.bind_of_committed fails]
    rfl

theorem sidesReader_of_noComma (first : inner text = .done dst after)
    (noComma : outcome (symbol ',' after) = .error stop) :
    (sidesReader inner text).settled = some (.error stop) := by
  rw [sidesReader, Reader.bind_of_done first,
    Reader.bind_of_recoverable (Reader.symbol_of_error noComma)]
  rfl

theorem sidesReader_of_srcStuck (first : inner text = .done dst after)
    (comma : outcome (symbol ',' after) = .ok ((), second))
    (stuck : (inner second).settled = some (.error stop)) :
    (sidesReader inner text).settled = some (.error stop) := by
  rw [sidesReader, Reader.bind_of_done first, Reader.bind_of_done (Reader.symbol_of_ok comma),
    Reader.bind_of_committed (Reader.commit_of_settled_error stuck)]
  rfl

theorem sidesReader_of_both (first : inner text = .done dst after)
    (comma : outcome (symbol ',' after) = .ok ((), second)) (other : inner second = .done src rest) :
    sidesReader inner text = .done (move dst src) rest := by
  rw [sidesReader, Reader.bind_of_done first, Reader.bind_of_done (Reader.symbol_of_ok comma)]
  exact Reader.bind_of_done (Reader.commit_of_done other) _

end Sides

theorem Course.second_shorter {inner after second : List Char} {dst : Pattern}
    (first : Course inner (.ok (dst, after))) (comma : outcome (symbol ',' after) = .ok ((), second)) :
    second.length < inner.length :=
  Nat.lt_trans (length_lt_of_outcome comma) (length_lt_of_outcome (outcome_of_course first))

/-- The courses of the committing reader are those of the direct one, and none of them ends for want of
text. -/
theorem settled_reader_of_course {text : List Char} {result : Except (List Char) (Pattern × List Char)}
    (course : Course text result) : (reader text).settled = some result := by
  induction course with
  | noHead head => rw [reader_eq_call, call_of_noHead _ head]; rfl
  | any head => rw [reader_eq_call, call_of_any _ head]; rfl
  | int head => rw [reader_eq_call, call_of_int _ head]; rfl
  | memAlone alone =>
    obtain ⟨head, _, noArgument⟩ := alone
    rw [reader_of_mem_done head (Reader.perhaps_parenthesised_of_closedText noArgument)]
    rfl
  | moveAlone alone =>
    obtain ⟨head, _, noArguments⟩ := alone
    rw [reader_of_move_done head (Reader.perhaps_parenthesised_of_closedText noArguments)]
    rfl
  -- Behind an open parenthesis the text is shorter, so the reader inside is this one, as the course says.
  | memStuck opens _ ih =>
    have here := innerReader_of_shorter opens.shorter
    obtain ⟨after, head, opened⟩ := opens
    rw [← here] at ih
    rw [reader_of_mem_committed head (Reader.perhaps_parenthesised_of_stuck opened ih)]
    rfl
  | memUnclosed opens _ unclosed ih =>
    have reads := innerReader_done opens.shorter ih
    obtain ⟨after, head, opened⟩ := opens
    rw [reader_of_mem_committed head (Reader.perhaps_parenthesised_of_unclosed opened reads unclosed)]
    rfl
  | mem opens _ closed ih =>
    have reads := innerReader_done opens.shorter ih
    obtain ⟨after, head, opened⟩ := opens
    rw [reader_of_mem_done head (Reader.perhaps_parenthesised_of_closed opened reads closed)]
    rfl
  | namesUnclosed opens named unclosed =>
    exact settled_of_arguments_unclosed opens (argumentsReader_of_variables named) unclosed
  | names opens named closed =>
    exact settled_of_arguments_closed opens (argumentsReader_of_variables named) closed
  | dstStuck opens noVariables _ ih =>
    apply settled_of_arguments_stuck opens
    rw [argumentsReader_of_noVariables noVariables]
    apply sidesReader_of_dstStuck
    rwa [innerReader_of_shorter opens.shorter]
  | noComma opens noVariables _ comma ih =>
    apply settled_of_arguments_stuck opens
    rw [argumentsReader_of_noVariables noVariables]
    exact sidesReader_of_noComma (innerReader_done opens.shorter ih) comma
  | srcStuck opens noVariables first comma _ ihFirst ihSecond =>
    have shorter := Nat.lt_trans (first.second_shorter comma) opens.shorter
    apply settled_of_arguments_stuck opens
    rw [argumentsReader_of_noVariables noVariables]
    apply sidesReader_of_srcStuck (innerReader_done opens.shorter ihFirst) comma
    rwa [innerReader_of_shorter shorter]
  | moveUnclosed opens noVariables first comma _ unclosed ihFirst ihSecond =>
    have shorter := Nat.lt_trans (first.second_shorter comma) opens.shorter
    have both := sidesReader_of_both (innerReader_done opens.shorter ihFirst) comma
      (innerReader_done shorter ihSecond)
    rw [← argumentsReader_of_noVariables noVariables] at both
    exact settled_of_arguments_unclosed opens both unclosed
  | move opens noVariables first comma _ closed ihFirst ihSecond =>
    have shorter := Nat.lt_trans (first.second_shorter comma) opens.shorter
    have both := sidesReader_of_both (innerReader_done opens.shorter ihFirst) comma
      (innerReader_done shorter ihSecond)
    rw [← argumentsReader_of_noVariables noVariables] at both
    exact settled_of_arguments_closed opens both closed

theorem settled_reader (text : List Char) : (reader text).settled = some (outcome (read text)) := by
  obtain ⟨result, course⟩ := exists_course text
  rw [outcome_of_course course]
  exact settled_reader_of_course course

theorem reader_eq_done_iff {text rest : List Char} {pattern : Pattern} :
    reader text = .done pattern rest ↔ outcome (read text) = .ok (pattern, rest) := by
  rw [← Ending.settled_eq_some_ok_iff, settled_reader, Option.some.injEq]

theorem reader_fails_iff {text unread : List Char} :
    reader text = .recoverable unread ∨ reader text = .committed unread ↔
      outcome (read text) = .error unread := by
  rw [← Ending.settled_eq_some_error_iff, settled_reader, Option.some.injEq]

end Agreement

/-- The committing reader of whole texts never wants more text, and it answers as `parse` does. -/
theorem finish_textReader (text : String) :
    textReader text.toList ≠ .incomplete ∧ (textReader text.toList).finish = parse text := by
  have start : (do Reader.blanks; reader) text.toList = reader (skipBlanks text.toList) := rfl
  have agrees := settled_reader (skipBlanks text.toList)
  simp only [textReader, Reader.throughout, start, parse]
  cases reads : read (skipBlanks text.toList) with
  | error stop =>
    simp only [reads, outcome, Except.map] at agrees
    obtain fails | fails := Ending.settled_eq_some_error_iff.mp agrees <;>
      simp [fails, Ending.finish]
  | ok reading =>
    simp only [reads, outcome, Except.map] at agrees
    rw [Ending.settled_eq_some_ok_iff] at agrees
    by_cases whole : reading.rest = [] <;> simp [agrees, whole, Ending.finish]

end Pattern

namespace LabelledRule

def labelReader : Reader String := fun text => .done (String.ofList (trimEnd text)) []

def reader : Reader LabelledRule := do
  Reader.blanks
  let pattern ← Pattern.reader
  Reader.symbol '='
  let label ← labelReader
  return ⟨pattern, label⟩

theorem finish_reader (text : String) :
    reader text.toList ≠ .incomplete ∧ (reader text.toList).finish = parse text := by
  have start : Reader.blanks text.toList = .done () (skipBlanks text.toList) := rfl
  have agrees := Pattern.settled_reader (skipBlanks text.toList)
  rw [reader, Reader.bind_of_done start, parse]
  cases reads : Pattern.read (skipBlanks text.toList) with
  | error stop =>
    simp only [reads, outcome, Except.map] at agrees
    obtain fails | fails := Ending.settled_eq_some_error_iff.mp agrees
    · rw [Reader.bind_of_recoverable fails]
      exact ⟨by simp, rfl⟩
    · rw [Reader.bind_of_committed fails]
      exact ⟨by simp, rfl⟩
  | ok reading =>
    simp only [reads, outcome, Except.map] at agrees
    rw [Ending.settled_eq_some_ok_iff] at agrees
    rw [Reader.bind_of_done agrees]
    simp only
    cases mark : symbol '=' reading.rest with
    | error stop =>
      have fails : Reader.symbol '=' reading.rest = .recoverable stop :=
        Reader.symbol_of_error (by rw [mark]; rfl)
      rw [Reader.bind_of_recoverable fails]
      exact ⟨by simp, rfl⟩
    | ok found =>
      have marked : Reader.symbol '=' reading.rest = .done () found.rest :=
        Reader.symbol_of_ok (by rw [mark]; rfl)
      have labels : (labelReader >>= fun label => pure ⟨reading.value, label⟩ : Reader LabelledRule)
          found.rest = .done ⟨reading.value, String.ofList (trimEnd found.rest)⟩ [] := rfl
      rw [Reader.bind_of_done marked, labels]
      exact ⟨by simp, rfl⟩

end LabelledRule

end ShapeDispatch
