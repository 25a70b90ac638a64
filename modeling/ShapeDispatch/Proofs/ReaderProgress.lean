import Mathlib.Data.List.Infix
import ShapeDispatch.Proofs.ParsePositions

/-! Why reading a pattern comes to an end. A call of the reader calls it again for the patterns inside,
and only behind an open parenthesis, where some of the text has been read already. So each call is on
less text than the one that it comes from, whichever ways of reading were given up before. -/

namespace ShapeDispatch

open Text

namespace Text

/-- What is left of a text when some of it has been read. -/
def Behind (text rest : List Char) : Prop := rest <:+ text ∧ rest.length < text.length

theorem Behind.trans {text middle rest : List Char} (first : Behind text middle) (second : Behind middle rest) :
    Behind text rest :=
  ⟨second.1.trans first.1, Nat.lt_trans second.2 first.2⟩

theorem behind_of_symbol {mark : Char} {text rest : List Char}
    (reads : outcome (symbol mark text) = .ok ((), rest)) : Behind text rest := by
  refine ⟨?_, length_lt_of_outcome reads⟩
  obtain ⟨tail, rfl, rfl⟩ := outcome_symbol_eq_ok_iff.mp reads
  exact (List.dropWhile_suffix _).trans (List.suffix_cons mark tail)

theorem isValid_of_suffix {text rest : List Char} (suffix : rest <:+ text) :
    (String.Pos.Raw.mk (byteLength text - byteLength rest)).IsValid (String.ofList text) := by
  obtain ⟨front, rfl⟩ := suffix
  refine String.Pos.Raw.isValid_iff_exists_append.mpr
    ⟨String.ofList front, String.ofList rest, String.ofList_append, ?_⟩
  have size := byteLength_toList (String.ofList front)
  rw [String.toList_ofList] at size
  rw [byteLength_append, Nat.add_sub_cancel, size]
  rfl

namespace Reader

variable {α : Type}

theorem parenthesised_congr {reader reader' : Reader α} {text : List Char}
    (same : ∀ inner, outcome (Text.symbol '(' text) = .ok ((), inner) → reader inner = reader' inner) :
    parenthesised reader text = parenthesised reader' text := by
  rw [parenthesised, parenthesised]
  cases opened : outcome (Text.symbol '(' text) with
  | error stop =>
    rw [bind_of_recoverable (symbol_of_error opened), bind_of_recoverable (symbol_of_error opened)]
  | ok found =>
    rw [bind_of_done (symbol_of_ok opened), bind_of_done (symbol_of_ok opened)]
    simp only [bind, commit, same _ opened]

theorem parenthesised_of_incomplete {reader : Reader α} {text inner : List Char}
    (opened : outcome (Text.symbol '(' text) = .ok ((), inner)) (stuck : reader inner = .incomplete) :
    parenthesised reader text = .incomplete := by
  rw [parenthesised, bind_of_done (symbol_of_ok opened)]
  simp only [bind, commit, stuck]

end Reader

end Text

namespace Pattern

/-- The texts that the patterns inside stand on: the argument of `Mem`, and the sides of a move unless they
are variables. -/
inductive Inside (text : List Char) : List Char → Prop where
  | exp {inner : List Char} (opens : Opens .mem text inner) : Inside text inner
  | dst {inner other : List Char} (opens : Opens .move text inner)
      (noVariables : outcome (readVariables inner) = .error other) : Inside text inner
  | src {inner other after second : List Char} {dst : Pattern} (opens : Opens .move text inner)
      (noVariables : outcome (readVariables inner) = .error other)
      (first : outcome (read inner) = .ok (dst, after))
      (comma : outcome (symbol ',' after) = .ok ((), second)) : Inside text second

/-- The reader, except that it does not end on `rest`. -/
def stuckOn (rest : List Char) : Reader Pattern := fun other =>
  if other = rest then .incomplete else reader other

/-- A call on `text` comes to one on `rest`: it does not end if that one does not. -/
def Calls (text rest : List Char) : Prop := call (stuckOn rest) text = .incomplete

/-- The reader with calls inside one another down to some depth. What would go deeper does not end. -/
def nested : Nat → Reader Pattern
  | 0 => fun _ => .incomplete
  | depth + 1 => call (nested depth)

section Progress

variable {text rest inner : List Char} {pattern : Pattern}

theorem Opens.behind {head : Head} (opens : Opens head text inner) : Behind text inner := by
  refine ⟨?_, opens.shorter⟩
  obtain ⟨name, opened, rfl, -, -⟩ := opens.split
  exact (List.suffix_append opened inner).trans (List.suffix_append name _)

theorem behind_of_read (reads : outcome (read text) = .ok (pattern, rest)) : Behind text rest := by
  refine ⟨?_, length_lt_of_outcome reads⟩
  obtain ⟨front, rfl, -⟩ := (derives_of_course (course_iff.mpr reads) rfl).split
  exact List.suffix_append front rest

theorem Inside.behind (inside : Inside text rest) : Behind text rest := by
  cases inside with
  | exp opens => exact opens.behind
  | dst opens _ => exact opens.behind
  | src opens _ first comma => exact opens.behind.trans ((behind_of_read first).trans (behind_of_symbol comma))

theorem trimmed_of_course {result : Except (List Char) (Pattern × List Char)} (course : Course text result)
    (reads : result = .ok (pattern, rest)) : Trimmed rest := by
  have behindHead {head : Head} (found : outcome (Head.read text) = .ok (head, rest)) : Trimmed rest := by
    obtain ⟨after, -, rfl⟩ := Head.outcome_read_eq_ok_iff.mp found
    exact trimmed_skipBlanks after
  have behindClosing {after : List Char} (closed : outcome (symbol ')' after) = .ok ((), rest)) :
      Trimmed rest := by
    obtain ⟨tail, -, rfl⟩ := outcome_symbol_eq_ok_iff.mp closed
    exact trimmed_skipBlanks tail
  cases course with
  | noHead | memStuck | memUnclosed | namesUnclosed | dstStuck | noComma | srcStuck | moveUnclosed =>
    cases reads
  | any head | int head => cases reads; exact behindHead head
  | memAlone alone | moveAlone alone => cases reads; exact behindHead alone.1
  | mem _ _ closed | names _ _ closed | move _ _ _ _ _ closed => cases reads; exact behindClosing closed

end Progress

section Calls

variable {text rest inner : List Char}

theorem sidesReader_congr {reader reader' : Reader Pattern} (first : reader text = reader' text)
    (second : ∀ dst after between, reader text = .done dst after →
      outcome (symbol ',' after) = .ok ((), between) → reader between = reader' between) :
    sidesReader reader text = sidesReader reader' text := by
  rw [sidesReader, sidesReader]
  simp only [bind, ← first]
  cases reads : reader text with
  | done dst after =>
    cases comma : outcome (symbol ',' after) with
    | error stop => simp only [Reader.symbol_of_error comma]
    | ok found => simp only [Reader.symbol_of_ok comma, Reader.commit, second dst after _ reads comma]
  | recoverable | committed | incomplete => rfl

theorem call_eq_of_inside {called : Reader Pattern}
    (same : ∀ rest, Inside text rest → called rest = reader rest) : call called text = reader text := by
  have agrees (rest : List Char) (inside : Inside text rest) : called rest = innerReader text rest := by
    rw [same rest inside, innerReader_of_shorter inside.behind.2]
  rw [reader_eq_call]
  cases head : outcome (Head.read text) with
  | error stop => rw [call_of_noHead _ head, call_of_noHead _ head]
  | ok found =>
    obtain ⟨name, after⟩ := found
    cases name with
    | any => rw [call_of_any _ head, call_of_any _ head]
    | int => rw [call_of_int _ head, call_of_int _ head]
    | mem =>
      have argument : Reader.parenthesised called after = Reader.parenthesised (innerReader text) after :=
        Reader.parenthesised_congr fun inner opened => agrees inner (.exp ⟨after, head, opened⟩)
      rw [call_of_mem _ head, call_of_mem _ head]
      simp only [bind, Reader.perhaps, argument]
    | move =>
      have arguments : Reader.parenthesised (Reader.either variablesReader (sidesReader called)) after =
          Reader.parenthesised (argumentsReader text) after := by
        refine Reader.parenthesised_congr fun inner opened => ?_
        have opens : Opens .move text inner := ⟨after, head, opened⟩
        cases named : outcome (readVariables inner) with
        | ok found => rw [arguments_of_variables named, argumentsReader_of_variables named]
        | error other =>
          rw [arguments_of_noVariables named, argumentsReader_of_noVariables named]
          refine sidesReader_congr (agrees inner (.dst opens named)) fun dst between second reads comma => ?_
          rw [same inner (.dst opens named)] at reads
          exact agrees second (.src opens named (reader_eq_done_iff.mp reads) comma)
      rw [call_of_move _ head, call_of_move _ head]
      simp only [bind, Reader.perhaps, arguments, argumentsReader]

theorem reader_ne_incomplete (text : List Char) : reader text ≠ .incomplete := by
  intro stuck
  have settled := settled_reader text
  rw [stuck] at settled
  cases settled

theorem stuckOn_self (rest : List Char) : stuckOn rest rest = .incomplete := if_pos rfl

theorem stuckOn_of_ne {other : List Char} (different : other ≠ rest) : stuckOn rest other = reader other :=
  if_neg different

theorem inside_of_calls (calls : Calls text rest) : Inside text rest := by
  by_contra elsewhere
  have ends : call (stuckOn rest) text = reader text := by
    refine call_eq_of_inside fun other inside => stuckOn_of_ne ?_
    rintro rfl
    exact elsewhere inside
  exact reader_ne_incomplete text (ends.symm.trans calls)

theorem call_of_arguments_incomplete {called : Reader Pattern} {other : List Char}
    (opens : Opens .move text inner) (noVariables : outcome (readVariables inner) = .error other)
    (stuck : sidesReader called inner = .incomplete) : call called text = .incomplete := by
  obtain ⟨after, head, opened⟩ := opens
  have arguments : Reader.parenthesised (Reader.either variablesReader (sidesReader called)) after =
      .incomplete :=
    Reader.parenthesised_of_incomplete opened ((arguments_of_noVariables noVariables).trans stuck)
  rw [call_of_move _ head]
  simp only [bind, Reader.perhaps, arguments]

theorem calls_of_inside (inside : Inside text rest) : Calls text rest := by
  rw [Calls]
  cases inside with
  | exp opens =>
    obtain ⟨after, head, opened⟩ := opens
    rw [call_of_mem _ head]
    simp only [bind, Reader.perhaps, Reader.parenthesised_of_incomplete opened (stuckOn_self rest)]
  | dst opens noVariables =>
    refine call_of_arguments_incomplete opens noVariables ?_
    simp only [sidesReader, bind, stuckOn_self]
  | @src inner other after _ dst opens noVariables first comma =>
    refine call_of_arguments_incomplete opens noVariables ?_
    -- The side in front is another text than the one asked for, which is shorter.
    have different : inner ≠ rest := by
      rintro rfl
      exact Nat.lt_irrefl _ ((behind_of_read first).trans (behind_of_symbol comma)).2
    simp only [sidesReader, bind, stuckOn_of_ne different, reader_eq_done_iff.mpr first,
      Reader.symbol_of_ok comma, Reader.commit, stuckOn_self]

theorem calls_iff_inside : Calls text rest ↔ Inside text rest :=
  ⟨inside_of_calls, calls_of_inside⟩

theorem nested_eq_reader {depth : Nat} (enough : text.length < depth) : nested depth text = reader text := by
  induction depth generalizing text with
  | zero => exact absurd enough (Nat.not_lt_zero _)
  | succ depth ih =>
    -- A call asks for endings on texts inside only, and these are shorter.
    refine call_eq_of_inside fun rest inside => ih ?_
    exact Nat.lt_of_lt_of_le inside.behind.2 (Nat.le_of_lt_succ enough)

theorem suffix_of_read_fails {unread : List Char} (stops : outcome (read text) = .error unread) :
    unread <:+ text := by
  obtain ⟨front, rfl, -⟩ := completable_of_course (course_iff.mpr stops) rfl
  exact List.suffix_append front unread

end Calls

/-- Reading ends on every text: calls inside one another one deeper than it has characters are enough, and the
bound under which the reader calls itself is never met. A pattern is read off the front with the blanks behind
it, every call for a pattern inside is on some of what is left then, and a failure of either strength is
reported in front of some of the text. -/
theorem reader_progress (text : List Char) :
    (reader text ≠ .incomplete ∧ call reader text = reader text ∧
      (∀ depth, text.length < depth → nested depth text = reader text) ∧
      (reader text).settled = some (outcome (read text))) ∧
    (∀ pattern rest, reader text = .done pattern rest → Behind text rest ∧ Trimmed rest ∧
      (String.Pos.Raw.mk (byteLength text - byteLength rest)).IsValid (String.ofList text)) ∧
    (∀ rest, (Calls text rest ↔ Inside text rest) ∧ (Calls text rest → Behind text rest)) ∧
    ∀ unread, reader text = .recoverable unread ∨ reader text = .committed unread →
      unread <:+ text ∧ (reader text).finish = .error ⟨byteLength unread⟩ := by
  refine ⟨⟨reader_ne_incomplete text, call_eq_of_inside fun _ _ => rfl, fun _ => nested_eq_reader,
    settled_reader text⟩, ?done, ?calls, ?fails⟩
  case done =>
    intro pattern rest done
    have reads := reader_eq_done_iff.mp done
    have behind := behind_of_read reads
    exact ⟨behind, trimmed_of_course (course_iff.mpr reads) rfl, isValid_of_suffix behind.1⟩
  case calls =>
    exact fun rest => ⟨calls_iff_inside, fun calls => (inside_of_calls calls).behind⟩
  case fails =>
    intro unread fails
    refine ⟨suffix_of_read_fails (reader_fails_iff.mp fails), ?_⟩
    obtain stops | stops := fails <;> rw [stops] <;> rfl

/-- A move whose first side is tried as a variable before it is called for, with more text behind it, and an
argument that is given up in front of a character of two bytes. -/
theorem reader_progress_sides :
    let move := "Move(Mem, Int) é".toList
    let broken := "Mem(é".toList
    Calls move "Mem, Int) é".toList ∧ Calls move "Int) é".toList ∧
      Behind move "Int) é".toList ∧ Behind move ['é'] ∧ nested 17 move = .done (.move (.mem .any) .int) ['é'] ∧
      (reader broken).finish = .error ⟨2⟩ := by
  intro move broken
  have opens : Opens .move move "Mem, Int) é".toList :=
    ⟨"(Mem, Int) é".toList, by decide +kernel, by decide +kernel⟩
  have noVariables : outcome (readVariables "Mem, Int) é".toList) = .error "Mem, Int) é".toList := by
    decide +kernel
  have dst : Calls move "Mem, Int) é".toList := calls_of_inside (.dst opens noVariables)
  have first : outcome (read "Mem, Int) é".toList) = .ok (.mem .any, ", Int) é".toList) := by decide +kernel
  have comma : outcome (symbol ',' ", Int) é".toList) = .ok ((), "Int) é".toList) := by decide +kernel
  have src : Calls move "Int) é".toList := calls_of_inside (.src opens noVariables first comma)
  have done : reader move = .done (.move (.mem .any) .int) ['é'] := reader_eq_done_iff.mpr (by decide +kernel)
  have fails : reader broken = .recoverable ['é'] ∨ reader broken = .committed ['é'] :=
    reader_fails_iff.mpr (by decide +kernel)
  obtain ⟨⟨-, -, deep, -⟩, ends, calls, -⟩ := reader_progress move
  exact ⟨dst, src, (calls _).2 src, (ends _ _ done).1, (deep 17 (by decide)).trans done,
    ((reader_progress broken).2.2.2 _ fails).2⟩

end Pattern

end ShapeDispatch
