import ShapeDispatch.Proofs.ParsePositions

/-! The two halves of a rule. The equals sign belongs to no token of a pattern, so the reader sees no
difference between the end of a text and an equals sign with anything behind it: it reads what stands
in front, or fails there at the same place. -/

namespace ShapeDispatch

open Text

namespace Text

/-- Begins, if at all, with a character that belongs to no token of a pattern. -/
structure Foreign (tail : List Char) : Prop where
  noWord : startsWithWord tail = false
  trimmed : Trimmed tail
  noMark : ∀ mark ∈ ['(', ',', ')'], tail.head? ≠ some mark

theorem foreign_equals (back : List Char) : Foreign ('=' :: back) where
  noWord := rfl
  trimmed := by
    intro c isFirst
    cases isFirst
    rfl
  noMark := by
    intro mark member same
    cases same
    exact absurd member (by decide)

variable {α : Type} {tail : List Char}

/-- The outcome where more text follows that was not looked at. -/
def outcomeBefore (tail : List Char) :
    Except (List Char) (α × List Char) → Except (List Char) (α × List Char)
  | .error stop => .error (stop ++ tail)
  | .ok (value, rest) => .ok (value, rest ++ tail)

theorem run_append {inRun : Char → Bool} (stops : ∀ c ∈ tail.head?, inRun c = false) (text : List Char) :
    (text ++ tail).takeWhile inRun = text.takeWhile inRun ∧
      (text ++ tail).dropWhile inRun = text.dropWhile inRun ++ tail := by
  induction text with
  | nil =>
    cases tail with
    | nil => exact ⟨rfl, rfl⟩
    | cons c tail =>
      have noRun : ¬inRun c = true := Bool.eq_false_iff.mp (stops c rfl)
      exact ⟨List.takeWhile_cons_of_neg noRun, List.dropWhile_cons_of_neg noRun⟩
  | cons c text ih =>
    by_cases goesOn : inRun c = true
    · simp only [List.cons_append, List.takeWhile_cons_of_pos goesOn, List.dropWhile_cons_of_pos goesOn,
        ih, and_self]
    · simp only [List.cons_append, List.takeWhile_cons_of_neg goesOn, List.dropWhile_cons_of_neg goesOn,
        and_self]

theorem skipBlanks_append (foreign : Foreign tail) (text : List Char) :
    skipBlanks (text ++ tail) = skipBlanks text ++ tail :=
  (run_append foreign.trimmed text).2

theorem Foreign.noWordChar (foreign : Foreign tail) : ∀ c ∈ tail.head?, isWordChar c = false := by
  intro c isFirst
  cases tail with
  | nil => cases isFirst
  | cons d tail =>
    cases isFirst
    exact foreign.noWord

theorem outcome_symbol_append (foreign : Foreign tail) {mark : Char} (known : mark ∈ ['(', ',', ')'])
    (text : List Char) :
    outcome (symbol mark (text ++ tail)) = outcomeBefore tail (outcome (symbol mark text)) := by
  cases reads : outcome (symbol mark text) with
  | error stop =>
    obtain ⟨other, rfl⟩ := outcome_symbol_eq_error_iff.mp reads
    refine outcome_symbol_eq_error_iff.mpr ⟨?_, rfl⟩
    cases stop with
    | nil => exact foreign.noMark mark known
    | cons c stop => exact other
  | ok found =>
    obtain ⟨_, rest⟩ := found
    obtain ⟨after, rfl, rfl⟩ := outcome_symbol_eq_ok_iff.mp reads
    exact outcome_symbol_eq_ok_iff.mpr ⟨after ++ tail, rfl, (skipBlanks_append foreign after).symm⟩

theorem dropLiteral?_append (foreign : Foreign tail) {literal : List Char}
    (letters : ∀ c ∈ literal, isWordChar c = true) (text : List Char) :
    dropLiteral? literal (text ++ tail) = (dropLiteral? literal text).map (· ++ tail) := by
  induction literal generalizing text with
  | nil => rfl
  | cons c literal ih =>
    cases text with
    | nil =>
      cases tail with
      | nil => rfl
      | cons d tail =>
        -- A letter of the literal against the first character of the tail, which is none.
        have different : c ≠ d := by
          intro same
          have letter := letters c List.mem_cons_self
          rw [same] at letter
          exact Bool.false_ne_true (foreign.noWord.symm.trans letter)
        simp only [List.nil_append, dropLiteral?, different, if_false, Option.map_none]
    | cons d text =>
      by_cases same : c = d
      · simp only [List.cons_append, dropLiteral?, same, if_true]
        exact ih (fun other member => letters other (List.mem_cons_of_mem c member)) text
      · simp only [List.cons_append, dropLiteral?, same, if_false, Option.map_none]

theorem startsWithWord_append_foreign (foreign : Foreign tail) (text : List Char) :
    startsWithWord (text ++ tail) = startsWithWord text := by
  cases text with
  | nil => exact foreign.noWord
  | cons c text => rfl

theorem outcome_keyword_append (foreign : Foreign tail) {first : Char} {others : List Char}
    (letters : ∀ c ∈ first :: others, isWordChar c = true) (text : List Char) :
    outcome (keyword first others (text ++ tail)) =
      outcomeBefore tail (outcome (keyword first others text)) := by
  rw [outcome_keyword, outcome_keyword, dropLiteral?_append foreign letters]
  cases dropLiteral? (first :: others) text with
  | none => rfl
  | some rest =>
    simp only [Option.map_some, startsWithWord_append_foreign foreign, skipBlanks_append foreign]
    by_cases longer : startsWithWord rest = true
    · simp only [longer, if_true, outcomeBefore]
    · simp only [longer, Bool.false_eq_true, if_false, outcomeBefore]

theorem outcome_word_append (foreign : Foreign tail) (accepts : List Char → Bool) (text : List Char) :
    outcome (word accepts (text ++ tail)) = outcomeBefore tail (outcome (word accepts text)) := by
  cases text with
  | nil =>
    cases tail with
    | nil => rfl
    | cons c tail =>
      have noLetter : isWordChar c = false := foreign.noWord
      simp [word, noLetter, outcome, Except.map, outcomeBefore]
  | cons c others =>
    obtain ⟨run, left⟩ := run_append foreign.noWordChar others
    by_cases accepted : isWordChar c = true ∧ accepts (c :: others.takeWhile isWordChar) = true
    · simp [word, run, left, accepted, outcome, Except.map, outcomeBefore, skipBlanks_append foreign]
    · simp [word, run, accepted, outcome, Except.map, outcomeBefore]

end Text

namespace Pattern

variable {tail : List Char}

theorem Head.outcome_read_append (foreign : Foreign tail) (text : List Char) :
    outcome (Head.read (text ++ tail)) = outcomeBefore tail (outcome (Head.read text)) := by
  have step (head : Head) {first : Char} {others : List Char} (spelled : head.word = first :: others) :
      outcome (keyword first others (text ++ tail)) =
        outcomeBefore tail (outcome (keyword first others text)) :=
    outcome_keyword_append foreign (spelled ▸ head.isWordChar_of_mem_word) text
  rw [Head.outcome_read, Head.outcome_read, step .any rfl, step .int rfl, step .mem rfl, step .move rfl]
  cases outcome (keyword '_' [] text) with
  | ok found => rfl
  | error _ =>
    cases outcome (keyword 'I' ['n', 't'] text) with
    | ok found => rfl
    | error _ =>
      cases outcome (keyword 'M' ['e', 'm'] text) with
      | ok found => rfl
      | error _ => cases outcome (keyword 'M' ['o', 'v', 'e'] text) <;> rfl

theorem outcome_readVariables_append (foreign : Foreign tail) (text : List Char) :
    outcome (readVariables (text ++ tail)) = outcomeBefore tail (outcome (readVariables text)) := by
  rw [outcome_readVariables, outcome_readVariables, outcome_word_append foreign]
  cases outcome (word isVariable text) with
  | error stop => rfl
  | ok dst =>
    have comma := outcome_symbol_append foreign (by decide : ',' ∈ ['(', ',', ')']) dst.2
    simp only [outcomeBefore, bind, Except.bind, comma]
    cases outcome (symbol ',' dst.2) with
    | error stop => rfl
    | ok found =>
      simp only [outcomeBefore, outcome_word_append foreign]
      cases outcome (word isVariable found.2) <;> rfl

theorem Opens.append (foreign : Foreign tail) {head : Head} {text inner : List Char}
    (opens : Opens head text inner) : Opens head (text ++ tail) (inner ++ tail) := by
  obtain ⟨after, name, opened⟩ := opens
  refine ⟨after ++ tail, ?_, ?_⟩
  · rw [Head.outcome_read_append foreign, name]
    rfl
  · rw [outcome_symbol_append foreign (by decide), opened]
    rfl

theorem Alone.append (foreign : Foreign tail) {head : Head} {text rest : List Char}
    (alone : Alone head text rest) : Alone head (text ++ tail) (rest ++ tail) := by
  obtain ⟨name, stop, none⟩ := alone
  refine ⟨?_, stop ++ tail, ?_⟩
  · rw [Head.outcome_read_append foreign, name]
    rfl
  · rw [outcome_symbol_append foreign (by decide), none]
    rfl

/-- The course through a text is the one through its beginning, up to a foreign character. -/
theorem Course.append (foreign : Foreign tail) {text : List Char}
    {result : Except (List Char) (Pattern × List Char)} (course : Course text result) :
    Course (text ++ tail) (outcomeBefore tail result) := by
  have head {text : List Char} {found : Except (List Char) (Head × List Char)}
      (reads : outcome (Head.read text) = found) :
      outcome (Head.read (text ++ tail)) = outcomeBefore tail found := by
    rw [Head.outcome_read_append foreign, reads]
  have mark {c : Char} (known : c ∈ ['(', ',', ')']) {text : List Char}
      {found : Except (List Char) (Unit × List Char)} (reads : outcome (symbol c text) = found) :
      outcome (symbol c (text ++ tail)) = outcomeBefore tail found := by
    rw [outcome_symbol_append foreign known, reads]
  have sides {text : List Char} {found : Except (List Char) (Pattern × List Char)}
      (reads : outcome (readVariables text) = found) :
      outcome (readVariables (text ++ tail)) = outcomeBefore tail found := by
    rw [outcome_readVariables_append foreign, reads]
  induction course with
  | noHead none => exact .noHead (head none)
  | any name => exact .any (head name)
  | int name => exact .int (head name)
  | memAlone alone => exact .memAlone (alone.append foreign)
  | memStuck opens _ ih => exact .memStuck (opens.append foreign) ih
  | memUnclosed opens _ unclosed ih =>
    exact .memUnclosed (opens.append foreign) ih (mark (by decide) unclosed)
  | mem opens _ closed ih => exact .mem (opens.append foreign) ih (mark (by decide) closed)
  | moveAlone alone => exact .moveAlone (alone.append foreign)
  | namesUnclosed opens named unclosed =>
    exact .namesUnclosed (opens.append foreign) (sides named) (mark (by decide) unclosed)
  | names opens named closed =>
    exact .names (opens.append foreign) (sides named) (mark (by decide) closed)
  | dstStuck opens noVariables _ ih =>
    exact .dstStuck (opens.append foreign) (sides noVariables) ih
  | noComma opens noVariables _ noComma ih =>
    exact .noComma (opens.append foreign) (sides noVariables) ih (mark (by decide) noComma)
  | srcStuck opens noVariables _ comma _ ihFirst ihOther =>
    exact .srcStuck (opens.append foreign) (sides noVariables) ihFirst (mark (by decide) comma) ihOther
  | moveUnclosed opens noVariables _ comma _ unclosed ihFirst ihOther =>
    exact .moveUnclosed (opens.append foreign) (sides noVariables) ihFirst (mark (by decide) comma)
      ihOther (mark (by decide) unclosed)
  | move opens noVariables _ comma _ closed ihFirst ihOther =>
    exact .move (opens.append foreign) (sides noVariables) ihFirst (mark (by decide) comma)
      ihOther (mark (by decide) closed)

theorem outcome_read_append (foreign : Foreign tail) (text : List Char) :
    outcome (read (text ++ tail)) = outcomeBefore tail (outcome (read text)) :=
  outcome_of_course ((course_iff.mpr rfl).append foreign)

end Pattern

/-- The label in a text: without the blanks in front, and then without the spaces at the end. -/
structure LabelIn (text label : List Char) : Prop where
  found : ∃ lead trail, text = lead ++ (label ++ trail) ∧ (∀ c ∈ lead, isBlank c = true) ∧
    Trimmed (label ++ trail) ∧ (∀ c ∈ trail, isSpace c = true)
  ends : ∀ c ∈ label.getLast?, isSpace c = false

theorem trimEnd_append_spaces (text : List Char) {trail : List Char} (spaces : ∀ c ∈ trail, isSpace c = true) :
    trimEnd (text ++ trail) = trimEnd text := by
  have allSpace : ∀ c ∈ trail.reverse, isSpace c = true :=
    fun c member => spaces c (List.mem_reverse.mp member)
  rw [trimEnd, List.reverse_append, List.dropWhile_append_of_pos allSpace, trimEnd]

theorem trimEnd_append {label trail : List Char} (spaces : ∀ c ∈ trail, isSpace c = true)
    (ends : ∀ c ∈ label.getLast?, isSpace c = false) : trimEnd (label ++ trail) = label := by
  rw [trimEnd_append_spaces label spaces, trimEnd]
  cases reversed : label.reverse with
  | nil => rw [List.reverse_eq_nil_iff.mp reversed]; rfl
  | cons c others =>
    have last : label.getLast? = some c := by rw [← List.head?_reverse, reversed]; rfl
    have noSpace : ¬isSpace c = true := Bool.eq_false_iff.mp (ends c last)
    rw [List.dropWhile_cons_of_neg noSpace, ← reversed, List.reverse_reverse]

theorem trimEnd_split (text : List Char) :
    ∃ trail, text = trimEnd text ++ trail ∧ (∀ c ∈ trail, isSpace c = true) ∧
      ∀ c ∈ (trimEnd text).getLast?, isSpace c = false := by
  refine ⟨(text.reverse.takeWhile isSpace).reverse, ?_, ?_, ?_⟩
  · rw [trimEnd, ← List.reverse_append, List.takeWhile_append_dropWhile, List.reverse_reverse]
  · intro c member
    exact List.mem_takeWhile_imp (List.mem_reverse.mp member)
  · intro c isLast
    have stops := List.head?_dropWhile_not isSpace text.reverse
    rw [trimEnd, List.getLast?_reverse] at isLast
    rw [isLast] at stops
    exact stops

theorem labelIn_iff (text label : List Char) :
    LabelIn text label ↔ trimEnd (skipBlanks text) = label := by
  constructor
  · intro labelIn
    obtain ⟨⟨lead, trail, split, blank, trimmed, spaces⟩, ends⟩ := labelIn
    rw [skipBlanks_eq_of_blanks ⟨lead, blank, split⟩ trimmed]
    exact trimEnd_append spaces ends
  · rintro rfl
    obtain ⟨lead, blank, split⟩ := blanks_skipBlanks text
    obtain ⟨trail, rest, spaces, ends⟩ := trimEnd_split (skipBlanks text)
    refine ⟨⟨lead, trail, ?_, blank, ?_, spaces⟩, ends⟩
    · rw [← rest, ← split]
    · rw [← rest]
      exact trimmed_skipBlanks text

namespace LabelledRule

variable {front back : List Char}

theorem no_mark_in_rest {text rest : List Char} {pattern : Pattern} (noMark : '=' ∉ text)
    (reads : outcome (Pattern.read (skipBlanks text)) = .ok (pattern, rest)) : '=' ∉ rest := by
  have stands : Pattern.StandsAt text rest := .inr ⟨pattern, reads⟩
  obtain ⟨lead, front, -, rfl, -⟩ := stands.split
  intro member
  exact noMark (List.mem_append_right lead (List.mem_append_right front member))

theorem outcome_mark_of_noMark {rest : List Char} (tail : List Char) (noMark : '=' ∉ rest)
    (more : rest ≠ []) : outcome (symbol '=' (rest ++ tail)) = .error (rest ++ tail) := by
  refine outcome_symbol_eq_error_iff.mpr ⟨?_, rfl⟩
  cases rest with
  | nil => exact absurd rfl more
  | cons c rest =>
    intro isMark
    rw [List.cons_append, List.head?_cons, Option.some.injEq] at isMark
    exact noMark (isMark ▸ List.mem_cons_self)

theorem parse_eq_halves {text : String} (split : text.toList = front ++ '=' :: back)
    (noMark : '=' ∉ front) :
    parse text =
      match Pattern.parse (String.ofList front) with
      | .error error => .error ⟨error.unread + byteLength ('=' :: back)⟩
      | .ok pattern => .ok ⟨pattern, String.ofList (trimEnd (skipBlanks back))⟩ := by
  have foreign := foreign_equals back
  rw [parse_eq_outcome, split, skipBlanks_append foreign, Pattern.outcome_read_append foreign,
    Pattern.parse_eq_outcome, String.toList_ofList]
  cases reads : outcome (Pattern.read (skipBlanks front)) with
  | error stop => simp only [outcomeBefore, ParseError.ofUnread, byteLength_append]
  | ok found =>
    obtain ⟨pattern, rest⟩ := found
    have noMarkLeft := no_mark_in_rest noMark reads
    cases rest with
    | nil =>
      have mark : outcome (symbol '=' ('=' :: back)) = .ok ((), skipBlanks back) :=
        outcome_symbol_eq_ok_iff.mpr ⟨back, rfl, rfl⟩
      simp only [outcomeBefore, List.nil_append, mark, List.isEmpty_nil, if_true]
    | cons c rest =>
      have noMarkHere := outcome_mark_of_noMark ('=' :: back) noMarkLeft (List.cons_ne_nil c rest)
      simp only [outcomeBefore, noMarkHere, List.isEmpty_cons, Bool.false_eq_true, if_false,
        ParseError.ofUnread, byteLength_append]

theorem parse_eq_of_noMark {text : String} (noMark : '=' ∉ text.toList) :
    parse text =
      match Pattern.parse text with
      | .error error => .error error
      | .ok _ => .error ⟨0⟩ := by
  rw [parse_eq_outcome, Pattern.parse_eq_outcome]
  cases reads : outcome (Pattern.read (skipBlanks text.toList)) with
  | error stop => rfl
  | ok found =>
    obtain ⟨pattern, rest⟩ := found
    have noMarkLeft := no_mark_in_rest noMark reads
    cases rest with
    | nil => rfl
    | cons c rest =>
      have noMarkHere := outcome_mark_of_noMark [] noMarkLeft (List.cons_ne_nil c rest)
      rw [List.append_nil] at noMarkHere
      simp only [noMarkHere, List.isEmpty_cons, Bool.false_eq_true, if_false]

end LabelledRule

def Pattern.FailsAt (text : String) (column : Nat) : Prop :=
  ∃ error, parse text = .error error ∧ error.column text = column

def LabelledRule.FailsAt (text : String) (column : Nat) : Prop :=
  ∃ error, parse text = .error error ∧ error.column text = column

theorem ParseError.column_append {front tail : List Char} {text : String}
    (split : text.toList = front ++ tail) (unread : Nat) :
    (ParseError.mk (unread + byteLength tail)).column text =
      (ParseError.mk unread).column (String.ofList front) := by
  have size : text.utf8ByteSize = byteLength front + byteLength tail := by
    rw [← byteLength_toList, split, byteLength_append]
  have sizeFront : (String.ofList front).utf8ByteSize = byteLength front := by
    rw [← byteLength_toList, String.toList_ofList]
  simp only [column, size, sizeFront]
  omega

/-- Up to its first equals sign a rule is a pattern, and it fails where that fails, whatever the label
is. A text without the sign is no rule: it fails as a pattern does, or else at its end. -/
theorem LabelledRule.parse_halves (text : String) :
    (∀ front back, text.toList = front ++ '=' :: back → '=' ∉ front →
      (∀ pattern label, parse text = .ok ⟨pattern, label⟩ ↔
        Pattern.parse (String.ofList front) = .ok pattern ∧ LabelIn back label.toList) ∧
      ∀ column, Pattern.FailsAt (String.ofList front) column → FailsAt text column) ∧
    ('=' ∉ text.toList →
      (∀ column, Pattern.FailsAt text column → FailsAt text column) ∧
      ∀ pattern, Pattern.parse text = .ok pattern → FailsAt text text.utf8ByteSize) := by
  constructor
  · intro front back split noMark
    have halves := parse_eq_halves split noMark
    constructor
    · intro pattern label
      rw [halves, labelIn_iff]
      cases Pattern.parse (String.ofList front) with
      | error error => simp only [reduceCtorEq, false_and]
      | ok found =>
        have sameLabel : String.ofList (trimEnd (skipBlanks back)) = label ↔
            trimEnd (skipBlanks back) = label.toList := by
          rw [← String.toList_inj, String.toList_ofList]
        simp only [Except.ok.injEq, mk.injEq, sameLabel]
    · rintro column ⟨error, fails, rfl⟩
      rw [fails] at halves
      exact ⟨_, halves, ParseError.column_append split error.unread⟩
  · intro noMark
    have same := parse_eq_of_noMark noMark
    constructor
    · rintro column ⟨error, fails, here⟩
      rw [fails] at same
      exact ⟨error, same, here⟩
    · intro pattern reads
      rw [reads] at same
      exact ⟨⟨0⟩, same, Nat.sub_zero _⟩

theorem LabelledRule.parse_halves_examples :
    parse "Move(A,B) =\t a=b " = .ok ⟨.move .any .any, "a=b"⟩ ∧ FailsAt "Mem(=Mem(_)" 4 ∧
      FailsAt "Mem" 3 := by
  refine ⟨?label, ?stuck, ?unlabelled⟩
  case label =>
    have reads : Pattern.parse "Move(A,B) " = .ok (.move .any .any) := by decide +kernel
    have noBlank : Trimmed ("a=b".toList ++ [' ']) := by
      intro c isFirst
      cases isFirst
      rfl
    have labelIn : LabelIn "\t a=b ".toList "a=b".toList := by
      refine ⟨⟨['\t', ' '], [' '], by decide, List.all_eq_true.mp rfl, noBlank,
        List.all_eq_true.mp rfl⟩, ?_⟩
      intro c isLast
      cases isLast
      rfl
    exact (((parse_halves _).1 "Move(A,B) ".toList "\t a=b ".toList (by decide) (by decide)).1 _ _).mpr
      ⟨reads, labelIn⟩
  case stuck =>
    have fails : Pattern.FailsAt "Mem(" 4 := ⟨⟨0⟩, by decide +kernel, by decide⟩
    exact ((parse_halves _).1 "Mem(".toList "Mem(_)".toList (by decide) (by decide)).2 4 fails
  case unlabelled =>
    have reads : Pattern.parse "Mem" = .ok (.mem .any) := by decide +kernel
    exact ((parse_halves "Mem").2 (by decide)).2 _ reads

end ShapeDispatch
