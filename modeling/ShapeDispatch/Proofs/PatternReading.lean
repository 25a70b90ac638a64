import ShapeDispatch.Pattern.Parser
import ShapeDispatch.Proofs.Tokens

/-! How the reader of patterns goes over a text. A course of the reader is one way through it, from the
word in front down to the token at which it ends or fails, with a course for each pattern inside. Every
text has exactly one, which is the one the reader takes. -/

namespace ShapeDispatch.Pattern

open Text

namespace Head

def word : Head → List Char
  | any => ['_']
  | int => ['I', 'n', 't']
  | mem => ['M', 'e', 'm']
  | move => ['M', 'o', 'v', 'e']

theorem isWordChar_of_mem_word (head : Head) : ∀ c ∈ head.word, isWordChar c = true := by
  have letters : head.word.all isWordChar = true := by cases head <;> decide
  exact List.all_eq_true.mp letters

theorem word_ne_nil (head : Head) : head.word ≠ [] := by
  cases head <;> decide

theorem isVariable_word (head : Head) : isVariable head.word = false := by
  cases head <;> decide

theorem outcome_read (text : List Char) :
    outcome (read text) =
      match outcome (keyword '_' [] text) with
      | .ok (_, rest) => .ok (any, rest)
      | .error _ =>
        match outcome (keyword 'I' ['n', 't'] text) with
        | .ok (_, rest) => .ok (int, rest)
        | .error _ =>
          match outcome (keyword 'M' ['e', 'm'] text) with
          | .ok (_, rest) => .ok (mem, rest)
          | .error _ =>
            match outcome (keyword 'M' ['o', 'v', 'e'] text) with
            | .ok (_, rest) => .ok (move, rest)
            | .error stop => .error stop := by
  rw [read]
  cases keyword '_' [] text with
  | ok found => rfl
  | error _ =>
    cases keyword 'I' ['n', 't'] text with
    | ok found => rfl
    | error _ =>
      cases keyword 'M' ['e', 'm'] text with
      | ok found => rfl
      | error _ => cases keyword 'M' ['o', 'v', 'e'] text <;> rfl

theorem outcome_read_eq_ok_iff {text rest : List Char} {head : Head} :
    outcome (read text) = .ok (head, rest) ↔
      ∃ after, WholeWord head.word text after ∧ rest = skipBlanks after := by
  constructor
  · intro reads
    rw [outcome_read] at reads
    split at reads
    next found => cases reads; exact outcome_keyword_eq_ok_iff.mp found
    next =>
      split at reads
      next found => cases reads; exact outcome_keyword_eq_ok_iff.mp found
      next =>
        split at reads
        next found => cases reads; exact outcome_keyword_eq_ok_iff.mp found
        next =>
          split at reads
          next found => cases reads; exact outcome_keyword_eq_ok_iff.mp found
          next => cases reads
  · intro spelled
    obtain ⟨after, whole, rfl⟩ := spelled
    have found {first : Char} {others : List Char} (same : head.word = first :: others) :
        outcome (keyword first others text) = .ok ((), skipBlanks after) :=
      outcome_keyword_eq_ok_iff.mpr ⟨after, same ▸ whole, rfl⟩
    -- A text begins with one word only, so no word that is tried before this one is found.
    have missed {first : Char} {others : List Char} (other : Head) (spelled : other.word = first :: others)
        (different : head.word ≠ other.word) : ∃ stop, outcome (keyword first others text) = .error stop :=
      outcome_keyword_error_of_wholeWord whole head.isWordChar_of_mem_word
        (spelled ▸ other.isWordChar_of_mem_word) (spelled ▸ different)
    rw [outcome_read]
    cases head with
    | any => rw [found rfl]
    | int =>
      obtain ⟨_, noAny⟩ := missed any rfl (by decide)
      rw [noAny, found rfl]
    | mem =>
      obtain ⟨_, noAny⟩ := missed any rfl (by decide)
      obtain ⟨_, noInt⟩ := missed int rfl (by decide)
      rw [noAny, noInt, found rfl]
    | move =>
      obtain ⟨_, noAny⟩ := missed any rfl (by decide)
      obtain ⟨_, noInt⟩ := missed int rfl (by decide)
      obtain ⟨_, noMem⟩ := missed mem rfl (by decide)
      rw [noAny, noInt, noMem, found rfl]

end Head

theorem outcome_readVariables (text : List Char) :
    outcome (readVariables text) = do
      let (dst, after) ← outcome (word isVariable text)
      let (_, after) ← outcome (symbol ',' after)
      let (src, rest) ← outcome (word isVariable after)
      return (if dst = src then moveAlike else move any any, rest) := by
  simp only [readVariables, outcome, bind, Except.bind, Except.map]
  cases word isVariable text with
  | error stop => rfl
  | ok dst =>
    simp only
    cases symbol ',' dst.rest with
    | error stop => rfl
    | ok comma =>
      simp only
      cases word isVariable comma.rest <;> rfl

theorem outcome_readVariables_eq_ok_iff {text rest : List Char} {sides : Pattern} :
    outcome (readVariables text) = .ok (sides, rest) ↔
      ∃ dst src after second, outcome (word isVariable text) = .ok (dst, after) ∧
        outcome (symbol ',' after) = .ok ((), second) ∧
        outcome (word isVariable second) = .ok (src, rest) ∧
        sides = if dst = src then moveAlike else move any any := by
  rw [outcome_readVariables]
  constructor
  · intro reads
    cases first : outcome (word isVariable text) with
    | error stop => simp only [first] at reads; cases reads
    | ok dst =>
      cases comma : outcome (symbol ',' dst.2) with
      | error stop => simp only [first, bind, Except.bind, comma] at reads; cases reads
      | ok found =>
        cases second : outcome (word isVariable found.2) with
        | error stop => simp only [first, bind, Except.bind, comma, second] at reads; cases reads
        | ok src =>
          simp only [first, bind, Except.bind, comma, second] at reads
          cases reads
          exact ⟨dst.1, src.1, dst.2, found.2, rfl, comma, second, rfl⟩
  · intro reads
    obtain ⟨dst, src, after, second, first, comma, other, rfl⟩ := reads
    simp only [first, bind, Except.bind, comma, other]
    rfl

/-- The reading of a pattern without the bounds that its recursion rests on. -/
theorem outcome_read (text : List Char) :
    outcome (read text) =
      match outcome (Head.read text) with
      | .error stop => .error stop
      | .ok (.any, rest) => .ok (any, rest)
      | .ok (.int, rest) => .ok (int, rest)
      | .ok (.mem, after) =>
        match outcome (symbol '(' after) with
        | .error _ => .ok (mem any, after)
        | .ok (_, inner) => do
          let (exp, after) ← outcome (read inner)
          let (_, rest) ← outcome (symbol ')' after)
          return (mem exp, rest)
      | .ok (.move, after) =>
        match outcome (symbol '(' after) with
        | .error _ => .ok (move any any, after)
        | .ok (_, inner) =>
          match outcome (readVariables inner) with
          | .ok (sides, after) => do
            let (_, rest) ← outcome (symbol ')' after)
            return (sides, rest)
          | .error _ => do
            let (dst, after) ← outcome (read inner)
            let (_, after) ← outcome (symbol ',' after)
            let (src, after) ← outcome (read after)
            let (_, rest) ← outcome (symbol ')' after)
            return (move dst src, rest) := by
  rw [read]
  cases Head.read text with
  | error stop => rfl
  | ok head =>
    obtain ⟨value, after, shorter⟩ := head
    cases value with
    | any => rfl
    | int => rfl
    | mem =>
      simp only [outcome, bind, Except.bind, Except.map]
      cases symbol '(' after with
      | error stop => rfl
      | ok opened =>
        simp only
        cases read opened.rest with
        | error stop => rfl
        | ok exp =>
          simp only
          cases symbol ')' exp.rest <;> rfl
    | move =>
      simp only [outcome, bind, Except.bind, Except.map]
      cases symbol '(' after with
      | error stop => rfl
      | ok opened =>
        simp only
        cases readVariables opened.rest with
        | ok sides =>
          simp only
          cases symbol ')' sides.rest <;> rfl
        | error _ =>
          simp only
          cases read opened.rest with
          | error stop => rfl
          | ok dst =>
            simp only
            cases symbol ',' dst.rest with
            | error stop => rfl
            | ok comma =>
              simp only
              cases read comma.rest with
              | error stop => rfl
              | ok src =>
                simp only
                cases symbol ')' src.rest <;> rfl

def Opens (head : Head) (text inner : List Char) : Prop :=
  ∃ after, outcome (Head.read text) = .ok (head, after) ∧ outcome (symbol '(' after) = .ok ((), inner)

theorem Opens.shorter {head : Head} {text inner : List Char} (opens : Opens head text inner) :
    inner.length < text.length := by
  obtain ⟨after, found, opened⟩ := opens
  exact Nat.lt_trans (length_lt_of_outcome opened) (length_lt_of_outcome found)

def Alone (head : Head) (text rest : List Char) : Prop :=
  outcome (Head.read text) = .ok (head, rest) ∧ ∃ stop, outcome (symbol '(' rest) = .error stop

theorem outcome_read_of_opens_mem {text inner : List Char} (opens : Opens .mem text inner) :
    outcome (read text) = do
      let (exp, after) ← outcome (read inner)
      let (_, rest) ← outcome (symbol ')' after)
      return (mem exp, rest) := by
  obtain ⟨after, head, opened⟩ := opens
  rw [outcome_read]
  simp only [head, opened]

theorem outcome_read_of_variables {text inner after : List Char} {sides : Pattern}
    (opens : Opens .move text inner) (named : outcome (readVariables inner) = .ok (sides, after)) :
    outcome (read text) = do
      let (_, rest) ← outcome (symbol ')' after)
      return (sides, rest) := by
  obtain ⟨opening, head, opened⟩ := opens
  rw [outcome_read]
  simp only [head, opened, named]

theorem outcome_read_of_noVariables {text inner other : List Char} (opens : Opens .move text inner)
    (noVariables : outcome (readVariables inner) = .error other) :
    outcome (read text) = do
      let (dst, after) ← outcome (read inner)
      let (_, after) ← outcome (symbol ',' after)
      let (src, after) ← outcome (read after)
      let (_, rest) ← outcome (symbol ')' after)
      return (move dst src, rest) := by
  obtain ⟨opening, head, opened⟩ := opens
  rw [outcome_read]
  simp only [head, opened, noVariables]

/-- One way of the reader through a text, and the outcome at its end. -/
inductive Course : List Char → Except (List Char) (Pattern × List Char) → Prop where
  | noHead {text stop : List Char} (head : outcome (Head.read text) = .error stop) :
      Course text (.error stop)
  | any {text rest : List Char} (head : outcome (Head.read text) = .ok (.any, rest)) :
      Course text (.ok (any, rest))
  | int {text rest : List Char} (head : outcome (Head.read text) = .ok (.int, rest)) :
      Course text (.ok (int, rest))
  | memAlone {text rest : List Char} (alone : Alone .mem text rest) :
      Course text (.ok (mem any, rest))
  | memStuck {text inner stop : List Char} (opens : Opens .mem text inner)
      (stuck : Course inner (.error stop)) : Course text (.error stop)
  | memUnclosed {text inner after stop : List Char} {exp : Pattern} (opens : Opens .mem text inner)
      (inside : Course inner (.ok (exp, after))) (unclosed : outcome (symbol ')' after) = .error stop) :
      Course text (.error stop)
  | mem {text inner after rest : List Char} {exp : Pattern} (opens : Opens .mem text inner)
      (inside : Course inner (.ok (exp, after))) (closed : outcome (symbol ')' after) = .ok ((), rest)) :
      Course text (.ok (mem exp, rest))
  | moveAlone {text rest : List Char} (alone : Alone .move text rest) :
      Course text (.ok (move any any, rest))
  | namesUnclosed {text inner after stop : List Char} {sides : Pattern}
      (opens : Opens .move text inner) (named : outcome (readVariables inner) = .ok (sides, after))
      (unclosed : outcome (symbol ')' after) = .error stop) : Course text (.error stop)
  | names {text inner after rest : List Char} {sides : Pattern}
      (opens : Opens .move text inner) (named : outcome (readVariables inner) = .ok (sides, after))
      (closed : outcome (symbol ')' after) = .ok ((), rest)) : Course text (.ok (sides, rest))
  | dstStuck {text inner other stop : List Char} (opens : Opens .move text inner)
      (noVariables : outcome (readVariables inner) = .error other)
      (stuck : Course inner (.error stop)) : Course text (.error stop)
  | noComma {text inner other after stop : List Char} {dst : Pattern} (opens : Opens .move text inner)
      (noVariables : outcome (readVariables inner) = .error other)
      (first : Course inner (.ok (dst, after))) (noComma : outcome (symbol ',' after) = .error stop) :
      Course text (.error stop)
  | srcStuck {text inner other after second stop : List Char} {dst : Pattern}
      (opens : Opens .move text inner) (noVariables : outcome (readVariables inner) = .error other)
      (first : Course inner (.ok (dst, after))) (comma : outcome (symbol ',' after) = .ok ((), second))
      (stuck : Course second (.error stop)) : Course text (.error stop)
  | moveUnclosed {text inner other after second last stop : List Char} {dst src : Pattern}
      (opens : Opens .move text inner) (noVariables : outcome (readVariables inner) = .error other)
      (first : Course inner (.ok (dst, after))) (comma : outcome (symbol ',' after) = .ok ((), second))
      (other : Course second (.ok (src, last))) (unclosed : outcome (symbol ')' last) = .error stop) :
      Course text (.error stop)
  | move {text inner other after second last rest : List Char} {dst src : Pattern}
      (opens : Opens .move text inner) (noVariables : outcome (readVariables inner) = .error other)
      (first : Course inner (.ok (dst, after))) (comma : outcome (symbol ',' after) = .ok ((), second))
      (other : Course second (.ok (src, last))) (closed : outcome (symbol ')' last) = .ok ((), rest)) :
      Course text (.ok (move dst src, rest))

theorem outcome_of_course {text : List Char} {result : Except (List Char) (Pattern × List Char)}
    (course : Course text result) : outcome (read text) = result := by
  induction course with
  | noHead head | any head | int head => simp only [outcome_read, head]
  | memAlone alone | moveAlone alone =>
    obtain ⟨head, stop, none⟩ := alone
    simp only [outcome_read, head, none]
  | memStuck opens _ ih =>
    rw [outcome_read_of_opens_mem opens, ih]
    rfl
  | memUnclosed opens _ closing ih | mem opens _ closing ih =>
    rw [outcome_read_of_opens_mem opens, ih]
    simp only [bind, Except.bind, closing, pure, Except.pure]
  | namesUnclosed opens named closing | names opens named closing =>
    rw [outcome_read_of_variables opens named, closing]
    rfl
  | dstStuck opens noVariables _ ih =>
    rw [outcome_read_of_noVariables opens noVariables, ih]
    rfl
  | noComma opens noVariables _ comma ih =>
    rw [outcome_read_of_noVariables opens noVariables, ih]
    simp only [bind, Except.bind, comma]
  | srcStuck opens noVariables _ comma _ first second =>
    rw [outcome_read_of_noVariables opens noVariables, first]
    simp only [bind, Except.bind, comma, second]
  | moveUnclosed opens noVariables _ comma _ closing first second
  | move opens noVariables _ comma _ closing first second =>
    rw [outcome_read_of_noVariables opens noVariables, first]
    simp only [bind, Except.bind, comma, second, closing, pure, Except.pure]

theorem exists_course (text : List Char) : ∃ result, Course text result := by
  cases head : outcome (Head.read text) with
  | error stop => exact ⟨_, .noHead head⟩
  | ok found =>
    obtain ⟨name, after⟩ := found
    cases name with
    | any => exact ⟨_, .any head⟩
    | int => exact ⟨_, .int head⟩
    | mem =>
      cases opened : outcome (symbol '(' after) with
      | error stop => exact ⟨_, .memAlone ⟨head, stop, opened⟩⟩
      | ok found =>
        have opens : Opens .mem text found.2 := ⟨after, head, opened⟩
        have shorter := opens.shorter
        obtain ⟨result, inside⟩ := exists_course found.2
        cases result with
        | error stop => exact ⟨_, .memStuck opens inside⟩
        | ok found =>
          cases closing : outcome (symbol ')' found.2) with
          | error stop => exact ⟨_, .memUnclosed opens inside closing⟩
          | ok found => exact ⟨_, .mem opens inside closing⟩
    | move =>
      cases opened : outcome (symbol '(' after) with
      | error stop => exact ⟨_, .moveAlone ⟨head, stop, opened⟩⟩
      | ok found =>
        have opens : Opens .move text found.2 := ⟨after, head, opened⟩
        have shorter := opens.shorter
        cases named : outcome (readVariables found.2) with
        | ok found =>
          cases closing : outcome (symbol ')' found.2) with
          | error stop => exact ⟨_, .namesUnclosed opens named closing⟩
          | ok found => exact ⟨_, .names opens named closing⟩
        | error other =>
          obtain ⟨result, first⟩ := exists_course found.2
          cases result with
          | error stop => exact ⟨_, .dstStuck opens named first⟩
          | ok dst =>
            have shorter := length_lt_of_outcome (outcome_of_course first)
            cases comma : outcome (symbol ',' dst.2) with
            | error stop => exact ⟨_, .noComma opens named first comma⟩
            | ok found =>
              have shorter := length_lt_of_outcome comma
              obtain ⟨result, second⟩ := exists_course found.2
              cases result with
              | error stop => exact ⟨_, .srcStuck opens named first comma second⟩
              | ok src =>
                cases closing : outcome (symbol ')' src.2) with
                | error stop => exact ⟨_, .moveUnclosed opens named first comma second closing⟩
                | ok found => exact ⟨_, .move opens named first comma second closing⟩
termination_by text.length

theorem course_iff {text : List Char} {result : Except (List Char) (Pattern × List Char)} :
    Course text result ↔ outcome (read text) = result := by
  constructor
  · exact outcome_of_course
  · intro same
    obtain ⟨result', course⟩ := exists_course text
    have same' : result' = result := (outcome_of_course course).symm.trans same
    rw [← same']
    exact course

end ShapeDispatch.Pattern
