import Mathlib.Data.Set.Subsingleton
import ShapeDispatch.Proofs.PatternReading

/-! The grammar of patterns, in which every choice is free, and the reader that commits itself. They
agree because the next token decides: no word is another one with something behind it, a parenthesis
after a word can only open its arguments, and no pattern begins as a variable does. -/

namespace ShapeDispatch.Pattern

open Text

/-- The word in front and the blanks behind it. -/
def Token (word text rest : List Char) : Prop :=
  ∃ after, WholeWord word text after ∧ Blanks after rest

def Mark (mark : Char) (text rest : List Char) : Prop :=
  ∃ after, text = mark :: after ∧ Blanks after rest

/-- A name of word characters with a capital in front, other than the names of kinds. -/
structure IsVariable (name : List Char) : Prop where
  letters : ∀ c ∈ name, isWordChar c = true
  capital : ∃ first others, name = first :: others ∧ first.isUpper = true
  noKind : name ∉ [['I', 'n', 't'], ['M', 'e', 'm'], ['M', 'o', 'v', 'e']]

/-- What a stretch of `text`, up to `rest`, is written for. -/
inductive Derives : List Char → List Char → Pattern → Prop where
  | any {text rest : List Char} (name : Token ['_'] text rest) : Derives text rest any
  | int {text rest : List Char} (name : Token ['I', 'n', 't'] text rest) : Derives text rest int
  | memAlone {text rest : List Char} (name : Token ['M', 'e', 'm'] text rest) :
      Derives text rest (mem any)
  | mem {text opening inner closing rest : List Char} {exp : Pattern}
      (name : Token ['M', 'e', 'm'] text opening) (opened : Mark '(' opening inner)
      (inside : Derives inner closing exp) (closed : Mark ')' closing rest) :
      Derives text rest (mem exp)
  | moveAlone {text rest : List Char} (name : Token ['M', 'o', 'v', 'e'] text rest) :
      Derives text rest (move any any)
  | names {text opening inner between second closing rest dst src : List Char}
      (name : Token ['M', 'o', 'v', 'e'] text opening) (opened : Mark '(' opening inner)
      (dstVariable : IsVariable dst) (first : Token dst inner between)
      (comma : Mark ',' between second)
      (srcVariable : IsVariable src) (other : Token src second closing)
      (closed : Mark ')' closing rest) :
      Derives text rest (if dst = src then moveAlike else move any any)
  | move {text opening inner between second closing rest : List Char} {dst src : Pattern}
      (name : Token ['M', 'o', 'v', 'e'] text opening) (opened : Mark '(' opening inner)
      (first : Derives inner between dst) (comma : Mark ',' between second)
      (other : Derives second closing src) (closed : Mark ')' closing rest) :
      Derives text rest (move dst src)

def Written (text : List Char) (pattern : Pattern) : Prop :=
  ∃ start, Blanks text start ∧ Derives start [] pattern

theorem isVariable_iff (name : List Char) :
    isVariable name = true ∧ (∀ c ∈ name, isWordChar c = true) ↔ IsVariable name := by
  cases name with
  | nil =>
    constructor
    · intro accepted
      cases accepted.1
    · intro isVar
      obtain ⟨first, others, spelled, -⟩ := isVar.capital
      cases spelled
  | cons c others =>
    simp only [isVariable, Bool.and_eq_true, Bool.not_eq_true', List.contains_eq_mem,
      decide_eq_false_iff_not]
    constructor
    · intro accepted
      obtain ⟨⟨capital, noKind⟩, letters⟩ := accepted
      exact ⟨letters, ⟨c, others, rfl, capital⟩, noKind⟩
    · intro isVar
      obtain ⟨_, _, spelled, capital⟩ := isVar.capital
      cases spelled
      exact ⟨⟨capital, isVar.noKind⟩, isVar.letters⟩

theorem IsVariable.ne_nil {name : List Char} (isVar : IsVariable name) : name ≠ [] := by
  obtain ⟨first, others, rfl, -⟩ := isVar.capital
  exact List.cons_ne_nil first others

section Soundness

theorem token_of_read {text rest : List Char} {head : Head}
    (reads : outcome (Head.read text) = .ok (head, rest)) : Token head.word text rest := by
  obtain ⟨after, whole, rfl⟩ := Head.outcome_read_eq_ok_iff.mp reads
  exact ⟨after, whole, blanks_skipBlanks after⟩

theorem mark_of_symbol {mark : Char} {text rest : List Char}
    (reads : outcome (symbol mark text) = .ok ((), rest)) : Mark mark text rest := by
  obtain ⟨after, rfl, rfl⟩ := outcome_symbol_eq_ok_iff.mp reads
  exact ⟨after, rfl, blanks_skipBlanks after⟩

theorem Opens.derived {head : Head} {text inner : List Char} (opens : Opens head text inner) :
    ∃ opening, Token head.word text opening ∧ Mark '(' opening inner := by
  obtain ⟨opening, found, opened⟩ := opens
  exact ⟨opening, token_of_read found, mark_of_symbol opened⟩

theorem variable_of_word {text name rest : List Char}
    (reads : outcome (word isVariable text) = .ok (name, rest)) :
    IsVariable name ∧ Token name text rest := by
  obtain ⟨after, whole, -, letters, accepted, rfl⟩ := outcome_word_eq_ok_iff.mp reads
  exact ⟨(isVariable_iff name).mp ⟨accepted, letters⟩, after, whole, blanks_skipBlanks after⟩

theorem derives_of_course {text : List Char} {result : Except (List Char) (Pattern × List Char)}
    (course : Course text result) :
    ∀ {pattern rest}, result = .ok (pattern, rest) → Derives text rest pattern := by
  induction course with
  | noHead | memStuck | memUnclosed | namesUnclosed | dstStuck | noComma | srcStuck
  | moveUnclosed =>
    intro _ _ failed
    cases failed
  | any head =>
    intro _ _ same
    cases same
    exact .any (token_of_read head)
  | int head =>
    intro _ _ same
    cases same
    exact .int (token_of_read head)
  | memAlone alone =>
    intro _ _ same
    cases same
    exact .memAlone (token_of_read alone.1)
  | mem opens _ closed inside =>
    intro _ _ same
    cases same
    obtain ⟨opening, name, opened⟩ := opens.derived
    exact .mem name opened (inside rfl) (mark_of_symbol closed)
  | moveAlone alone =>
    intro _ _ same
    cases same
    exact .moveAlone (token_of_read alone.1)
  | names opens named closed =>
    intro _ _ same
    cases same
    obtain ⟨opening, name, opened⟩ := opens.derived
    obtain ⟨dst, src, between, second, first, comma, other, rfl⟩ :=
      outcome_readVariables_eq_ok_iff.mp named
    obtain ⟨dstVariable, first⟩ := variable_of_word first
    obtain ⟨srcVariable, other⟩ := variable_of_word other
    exact .names name opened dstVariable first (mark_of_symbol comma) srcVariable other
      (mark_of_symbol closed)
  | move opens _ _ comma _ closed first other =>
    intro _ _ same
    cases same
    obtain ⟨opening, name, opened⟩ := opens.derived
    exact .move name opened (first rfl) (mark_of_symbol comma) (other rfl) (mark_of_symbol closed)

end Soundness

section Completeness

theorem Token.trimmed {name text rest : List Char} (token : Token name text rest)
    (isVar : IsVariable name) : Trimmed text := by
  obtain ⟨after, whole, -⟩ := token
  exact whole.trimmed isVar.letters isVar.ne_nil

theorem Mark.trimmed {mark : Char} {text rest : List Char} (marked : Mark mark text rest)
    (noBlank : isBlank mark = false) : Trimmed text := by
  obtain ⟨after, rfl, -⟩ := marked
  intro c isFirst
  cases isFirst
  exact noBlank

theorem read_of_token {text rest : List Char} {head : Head} (token : Token head.word text rest)
    (trimmed : Trimmed rest) : outcome (Head.read text) = .ok (head, rest) := by
  obtain ⟨after, whole, blanks⟩ := token
  exact Head.outcome_read_eq_ok_iff.mpr ⟨after, whole, (skipBlanks_eq_of_blanks blanks trimmed).symm⟩

theorem symbol_of_mark {mark : Char} {text rest : List Char} (marked : Mark mark text rest)
    (trimmed : Trimmed rest) : outcome (symbol mark text) = .ok ((), rest) := by
  obtain ⟨after, rfl, blanks⟩ := marked
  exact outcome_symbol_eq_ok_iff.mpr ⟨after, rfl, (skipBlanks_eq_of_blanks blanks trimmed).symm⟩

theorem word_of_variable {text name rest : List Char} (isVar : IsVariable name)
    (token : Token name text rest) (trimmed : Trimmed rest) :
    outcome (word isVariable text) = .ok (name, rest) := by
  obtain ⟨after, whole, blanks⟩ := token
  obtain ⟨accepted, letters⟩ := (isVariable_iff name).mpr isVar
  exact outcome_word_eq_ok_iff.mpr ⟨after, whole, isVar.ne_nil, letters, accepted,
    (skipBlanks_eq_of_blanks blanks trimmed).symm⟩

/-- What a pattern may end before: neither a blank nor a parenthesis that would open arguments. -/
structure Stops (rest : List Char) : Prop where
  trimmed : Trimmed rest
  noArguments : rest.head? ≠ some '('

theorem stops_nil : Stops [] := by
  constructor
  · intro c isFirst
    cases isFirst
  · decide

theorem Mark.stops {mark : Char} {text rest : List Char} (marked : Mark mark text rest)
    (noBlank : isBlank mark = false) (noOpening : mark ≠ '(') : Stops text := by
  constructor
  · exact marked.trimmed noBlank
  · obtain ⟨after, rfl, -⟩ := marked
    simpa using noOpening

theorem alone_of_token {text rest : List Char} {head : Head} (token : Token head.word text rest)
    (stops : Stops rest) : Alone head text rest :=
  ⟨read_of_token token stops.trimmed, rest,
    outcome_symbol_eq_error_iff.mpr ⟨stops.noArguments, rfl⟩⟩

theorem opens_of_marks {text opening inner : List Char} {head : Head}
    (token : Token head.word text opening) (opened : Mark '(' opening inner)
    (trimmed : Trimmed inner) : Opens head text inner :=
  ⟨opening, read_of_token token (opened.trimmed (by decide)), symbol_of_mark opened trimmed⟩

theorem Derives.front {text rest : List Char} {pattern : Pattern} (derives : Derives text rest pattern) :
    ∃ (head : Head) (after : List Char), WholeWord head.word text after := by
  cases derives with
  | any name =>
    obtain ⟨after, whole, -⟩ := name
    exact ⟨.any, after, whole⟩
  | int name =>
    obtain ⟨after, whole, -⟩ := name
    exact ⟨.int, after, whole⟩
  | memAlone name | mem name =>
    obtain ⟨after, whole, -⟩ := name
    exact ⟨.mem, after, whole⟩
  | moveAlone name | names name | move name =>
    obtain ⟨after, whole, -⟩ := name
    exact ⟨.move, after, whole⟩

theorem Derives.trimmed {text rest : List Char} {pattern : Pattern}
    (derives : Derives text rest pattern) : Trimmed text := by
  obtain ⟨head, after, whole⟩ := derives.front
  exact whole.trimmed head.isWordChar_of_mem_word head.word_ne_nil

theorem Derives.noVariables {text rest : List Char} {pattern : Pattern}
    (derives : Derives text rest pattern) : ∃ stop, outcome (readVariables text) = .error stop := by
  cases reads : outcome (readVariables text) with
  | error stop => exact ⟨stop, rfl⟩
  | ok sides =>
    obtain ⟨dst, _, _, _, first, -⟩ := outcome_readVariables_eq_ok_iff.mp reads
    obtain ⟨_, whole, -, letters, accepted, -⟩ := outcome_word_eq_ok_iff.mp first
    obtain ⟨head, _, whole'⟩ := derives.front
    -- The first variable would be the word that the pattern begins with, and no such word is a variable.
    have same : dst = head.word := (whole.unique whole' letters head.isWordChar_of_mem_word).1
    rw [same, head.isVariable_word] at accepted
    cases accepted

/-- The reader goes along every derivation that leaves off where a pattern may end. -/
theorem course_of_derives {text rest : List Char} {pattern : Pattern}
    (derives : Derives text rest pattern) (stops : Stops rest) : Course text (.ok (pattern, rest)) := by
  induction derives with
  | any name => exact .any (read_of_token name stops.trimmed)
  | int name => exact .int (read_of_token name stops.trimmed)
  | memAlone name => exact .memAlone (alone_of_token name stops)
  | mem name opened inside closed ih =>
    have opens : Opens .mem _ _ := opens_of_marks name opened inside.trimmed
    -- What follows the inner pattern is the closing parenthesis, and patterns may end before that.
    have course := ih (closed.stops (by decide) (by decide))
    exact .mem opens course (symbol_of_mark closed stops.trimmed)
  | moveAlone name => exact .moveAlone (alone_of_token name stops)
  | names name opened dstVariable first comma srcVariable other closed =>
    have opens : Opens .move _ _ := opens_of_marks name opened (first.trimmed dstVariable)
    have dstRead := word_of_variable dstVariable first (comma.trimmed (by decide))
    have commaRead := symbol_of_mark comma (other.trimmed srcVariable)
    have srcRead := word_of_variable srcVariable other (closed.trimmed (by decide))
    have named := outcome_readVariables_eq_ok_iff.mpr
      ⟨_, _, _, _, dstRead, commaRead, srcRead, rfl⟩
    exact .names opens named (symbol_of_mark closed stops.trimmed)
  | move name opened first comma other closed ihFirst ihOther =>
    have opens : Opens .move _ _ := opens_of_marks name opened first.trimmed
    obtain ⟨stop, noVariables⟩ := first.noVariables
    have dstCourse := ihFirst (comma.stops (by decide) (by decide))
    have srcCourse := ihOther (closed.stops (by decide) (by decide))
    exact .move opens noVariables dstCourse (symbol_of_mark comma other.trimmed) srcCourse
      (symbol_of_mark closed stops.trimmed)

end Completeness

theorem read_eq_ok_iff_derives (text : List Char) (pattern : Pattern) :
    outcome (read text) = .ok (pattern, []) ↔ Derives text [] pattern := by
  rw [← course_iff]
  constructor
  · intro course
    exact derives_of_course course rfl
  · intro derives
    exact course_of_derives derives stops_nil

theorem parse_eq_ok_iff_read (text : String) (pattern : Pattern) :
    parse text = .ok pattern ↔ outcome (read (skipBlanks text.toList)) = .ok (pattern, []) := by
  rw [parse]
  cases read (skipBlanks text.toList) with
  | error stop => simp [outcome, Except.map]
  | ok reading =>
    by_cases whole : reading.rest = []
    · simp [outcome, Except.map, whole]
    · simp [outcome, Except.map, whole]

/-- A text reads as a pattern exactly if it is written for this pattern, and it is written for one at most. -/
theorem parse_eq_ok_iff_written (text : String) :
    (∀ pattern, parse text = .ok pattern ↔ Written text.toList pattern) ∧
      {pattern | Written text.toList pattern}.Subsingleton := by
  have agrees : ∀ pattern, parse text = .ok pattern ↔ Written text.toList pattern := by
    intro pattern
    rw [parse_eq_ok_iff_read, read_eq_ok_iff_derives]
    constructor
    · intro derives
      exact ⟨skipBlanks text.toList, blanks_skipBlanks text.toList, derives⟩
    · intro written
      obtain ⟨start, blanks, derives⟩ := written
      rw [skipBlanks_eq_of_blanks blanks derives.trimmed]
      exact derives
  refine ⟨agrees, ?_⟩
  intro pattern written other written'
  have same := ((agrees pattern).mpr written).symm.trans ((agrees other).mpr written')
  cases same
  rfl

example : parse " Move( Memo,Int2 ) " = .ok (move any any) := by decide +kernel

end ShapeDispatch.Pattern
