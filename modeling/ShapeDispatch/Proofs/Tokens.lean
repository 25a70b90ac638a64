import Mathlib.Data.List.TakeWhile
import ShapeDispatch.Text.Reading

/-! What the token readers take. A token is told from what follows it alone: a symbol is one character,
a word is a longest run of word characters, and behind either all blanks are dropped. Readings carry a
bound that no statement here is about, so they are compared by what was read and what is left. -/

namespace ShapeDispatch.Text

section Outcome

variable {α β : Type} {text : List Char}

/-- What was read and what is left, or the text unread at the failure. -/
def outcome (attempt : Attempt (Reading text α)) : Except (List Char) (α × List Char) :=
  attempt.map fun reading => (reading.value, reading.rest)

theorem outcome_eq_ok_iff (attempt : Attempt (Reading text α)) (value : α) (rest : List Char) :
    outcome attempt = .ok (value, rest) ↔ ∃ shorter, attempt = .ok ⟨value, rest, shorter⟩ := by
  cases attempt with
  | error stop => simp [outcome, Except.map]
  | ok reading =>
    obtain ⟨value', rest', shorter⟩ := reading
    simp only [outcome, Except.map, Except.ok.injEq, Prod.mk.injEq, Reading.mk.injEq]
    constructor
    · intro same
      obtain ⟨rfl, rfl⟩ := same
      exact ⟨shorter, rfl, rfl⟩
    · intro reads
      obtain ⟨_, same⟩ := reads
      exact same

theorem length_lt_of_outcome {attempt : Attempt (Reading text α)} {value : α} {rest : List Char}
    (reads : outcome attempt = .ok (value, rest)) : rest.length < text.length := by
  obtain ⟨shorter, -⟩ := (outcome_eq_ok_iff attempt value rest).mp reads
  exact shorter

end Outcome

def Blanks (text rest : List Char) : Prop :=
  ∃ blanks, (∀ c ∈ blanks, isBlank c = true) ∧ text = blanks ++ rest

def Trimmed (text : List Char) : Prop :=
  ∀ c ∈ text.head?, isBlank c = false

/-- The word in front, which ends with the text or before a character that is no word character. -/
def WholeWord (word text after : List Char) : Prop :=
  text = word ++ after ∧ startsWithWord after = false

theorem blanks_skipBlanks (text : List Char) : Blanks text (skipBlanks text) :=
  ⟨text.takeWhile isBlank, fun _ member => List.mem_takeWhile_imp member,
    List.takeWhile_append_dropWhile.symm⟩

theorem trimmed_skipBlanks (text : List Char) : Trimmed (skipBlanks text) := by
  intro c isFirst
  have stops := List.head?_dropWhile_not isBlank text
  rw [← skipBlanks, isFirst] at stops
  exact stops

theorem skipBlanks_eq_of_blanks {text rest : List Char} (blanks : Blanks text rest)
    (trimmed : Trimmed rest) : skipBlanks text = rest := by
  obtain ⟨run, allBlank, rfl⟩ := blanks
  rw [skipBlanks, List.dropWhile_append_of_pos allBlank]
  cases rest with
  | nil => rfl
  | cons c tail => exact List.dropWhile_cons_of_neg (by simp [trimmed c rfl])

theorem outcome_symbol_eq_ok_iff {mark : Char} {text rest : List Char} :
    outcome (symbol mark text) = .ok ((), rest) ↔
      ∃ tail, text = mark :: tail ∧ rest = skipBlanks tail := by
  cases text with
  | nil => simp [symbol, outcome, Except.map]
  | cons c tail =>
    by_cases same : c = mark
    · simp [symbol, outcome, Except.map, same, eq_comm]
    · simp [symbol, outcome, Except.map, same]

theorem outcome_symbol_eq_error_iff {mark : Char} {text stop : List Char} :
    outcome (symbol mark text) = .error stop ↔ text.head? ≠ some mark ∧ stop = text := by
  cases text with
  | nil => simp [symbol, outcome, Except.map, eq_comm]
  | cons c tail =>
    by_cases same : c = mark
    · simp [symbol, outcome, Except.map, same]
    · simp only [symbol, outcome, Except.map, same, if_false, Except.error.injEq, List.head?_cons,
        ne_eq, Option.some.injEq, not_false_eq_true, true_and]
      exact eq_comm

theorem outcome_keyword (first : Char) (others text : List Char) :
    outcome (keyword first others text) =
      match dropLiteral? (first :: others) text with
      | none => .error text
      | some rest => if startsWithWord rest then .error rest else .ok ((), skipBlanks rest) := by
  rw [keyword]
  split
  next missing =>
    simp only [missing]
    rfl
  next rest found =>
    by_cases longer : startsWithWord rest = true
    · simp only [found, longer, if_true]
      rfl
    · simp only [found, longer, Bool.false_eq_true, if_false]
      rfl

theorem outcome_keyword_eq_ok_iff {first : Char} {others text rest : List Char} :
    outcome (keyword first others text) = .ok ((), rest) ↔
      ∃ after, WholeWord (first :: others) text after ∧ rest = skipBlanks after := by
  simp only [outcome_keyword, WholeWord, ← dropLiteral?_eq_some_iff]
  cases dropLiteral? (first :: others) text with
  | none => simp
  | some after =>
    by_cases longer : startsWithWord after = true
    · simp [longer]
    · simp only [longer, Bool.false_eq_true, if_false, Except.ok.injEq, Prod.mk.injEq, true_and,
        Option.some.injEq]
      constructor
      · rintro rfl
        exact ⟨after, ⟨rfl, Bool.eq_false_iff.mpr longer⟩, rfl⟩
      · rintro ⟨_, ⟨rfl, -⟩, rfl⟩
        rfl

theorem isBlank_eq_false_of_isWordChar {c : Char} (letter : isWordChar c = true) :
    isBlank c = false := by
  by_contra blank
  simp only [isBlank, Bool.or_eq_true, decide_eq_true_eq, Bool.not_eq_false] at blank
  rcases blank with ((rfl | rfl) | rfl) | rfl <;> revert letter <;> decide

theorem WholeWord.trimmed {word text after : List Char} (whole : WholeWord word text after)
    (letters : ∀ c ∈ word, isWordChar c = true) (nonempty : word ≠ []) : Trimmed text := by
  obtain ⟨rfl, -⟩ := whole
  obtain ⟨first, others, rfl⟩ := List.exists_cons_of_ne_nil nonempty
  intro c isFirst
  cases isFirst
  exact isBlank_eq_false_of_isWordChar (letters first List.mem_cons_self)

theorem takeWhile_of_wholeWord {word text after : List Char} (letters : ∀ c ∈ word, isWordChar c = true)
    (whole : WholeWord word text after) :
    text.takeWhile isWordChar = word ∧ text.dropWhile isWordChar = after := by
  obtain ⟨rfl, ends⟩ := whole
  rw [List.takeWhile_append_of_pos letters, List.dropWhile_append_of_pos letters]
  cases after with
  | nil => exact ⟨List.append_nil word, rfl⟩
  | cons c tail =>
    have noWord : ¬isWordChar c = true := by simpa [startsWithWord] using ends
    rw [List.takeWhile_cons_of_neg noWord, List.dropWhile_cons_of_neg noWord, List.append_nil]
    exact ⟨rfl, rfl⟩

theorem WholeWord.unique {word word' text after after' : List Char}
    (whole : WholeWord word text after) (whole' : WholeWord word' text after')
    (letters : ∀ c ∈ word, isWordChar c = true) (letters' : ∀ c ∈ word', isWordChar c = true) :
    word = word' ∧ after = after' := by
  obtain ⟨run, left⟩ := takeWhile_of_wholeWord letters whole
  obtain ⟨run', left'⟩ := takeWhile_of_wholeWord letters' whole'
  exact ⟨run.symm.trans run', left.symm.trans left'⟩

theorem outcome_keyword_error_of_wholeWord {word text after : List Char} {first : Char}
    {others : List Char} (whole : WholeWord word text after)
    (letters : ∀ c ∈ word, isWordChar c = true)
    (letters' : ∀ c ∈ first :: others, isWordChar c = true) (different : word ≠ first :: others) :
    ∃ stop, outcome (keyword first others text) = .error stop := by
  cases reads : outcome (keyword first others text) with
  | error stop => exact ⟨stop, rfl⟩
  | ok reading =>
    obtain ⟨_, whole', -⟩ := outcome_keyword_eq_ok_iff.mp reads
    exact absurd (whole.unique whole' letters letters').1 different

theorem startsWithWord_dropWhile (text : List Char) :
    startsWithWord (text.dropWhile isWordChar) = false := by
  have stops := List.head?_dropWhile_not isWordChar text
  cases rest : text.dropWhile isWordChar with
  | nil => rfl
  | cons c tail =>
    rw [rest] at stops
    exact stops

theorem outcome_word_eq_ok_iff {accepts : List Char → Bool} {text name rest : List Char} :
    outcome (word accepts text) = .ok (name, rest) ↔
      ∃ after, WholeWord name text after ∧ name ≠ [] ∧ (∀ c ∈ name, isWordChar c = true) ∧
        accepts name = true ∧ rest = skipBlanks after := by
  constructor
  · intro reads
    cases text with
    | nil => cases reads
    | cons c others =>
      simp only [word] at reads
      split at reads
      next accepted =>
        cases reads
        refine ⟨others.dropWhile isWordChar, ⟨?_, startsWithWord_dropWhile others⟩,
          List.cons_ne_nil _ _, ?_, accepted.2, rfl⟩
        · rw [List.cons_append, List.takeWhile_append_dropWhile]
        · exact List.forall_mem_cons.mpr ⟨accepted.1, fun _ member => List.mem_takeWhile_imp member⟩
      next => cases reads
  · intro reads
    obtain ⟨after, whole, nonempty, letters, accepted, rfl⟩ := reads
    obtain ⟨run, left⟩ := takeWhile_of_wholeWord letters whole
    obtain ⟨c, others, rfl⟩ := List.exists_cons_of_ne_nil nonempty
    obtain ⟨rfl, -⟩ := whole
    have letter := letters c List.mem_cons_self
    rw [List.cons_append, List.takeWhile_cons_of_pos letter, List.cons.injEq] at run
    rw [List.cons_append, List.dropWhile_cons_of_pos letter] at left
    simp only [List.cons_append, word, run.2, left, letter, accepted, and_self, if_true, outcome,
      Except.map]

end ShapeDispatch.Text
