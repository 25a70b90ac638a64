import ShapeDispatch.Proofs.CommittingPatterns
import ShapeDispatch.Proofs.PatternSpelling

/-! Where a text fails to be a pattern or a rule. What stands before the reported place is what some
pattern begins with: the reader has taken it along a derivation that could still be completed, whichever
ways it gave up before. -/

namespace ShapeDispatch

open Text

theorem Text.outcome_keyword_error {first : Char} {others text stop : List Char}
    (fails : outcome (keyword first others text) = .error stop) :
    text = stop ∨ text = first :: others ++ stop := by
  rw [outcome_keyword] at fails
  cases found : dropLiteral? (first :: others) text with
  | none =>
    simp only [found, Except.error.injEq] at fails
    exact .inl fails
  | some rest =>
    simp only [found] at fails
    split at fails
    next =>
      cases fails
      exact .inr ((dropLiteral?_eq_some_iff _ _ _).mp found)
    next => cases fails

namespace Pattern

/-- The characters that some pattern begins with. -/
def Completable (front : List Char) : Prop := ∃ more pattern, Spells (front ++ more) pattern

section Completion

theorem completable_of_spells {front whole : List Char} {pattern : Pattern} (more : List Char)
    (spells : Spells whole pattern) (same : whole = front ++ more) : Completable front :=
  ⟨more, pattern, same ▸ spells⟩

theorem Opens.split {head : Head} {text inner : List Char} (opens : Opens head text inner) :
    ∃ name opened, text = name ++ (opened ++ inner) ∧ SpellsToken head.word name ∧
      SpellsMark '(' opened := by
  obtain ⟨opening, name, opened⟩ := opens.derived
  obtain ⟨front, rfl, named⟩ := name.split
  obtain ⟨mark, rfl, marked⟩ := opened.split
  exact ⟨front, mark, rfl, named, marked⟩

theorem completable_of_noHead {text stop : List Char} (none : outcome (Head.read text) = .error stop) :
    ∃ front, text = front ++ stop ∧ Completable front := by
  rw [Head.outcome_read] at none
  split at none
  next => cases none
  next =>
    split at none
    next => cases none
    next =>
      split at none
      next => cases none
      next =>
        split at none
        next => cases none
        next stop' last =>
          cases none
          -- The last word to be tried reports, in front of it all or behind the letters of `Move`.
          obtain rfl | rfl := outcome_keyword_error last
          · exact ⟨[], rfl, ['_'], any, spells_any⟩
          · refine ⟨['M', 'o', 'v', 'e'], rfl, [], .move any any, ?_⟩
            exact fun rest ends => .moveAlone (spellsToken_word _ rest ends)

theorem readVariables_split {text rest : List Char} {sides : Pattern}
    (reads : outcome (readVariables text) = .ok (sides, rest)) :
    ∃ dst src first comma other, IsVariable dst ∧ SpellsToken dst first ∧ SpellsMark ',' comma ∧
      IsVariable src ∧ SpellsToken src other ∧ text = first ++ (comma ++ (other ++ rest)) := by
  obtain ⟨dst, src, _, _, first, comma, other, -⟩ := outcome_readVariables_eq_ok_iff.mp reads
  obtain ⟨dstVariable, first⟩ := variable_of_word first
  obtain ⟨srcVariable, other⟩ := variable_of_word other
  obtain ⟨first', rfl, spellsDst⟩ := first.split
  obtain ⟨comma', rfl, commas⟩ := (mark_of_symbol comma).split
  obtain ⟨other', rfl, spellsSrc⟩ := other.split
  exact ⟨dst, src, first', comma', other', dstVariable, spellsDst, commas, srcVariable, spellsSrc, rfl⟩

/-- At every place of failure the rest of the arguments can be supplied, and the parentheses closed. -/
theorem completable_of_course {text : List Char} {result : Except (List Char) (Pattern × List Char)}
    (course : Course text result) :
    ∀ {stop}, result = .error stop → ∃ front, text = front ++ stop ∧ Completable front := by
  have anyOther : Spells ['_'] any := spells_any
  have comma : SpellsMark ',' [','] := spellsMark_singleton ','
  have closing : SpellsMark ')' [')'] := spellsMark_singleton ')'
  induction course with
  | any | int | memAlone | mem | moveAlone | names | move =>
    intro _ reads
    cases reads
  | noHead none =>
    intro _ same
    cases same
    exact completable_of_noHead none
  | memStuck opens _ ih =>
    intro _ same
    cases same
    obtain ⟨name, opened, rfl, named, opening⟩ := opens.split
    obtain ⟨front, rfl, more, exp, inside⟩ := ih rfl
    refine ⟨name ++ (opened ++ front), ?_, completable_of_spells (more ++ [')'])
      (Spells.mem named opening inside closing) ?_⟩ <;>
      simp only [List.append_assoc]
  | memUnclosed opens inside unclosed _ =>
    intro _ same
    cases same
    obtain ⟨-, rfl⟩ := outcome_symbol_eq_error_iff.mp unclosed
    obtain ⟨name, opened, rfl, named, opening⟩ := opens.split
    obtain ⟨front, rfl, spells⟩ := (derives_of_course inside rfl).split
    refine ⟨name ++ (opened ++ front), ?_, completable_of_spells [')']
      (Spells.mem named opening spells closing) ?_⟩ <;>
      simp only [List.append_assoc]
  | namesUnclosed opens both unclosed =>
    intro _ same
    cases same
    obtain ⟨-, rfl⟩ := outcome_symbol_eq_error_iff.mp unclosed
    obtain ⟨name, opened, rfl, named, opening⟩ := opens.split
    obtain ⟨_, _, first, between, other, dstVariable, spellsDst, commas, srcVariable, spellsSrc, rfl⟩ :=
      readVariables_split both
    refine ⟨name ++ (opened ++ (first ++ (between ++ other))), ?_, completable_of_spells [')']
      (Spells.names named opening dstVariable spellsDst commas srcVariable spellsSrc closing) ?_⟩ <;>
      simp only [List.append_assoc]
  | dstStuck opens _ _ ih =>
    intro _ same
    cases same
    obtain ⟨name, opened, rfl, named, opening⟩ := opens.split
    obtain ⟨front, rfl, more, dst, inside⟩ := ih rfl
    refine ⟨name ++ (opened ++ front), ?_, completable_of_spells (more ++ ([','] ++ (['_'] ++ [')'])))
      (Spells.move named opening inside comma anyOther closing) ?_⟩ <;>
      simp only [List.append_assoc]
  | noComma opens _ first noComma _ =>
    intro _ same
    cases same
    obtain ⟨-, rfl⟩ := outcome_symbol_eq_error_iff.mp noComma
    obtain ⟨name, opened, rfl, named, opening⟩ := opens.split
    obtain ⟨front, rfl, spells⟩ := (derives_of_course first rfl).split
    refine ⟨name ++ (opened ++ front), ?_, completable_of_spells ([','] ++ (['_'] ++ [')']))
      (Spells.move named opening spells comma anyOther closing) ?_⟩ <;>
      simp only [List.append_assoc]
  | srcStuck opens _ first second _ _ ih =>
    intro _ same
    cases same
    obtain ⟨name, opened, rfl, named, opening⟩ := opens.split
    obtain ⟨front, rfl, spells⟩ := (derives_of_course first rfl).split
    obtain ⟨between, rfl, commas⟩ := (mark_of_symbol second).split
    obtain ⟨other, rfl, more, src, inside⟩ := ih rfl
    refine ⟨name ++ (opened ++ (front ++ (between ++ other))), ?_, completable_of_spells (more ++ [')'])
      (Spells.move named opening spells commas inside closing) ?_⟩ <;>
      simp only [List.append_assoc]
  | moveUnclosed opens _ first second other unclosed _ _ =>
    intro _ same
    cases same
    obtain ⟨-, rfl⟩ := outcome_symbol_eq_error_iff.mp unclosed
    obtain ⟨name, opened, rfl, named, opening⟩ := opens.split
    obtain ⟨front, rfl, spells⟩ := (derives_of_course first rfl).split
    obtain ⟨between, rfl, commas⟩ := (mark_of_symbol second).split
    obtain ⟨last, rfl, spells'⟩ := (derives_of_course other rfl).split
    refine ⟨name ++ (opened ++ (front ++ (between ++ last))), ?_, completable_of_spells [')']
      (Spells.move named opening spells commas spells' closing) ?_⟩ <;>
      simp only [List.append_assoc]

end Completion

end Pattern

/-- The place of an error in `text`. Up to there stands what some accepted text begins with; it is plain
ASCII, so that its bytes can be counted as characters. -/
structure Pinpoints (Accepts : String → Prop) (text : String) (error : ParseError) : Prop where
  inside : error.unread ≤ text.utf8ByteSize
  whole : error.column text + error.unread = text.utf8ByteSize
  split : ∃ front back, text.toList = front ++ back ∧ byteLength back = error.unread ∧
    byteLength front = error.column text ∧ front.length = error.column text ∧ IsAscii front ∧
    ∃ more, Accepts (String.ofList (front ++ more))

theorem isAscii_append {front back : List Char} (first : IsAscii front) (second : IsAscii back) :
    IsAscii (front ++ back) := by
  intro c member
  rcases List.mem_append.mp member with inFront | inBack
  · exact first c inFront
  · exact second c inBack

theorem pinpoints_of_split {Accepts : String → Prop} {text : String} {front back more : List Char}
    (split : text.toList = front ++ back) (ascii : IsAscii front)
    (accepted : Accepts (String.ofList (front ++ more))) :
    Pinpoints Accepts text (.ofUnread back) := by
  have size : text.utf8ByteSize = byteLength front + byteLength back := by
    rw [← byteLength_toList, split, byteLength_append]
  have column : (ParseError.ofUnread back).column text = byteLength front := by
    simp only [ParseError.column, ParseError.ofUnread, size, Nat.add_sub_cancel]
  refine ⟨?_, ?_, front, back, split, rfl, column.symm, ?_, ascii, more, accepted⟩
  · simp only [ParseError.ofUnread, size]
    omega
  · rw [column, size, ParseError.ofUnread]
  · rw [column, byteLength_of_isAscii ascii]

namespace Pattern

theorem parse_eq_outcome (text : String) :
    parse text =
      match outcome (read (skipBlanks text.toList)) with
      | .error stop => .error (.ofUnread stop)
      | .ok (pattern, rest) => if rest.isEmpty then .ok pattern else .error (.ofUnread rest) := by
  rw [parse]
  cases read (skipBlanks text.toList) <;> rfl

theorem parse_ofList_of_derives {lead start : List Char} {pattern : Pattern}
    (blank : ∀ c ∈ lead, isBlank c = true) (derives : Derives start [] pattern) :
    parse (String.ofList (lead ++ start)) = .ok pattern := by
  rw [parse_eq_ok_iff_read, String.toList_ofList,
    skipBlanks_eq_of_blanks ⟨lead, blank, rfl⟩ derives.trimmed, read_eq_ok_iff_derives]
  exact derives

end Pattern

namespace LabelledRule

theorem parse_eq_outcome (text : String) :
    parse text =
      match outcome (Pattern.read (skipBlanks text.toList)) with
      | .error stop => .error (.ofUnread stop)
      | .ok (pattern, rest) =>
        match outcome (symbol '=' rest) with
        | .error stop => .error (.ofUnread stop)
        | .ok (_, label) => .ok ⟨pattern, String.ofList (trimEnd label)⟩ := by
  rw [parse]
  cases Pattern.read (skipBlanks text.toList) with
  | error stop => rfl
  | ok reading =>
    simp only [outcome, Except.map]
    cases symbol '=' reading.rest <;> rfl

theorem parse_ofList_of_derives {lead start label : List Char} {pattern : Pattern}
    (blank : ∀ c ∈ lead, isBlank c = true) (derives : Pattern.Derives start ('=' :: label) pattern) :
    parse (String.ofList (lead ++ start)) =
      .ok ⟨pattern, String.ofList (trimEnd (skipBlanks label))⟩ := by
  have stops : Pattern.Stops ('=' :: label) := by
    constructor
    · intro c isFirst
      cases isFirst
      rfl
    · simp
  have reads := Pattern.outcome_of_course (Pattern.course_of_derives derives stops)
  have mark : outcome (symbol '=' ('=' :: label)) = .ok ((), skipBlanks label) :=
    outcome_symbol_eq_ok_iff.mpr ⟨label, rfl, rfl⟩
  rw [parse_eq_outcome, String.toList_ofList, skipBlanks_eq_of_blanks ⟨lead, blank, rfl⟩ derives.trimmed,
    reads]
  simp only [mark]

end LabelledRule

namespace Pattern

theorem Spells.isAscii {front : List Char} {pattern : Pattern} (spells : Spells front pattern) :
    IsAscii front := by
  have derives := spells [] rfl
  rw [List.append_nil] at derives
  exact derives.isAscii (List.forall_mem_nil _)

/-- The reader is at `stop`: it failed there, or it has read a pattern up to there. -/
def StandsAt (text stop : List Char) : Prop :=
  outcome (read (skipBlanks text)) = .error stop ∨
    ∃ pattern, outcome (read (skipBlanks text)) = .ok (pattern, stop)

theorem StandsAt.split {text stop : List Char} (stands : StandsAt text stop) :
    ∃ lead front, (∀ c ∈ lead, isBlank c = true) ∧ text = lead ++ (front ++ stop) ∧
      Completable front := by
  obtain ⟨lead, blank, whole⟩ := blanks_skipBlanks text
  rcases stands with failed | ⟨pattern, reads⟩
  · obtain ⟨front, here, completable⟩ := completable_of_course (course_iff.mpr failed) rfl
    exact ⟨lead, front, blank, here ▸ whole, completable⟩
  · obtain ⟨front, here, spells⟩ := (derives_of_course (course_iff.mpr reads) rfl).split
    exact ⟨lead, front, blank, here ▸ whole, completable_of_spells [] spells (List.append_nil front).symm⟩

theorem StandsAt.pinpoints {Accepts : String → Prop} {text : String} {stop ending : List Char}
    (stands : StandsAt text.toList stop)
    (accepts : ∀ lead front pattern, (∀ c ∈ lead, isBlank c = true) → Spells front pattern →
      Accepts (String.ofList (lead ++ (front ++ ending)))) :
    Pinpoints Accepts text (.ofUnread stop) := by
  obtain ⟨lead, front, blank, whole, more, pattern, spells⟩ := stands.split
  have asciiLead : IsAscii lead := fun c member => toNat_lt_of_isBlank (blank c member)
  have asciiFront : IsAscii front := fun c member => spells.isAscii c (List.mem_append_left more member)
  have accepted := accepts lead (front ++ more) pattern blank spells
  have regroup : lead ++ (front ++ more ++ ending) = lead ++ front ++ (more ++ ending) := by
    simp only [List.append_assoc]
  rw [regroup] at accepted
  rw [← List.append_assoc] at whole
  exact pinpoints_of_split whole (isAscii_append asciiLead asciiFront) accepted

theorem pinpoints_of_parse_error {text : String} {error : ParseError} (fails : parse text = .error error) :
    Pinpoints (fun other => ∃ pattern, parse other = .ok pattern) text error := by
  have accepts (lead front : List Char) (pattern : Pattern) (blank : ∀ c ∈ lead, isBlank c = true)
      (spells : Spells front pattern) :
      ∃ pattern, parse (String.ofList (lead ++ (front ++ []))) = .ok pattern :=
    ⟨pattern, parse_ofList_of_derives blank (spells [] rfl)⟩
  rw [parse_eq_outcome] at fails
  cases reads : outcome (read (skipBlanks text.toList)) with
  | error stop =>
    simp only [reads, Except.error.injEq] at fails
    have stands : StandsAt text.toList stop := .inl reads
    exact fails ▸ stands.pinpoints accepts
  | ok found =>
    obtain ⟨pattern, rest⟩ := found
    have stands : StandsAt text.toList rest := .inr ⟨pattern, reads⟩
    by_cases whole : rest.isEmpty = true
    · simp only [reads, whole, if_true, reduceCtorEq] at fails
    · simp only [reads, whole, Bool.false_eq_true, if_false, Except.error.injEq] at fails
      exact fails ▸ stands.pinpoints accepts

end Pattern

namespace LabelledRule

theorem pinpoints_of_parse_error {text : String} {error : ParseError} (fails : parse text = .error error) :
    Pinpoints (fun other => ∃ rule, parse other = .ok rule) text error := by
  have accepts (lead front : List Char) (pattern : Pattern) (blank : ∀ c ∈ lead, isBlank c = true)
      (spells : Pattern.Spells front pattern) :
      ∃ rule, parse (String.ofList (lead ++ (front ++ ['=']))) = .ok rule :=
    ⟨_, parse_ofList_of_derives blank (spells ['='] rfl)⟩
  rw [parse_eq_outcome] at fails
  cases reads : outcome (Pattern.read (skipBlanks text.toList)) with
  | error stop =>
    simp only [reads, Except.error.injEq] at fails
    have stands : Pattern.StandsAt text.toList stop := .inl reads
    exact fails ▸ stands.pinpoints accepts
  | ok found =>
    obtain ⟨pattern, rest⟩ := found
    have stands : Pattern.StandsAt text.toList rest := .inr ⟨pattern, reads⟩
    cases mark : outcome (symbol '=' rest) with
    | error stop =>
      obtain ⟨-, rfl⟩ := outcome_symbol_eq_error_iff.mp mark
      simp only [reads, mark, Except.error.injEq] at fails
      exact fails ▸ stands.pinpoints accepts
    | ok label => simp only [reads, mark, reduceCtorEq] at fails

end LabelledRule

/-- Errors of patterns and of rules tell where the text could not be gone on with, and the readers that
commit themselves never fail for want of text. -/
theorem parse_error_pinpoints (text : String) :
    (∀ error, Pattern.parse text = .error error →
      Pinpoints (fun other => ∃ pattern, Pattern.parse other = .ok pattern) text error) ∧
    (∀ error, LabelledRule.parse text = .error error →
      Pinpoints (fun other => ∃ rule, LabelledRule.parse other = .ok rule) text error) ∧
    (Pattern.textReader text.toList ≠ .incomplete ∧
      (Pattern.textReader text.toList).finish = Pattern.parse text) ∧
    (LabelledRule.reader text.toList ≠ .incomplete ∧
      (LabelledRule.reader text.toList).finish = LabelledRule.parse text) :=
  ⟨fun _ fails => Pattern.pinpoints_of_parse_error fails,
    fun _ fails => LabelledRule.pinpoints_of_parse_error fails,
    Pattern.finish_textReader text, LabelledRule.finish_reader text⟩

theorem parse_error_pinpoints_src :
    Pattern.parse "Move(Int, é)" = .error ⟨3⟩ ∧ LabelledRule.parse "Mem) = x" = .error ⟨5⟩ ∧
      ParseError.column ⟨3⟩ "Move(Int, é)" = 10 ∧
      Pinpoints (fun other => ∃ pattern, Pattern.parse other = .ok pattern) "Move(Int, é)" ⟨3⟩ ∧
      Pinpoints (fun other => ∃ rule, LabelledRule.parse other = .ok rule) "Mem) = x" ⟨5⟩ := by
  have patternFails : Pattern.parse "Move(Int, é)" = .error ⟨3⟩ := by decide +kernel
  have ruleFails : LabelledRule.parse "Mem) = x" = .error ⟨5⟩ := by decide +kernel
  exact ⟨patternFails, ruleFails, by decide, (parse_error_pinpoints _).1 _ patternFails,
    (parse_error_pinpoints _).2.1 _ ruleFails⟩

end ShapeDispatch
