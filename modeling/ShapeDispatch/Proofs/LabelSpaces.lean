import ShapeDispatch.Proofs.RuleHalves

/-! Spaces around a label. Behind it every space is dropped; in front of it only the blanks are, which go with
the equals sign as they do with every token. So a label may begin with a space that it could not end with, and
what stands in front of a label is seen unless it is blank. -/

namespace ShapeDispatch

open Text

namespace Text

def labelOf (text : List Char) : List Char := trimEnd (skipBlanks text)

variable {text lead trail : List Char}

theorem trimEnd_eq_nil_iff : trimEnd text = [] ↔ ∀ c ∈ text, isSpace c = true := by
  rw [trimEnd, List.reverse_eq_nil_iff, List.dropWhile_eq_nil_iff]
  simp only [List.mem_reverse]

theorem append_trimEnd (lead : List Char) (stops : trimEnd text ≠ []) :
    trimEnd (lead ++ text) = lead ++ trimEnd text := by
  have more : (text.reverse.dropWhile isSpace).isEmpty = false := by
    rw [List.isEmpty_eq_false_iff]
    exact fun none => stops (List.reverse_eq_nil_iff.mpr none)
  rw [trimEnd, List.reverse_append, List.dropWhile_append, more]
  simp only [Bool.false_eq_true, if_false, List.reverse_append, List.reverse_reverse, trimEnd]

theorem labelOf_append_spaces (text : List Char) (spaces : ∀ c ∈ trail, isSpace c = true) :
    labelOf (text ++ trail) = labelOf text := by
  rw [labelOf, labelOf, skipBlanks, skipBlanks, List.dropWhile_append]
  cases left : text.dropWhile isBlank with
  | nil =>
    have allSpace : ∀ c ∈ trail.dropWhile isBlank, isSpace c = true :=
      fun c member => spaces c ((List.dropWhile_sublist _).subset member)
    rw [List.isEmpty_nil, if_pos rfl]
    exact trimEnd_eq_nil_iff.mpr allSpace
  | cons c others => exact trimEnd_append_spaces _ spaces

theorem labelOf_blanks_append (text : List Char) (blanks : ∀ c ∈ lead, isBlank c = true) :
    labelOf (lead ++ text) = labelOf text := by
  rw [labelOf, labelOf, skipBlanks, List.dropWhile_append_of_pos blanks, skipBlanks]

theorem labelOf_eq_nil_iff : labelOf text = [] ↔ ∀ c ∈ text, isSpace c = true := by
  obtain ⟨lead, blank, split⟩ := blanks_skipBlanks text
  rw [labelOf, trimEnd_eq_nil_iff]
  constructor
  · intro spaces c member
    rw [split] at member
    obtain inLead | behind := List.mem_append.mp member
    · exact isSpace_of_isBlank c (blank c inLead)
    · exact spaces c behind
  · intro spaces c member
    exact spaces c ((List.dropWhile_sublist isBlank).subset member)

theorem length_labelOf_lt (label : labelOf text ≠ []) (kept : skipBlanks lead ≠ []) :
    (labelOf text).length < (labelOf (lead ++ text)).length := by
  have more : (lead.dropWhile isBlank).isEmpty = false := List.isEmpty_eq_false_iff.mpr kept
  have whole : skipBlanks (lead ++ text) = skipBlanks lead ++ text := by
    rw [skipBlanks, List.dropWhile_append, more]
    rfl
  -- There is a label in the text, so trimming stops inside it and leaves what was put in front.
  have stops : trimEnd text ≠ [] := by
    rwa [Ne, trimEnd_eq_nil_iff, ← labelOf_eq_nil_iff]
  obtain ⟨blanks, -, split⟩ := blanks_skipBlanks text
  have inside : trimEnd text = blanks ++ labelOf text := by
    conv_lhs => rw [split]
    exact append_trimEnd blanks label
  rw [labelOf, labelOf, whole, append_trimEnd _ stops, inside, labelOf]
  have positive := List.length_pos_iff.mpr kept
  simp only [List.length_append]
  omega

/-- What is put in front of a label is seen unless it is blank, or there is no label. -/
theorem labelOf_append_iff (spaces : ∀ c ∈ lead, isSpace c = true) :
    labelOf (lead ++ text) = labelOf text ↔
      (∀ c ∈ lead, isBlank c = true) ∨ ∀ c ∈ text, isSpace c = true := by
  constructor
  · intro same
    by_contra neither
    obtain ⟨notBlank, notSpace⟩ := not_or.mp neither
    have kept : skipBlanks lead ≠ [] := fun none => notBlank (List.dropWhile_eq_nil_iff.mp none)
    have longer := length_labelOf_lt (fun none => notSpace (labelOf_eq_nil_iff.mp none)) kept
    rw [same] at longer
    exact Nat.lt_irrefl _ longer
  · rintro (blank | space)
    · exact labelOf_blanks_append text blank
    · rw [labelOf_eq_nil_iff.mpr space]
      refine labelOf_eq_nil_iff.mpr fun c member => ?_
      exact (List.mem_append.mp member).elim (spaces c) (space c)

theorem head?_labelOf (label : labelOf text ≠ []) : (labelOf text).head? = (skipBlanks text).head? := by
  obtain ⟨trail, split, -⟩ := trimEnd_split (skipBlanks text)
  conv_rhs => rw [split]
  exact (List.head?_append_of_ne_nil _ label).symm

theorem ends_labelOf (text : List Char) :
    (∀ c ∈ (labelOf text).getLast?, isSpace c = false) ∧ (∀ c ∈ (labelOf text).head?, isBlank c = false) ∧
      ((∃ c ∈ (labelOf text).head?, isSpace c = true) ↔
        (∃ c ∈ (skipBlanks text).head?, isSpace c = true) ∧ ∃ c ∈ text, isSpace c = false) := by
  obtain ⟨trail, -, -, ends⟩ := trimEnd_split (skipBlanks text)
  refine ⟨ends, ?_, ?_⟩
  · by_cases none : labelOf text = []
    · rw [none]
      exact nofun
    · rw [head?_labelOf none]
      exact trimmed_skipBlanks text
  · have nonempty : labelOf text ≠ [] ↔ ∃ c ∈ text, isSpace c = false := by
      simp only [Ne, labelOf_eq_nil_iff, not_forall, exists_prop, Bool.not_eq_true]
    rw [← nonempty]
    constructor
    · rintro ⟨c, first, space⟩
      have label : labelOf text ≠ [] := List.ne_nil_of_mem (List.mem_of_mem_head? first)
      rw [head?_labelOf label] at first
      exact ⟨⟨c, first, space⟩, label⟩
    · rintro ⟨first, label⟩
      rwa [head?_labelOf label]

end Text

theorem Pattern.no_mark_of_parse {text : String} {pattern : Pattern} (reads : parse text = .ok pattern) :
    '=' ∉ text.toList := by
  intro member
  obtain ⟨front, back, split⟩ := List.append_of_mem member
  have foreign := foreign_equals back
  rw [parse_eq_ok_iff_read, split, skipBlanks_append foreign, outcome_read_append foreign] at reads
  cases found : outcome (read (skipBlanks front)) with
  | error stop => rw [found] at reads; cases reads
  | ok found' =>
    obtain ⟨pattern', rest⟩ := found'
    rw [found, outcomeBefore, Except.ok.injEq, Prod.mk.injEq] at reads
    exact List.cons_ne_nil _ _ (List.append_eq_nil_iff.mp reads.2).2

namespace LabelledRule

theorem parse_append_mark {text : String} {pattern : Pattern} (reads : Pattern.parse text = .ok pattern)
    (back : String) :
    parse (text ++ "=" ++ back) = .ok ⟨pattern, String.ofList (labelOf back.toList)⟩ := by
  have split : (text ++ "=" ++ back).toList = text.toList ++ '=' :: back.toList := by
    simp only [String.toList_append, List.append_assoc]
    rfl
  rw [parse_eq_halves split (Pattern.no_mark_of_parse reads), String.ofList_toList, reads, labelOf]

/-- Spaces behind a label are never seen, and spaces in front of it only if some of them is no blank and the
label has more than spaces in it. So the label that is answered does not end with a space and does not begin
with a blank; it begins with a space where the text behind the blanks does, unless all of that is spaces. -/
theorem label_trimmed {text : String} {pattern : Pattern} (reads : Pattern.parse text = .ok pattern) :
    (∀ lead label trail : String, (∀ c ∈ lead.toList, isSpace c = true) →
      (∀ c ∈ trail.toList, isSpace c = true) →
      (parse (text ++ "=" ++ lead ++ label ++ trail) = parse (text ++ "=" ++ label) ↔
        (∀ c ∈ lead.toList, isBlank c = true) ∨ ∀ c ∈ label.toList, isSpace c = true)) ∧
    ∀ back : String, ∃ label, parse (text ++ "=" ++ back) = .ok ⟨pattern, label⟩ ∧
      (∀ c ∈ label.toList.getLast?, isSpace c = false) ∧ (∀ c ∈ label.toList.head?, isBlank c = false) ∧
      ((∃ c ∈ label.toList.head?, isSpace c = true) ↔
        (∃ c ∈ (skipBlanks back.toList).head?, isSpace c = true) ∧ ∃ c ∈ back.toList, isSpace c = false) := by
  refine ⟨fun lead label trail spaces spaces' => ?_, fun back => ⟨_, parse_append_mark reads back, ?_⟩⟩
  · have whole : text ++ "=" ++ lead ++ label ++ trail = text ++ "=" ++ (lead ++ label ++ trail) := by
      simp only [String.append_assoc]
    rw [whole, parse_append_mark reads, parse_append_mark reads, Except.ok.injEq, mk.injEq,
      String.ofList_inj, String.toList_append, String.toList_append,
      labelOf_append_spaces _ spaces', labelOf_append_iff spaces]
    exact and_iff_right rfl
  · rw [String.toList_ofList]
    exact ends_labelOf back.toList

/-- A no-break space is dropped behind a label and kept in front of it. -/
theorem label_trimmed_noBreak :
    Pattern.parse "Mem " = .ok (.mem .any) ∧
      parse ("Mem " ++ "=" ++ "\t " ++ "a b" ++ "\u00a0\n") = parse ("Mem " ++ "=" ++ "a b") ∧
      parse ("Mem " ++ "=" ++ "\u00a0" ++ "a b" ++ "") ≠ parse ("Mem " ++ "=" ++ "a b") := by
  have reads : Pattern.parse "Mem " = .ok (.mem .any) := by decide +kernel
  have all {inRun : Char → Bool} {text : String} (same : text.toList.all inRun = true) :
      ∀ c ∈ text.toList, inRun c = true := List.all_eq_true.mp same
  obtain ⟨spaced, -⟩ := label_trimmed reads
  refine ⟨reads, ?_, fun same => ?_⟩
  · exact (spaced "\t " "a b" "\u00a0\n" (all rfl) (all rfl)).mpr (.inl (all rfl))
  · obtain blank | space := (spaced "\u00a0" "a b" "" (all rfl) (all rfl)).mp same
    · exact Bool.false_ne_true (blank '\u00a0' List.mem_cons_self)
    · exact Bool.false_ne_true (space 'a' List.mem_cons_self)

/-- A label may begin with a vertical tab, though it cannot end with one: it is a space that is no blank. -/
theorem label_begins_with_space :
    ¬∀ (text lead label trail : String) (pattern : Pattern), Pattern.parse text = .ok pattern →
      (∀ c ∈ lead.toList, isSpace c = true) → (∀ c ∈ trail.toList, isSpace c = true) →
      parse (text ++ "=" ++ lead ++ label ++ trail) = parse (text ++ "=" ++ label) ∧
        ∀ found, parse (text ++ "=" ++ lead ++ label ++ trail) = .ok ⟨pattern, found⟩ →
          (∀ c ∈ found.toList.head?, isSpace c = false) ∧ ∀ c ∈ found.toList.getLast?, isSpace c = false := by
  intro trimmed
  have kept : parse ("Int" ++ "=" ++ "\x0b" ++ "x" ++ "") = .ok ⟨.int, "\x0bx"⟩ := by decide +kernel
  obtain ⟨-, ends⟩ := trimmed "Int" "\x0b" "x" "" .int (by decide +kernel) (List.all_eq_true.mp rfl) nofun
  exact Bool.noConfusion ((ends _ kept).1 '\x0b' rfl)

end LabelledRule

end ShapeDispatch
