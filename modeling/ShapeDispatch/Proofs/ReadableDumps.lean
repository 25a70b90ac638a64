import ShapeDispatch.Proofs.ErasedIntegers
import ShapeDispatch.Proofs.StableOrder
import ShapeDispatch.RuleTable.Dump

/-! The dump of a rule table can be read back. No pattern is rendered with a blank, so the text up to the first
blank of a line is the pattern of the rule, however far it overruns its field; and behind it the words tell a
rule that every tree fits from the fallback. What is read is all that a dump depends on. -/

namespace ShapeDispatch

namespace Text

def words (text : List Char) : List (List Char) :=
  (text.splitOnP isBlank).filter fun word => word ≠ []

/-- The lines of a text that ends every line. -/
def lines? (text : List Char) : Option (List (List Char)) :=
  let pieces := text.splitOn '\n'
  if pieces.getLast? = some [] then some pieces.dropLast else none

def number? (word : List Char) : Option Nat :=
  if word.all Char.isDigit then some (Nat.ofDigitChars 10 word 0) else none

structure IsWord (text : List Char) : Prop where
  ne_nil : text ≠ []
  unbroken : ∀ c ∈ text, isBlank c = false

instance (text : List Char) : Decidable (IsWord text) :=
  have : Decidable (∀ c ∈ text, isBlank c = false) := List.decidableBAll (fun c => isBlank c = false) text
  decidable_of_iff (text ≠ [] ∧ ∀ c ∈ text, isBlank c = false)
    ⟨fun both => ⟨both.1, both.2⟩, fun isWord => ⟨isWord.ne_nil, isWord.unbroken⟩⟩

variable {text word rest : List Char}

theorem words_space_cons (text : List Char) : words (' ' :: text) = words text := by
  have blank : isBlank ' ' = true := rfl
  rw [words, List.splitOnP_cons_eq_if_modifyHead, if_pos blank]
  rfl

theorem words_replicate_append (count : Nat) (text : List Char) :
    words (List.replicate count ' ' ++ text) = words text := by
  induction count with
  | zero => rfl
  | succ count ih => rw [List.replicate_succ, List.cons_append, words_space_cons, ih]

theorem IsWord.words_append_space_cons (isWord : IsWord word) (rest : List Char) :
    words (word ++ ' ' :: rest) = word :: words rest := by
  rw [words, List.splitOnP_append_cons_of_forall_mem isWord.unbroken ' ' rfl]
  exact List.filter_cons_of_pos (decide_eq_true isWord.ne_nil)

theorem IsWord.words_self (isWord : IsWord word) : words word = [word] := by
  rw [words, List.splitOnP_eq_singleton isWord.unbroken]
  exact List.filter_cons_of_pos (decide_eq_true isWord.ne_nil)

theorem words_flatMap {texts : List (List Char)} (all : ∀ text ∈ texts, IsWord text) :
    words (texts.flatMap (' ' :: ·)) = texts := by
  induction texts with
  | nil => rfl
  | cons first others ih =>
    have isWord := all first List.mem_cons_self
    have later := ih fun text member => all text (List.mem_cons_of_mem first member)
    rw [List.flatMap_cons, List.cons_append, words_space_cons]
    cases others with
    | nil => rw [List.flatMap_nil, List.append_nil, isWord.words_self]
    | cons second others =>
      rw [List.flatMap_cons, List.cons_append] at later ⊢
      rw [isWord.words_append_space_cons, ← words_space_cons, later]

theorem lines?_flatMap {lines : List (List Char)} (unbroken : ∀ line ∈ lines, '\n' ∉ line) :
    lines? (lines.flatMap (· ++ ['\n'])) = some lines := by
  have pieces : (lines.flatMap (· ++ ['\n'])).splitOn '\n' = lines ++ [[]] := by
    induction lines with
    | nil => rfl
    | cons line lines ih =>
      have later := ih fun other member => unbroken other (List.mem_cons_of_mem line member)
      rw [List.flatMap_cons, List.append_assoc, List.singleton_append,
        List.splitOn_append_cons_self_of_not_mem (unbroken line List.mem_cons_self), later]
      rfl
  rw [lines?, pieces, List.getLast?_concat, List.dropLast_concat]
  rfl

theorem IsWord.newline_not_mem (isWord : IsWord word) : '\n' ∉ word := by
  intro member
  cases isWord.unbroken _ member

theorem IsWord.span_append (isWord : IsWord word) (starts : ∀ c ∈ rest.head?, isBlank c = true) :
    (word ++ rest).takeWhile (fun c => !isBlank c) = word ∧
      (word ++ rest).dropWhile (fun c => !isBlank c) = rest := by
  have unbroken : ∀ c ∈ word, (!isBlank c) = true := by
    intro c member
    rw [isWord.unbroken c member]
    rfl
  rw [List.takeWhile_append_of_pos unbroken, List.dropWhile_append_of_pos unbroken]
  cases rest with
  | nil => exact ⟨List.append_nil word, rfl⟩
  | cons c rest => simp [starts c rfl]

theorem starts_blank (count : Nat) (texts : List (List Char)) :
    ∀ c ∈ (List.replicate count ' ' ++ texts.flatMap (' ' :: ·)).head?, isBlank c = true := by
  -- The field ends with the blanks that fill it up, or else the next word brings its own.
  cases count with
  | zero =>
    cases texts with
    | nil => exact nofun
    | cons first others => rintro _ ⟨⟩; rfl
  | succ count => rintro _ ⟨⟩; rfl

theorem isBlank_eq_false_of_isDigit {c : Char} (digit : c.isDigit = true) : isBlank c = false := by
  rw [Bool.eq_false_iff]
  intro blank
  simp only [isBlank, Bool.or_eq_true, decide_eq_true_eq] at blank
  obtain ((rfl | rfl) | rfl) | rfl := blank <;> cases digit

theorem isWord_repr (n : Nat) : IsWord n.repr.toList := by
  refine ⟨?_, fun c member => isBlank_eq_false_of_isDigit (isDigit_of_mem_repr member)⟩
  rw [Nat.toList_repr]
  exact Nat.toDigits_ne_nil

theorem number?_repr (n : Nat) : number? n.repr.toList = some n := by
  rw [number?, if_pos (List.all_eq_true.mpr fun c => isDigit_of_mem_repr), ofDigitChars_repr]

end Text

open Text

namespace Pattern

theorem Lexeme.isWord_spelling (lexeme : Lexeme) : IsWord lexeme.spelling := by
  cases lexeme <;> decide

theorem isWord_render (pattern : Pattern) : IsWord pattern.render.toList := by
  rw [toList_render]
  refine ⟨fun empty => ?_, fun c member => ?_⟩
  · cases pattern <;> exact Lexeme.spelling_ne_nil _ (List.append_eq_nil_iff.mp empty).1
  · obtain ⟨lexeme, -, spelled⟩ := List.mem_flatMap.mp member
    exact lexeme.isWord_spelling.unbroken c spelled

end Pattern

inductive DumpLine where
  | rule (pattern : Pattern) (printed : Specificity)
  | fallback
  deriving DecidableEq

namespace DumpLine

def pattern : DumpLine → Pattern
  | rule pattern _ => pattern
  | fallback => .any

def rule? : DumpLine → Option Pattern
  | rule pattern _ => some pattern
  | fallback => none

def printed? : DumpLine → Option Specificity
  | rule _ printed => some printed
  | fallback => none

def said : DumpLine → List (List Char)
  | rule _ printed =>
    ["depth".toList, printed.depth.repr.toList, "constraints".toList, printed.constraints.repr.toList]
  | fallback => ["fallback".toList]

def write (line : DumpLine) : List Char :=
  (RuleTable.padRight line.pattern.render).toList ++ line.said.flatMap (' ' :: ·)

/-- Reads the text up to the first blank as a pattern, and the words behind it. -/
def read? (text : List Char) : Option DumpLine := do
  let field := text.takeWhile fun c => !isBlank c
  let pattern ← (Pattern.parse (String.ofList field)).toOption
  match words (text.dropWhile fun c => !isBlank c) with
  | [first, depth, second, constraints] =>
    if first = "depth".toList ∧ second = "constraints".toList then
      return rule pattern ⟨← number? depth, ← number? constraints⟩
    else none
  | [only] => if only = "fallback".toList ∧ pattern = .any then some fallback else none
  | _ => none

theorem isWord_said (line : DumpLine) : ∀ word ∈ line.said, IsWord word := by
  have depth : IsWord "depth".toList := by decide
  have constraints : IsWord "constraints".toList := by decide
  have fallback : IsWord "fallback".toList := by decide
  cases line with
  | rule pattern printed =>
    exact List.forall_mem_cons.mpr ⟨depth, List.forall_mem_cons.mpr ⟨isWord_repr _, List.forall_mem_cons.mpr
      ⟨constraints, List.forall_mem_singleton.mpr (isWord_repr _)⟩⟩⟩
  | fallback => exact List.forall_mem_singleton.mpr fallback

theorem toList_padRight (text : String) :
    (RuleTable.padRight text).toList =
      text.toList ++ List.replicate (RuleTable.fieldWidth - text.length) ' ' := by
  rw [RuleTable.padRight, String.toList_append, String.toList_ofList]

theorem read?_write (line : DumpLine) : read? line.write = some line := by
  rw [read?, write, toList_padRight, List.append_assoc]
  obtain ⟨field, behind⟩ := line.pattern.isWord_render.span_append (starts_blank _ line.said)
  rw [field, behind, words_replicate_append, words_flatMap line.isWord_said]
  simp only [String.ofList_toList, Pattern.parse_render]
  -- The number of words is what tells the two kinds of line apart; the pattern may be the same.
  cases line with
  | rule pattern printed =>
    simp only [said, number?_repr, and_self, if_true]
    rfl
  | fallback => rfl

theorem newline_not_mem_write (line : DumpLine) : '\n' ∉ line.write := by
  rw [write, toList_padRight, List.mem_append, List.mem_append]
  rintro ((inField | inGap) | behind)
  · exact line.pattern.isWord_render.newline_not_mem inField
  · exact absurd (List.mem_replicate.mp inGap).2 (by decide)
  · obtain ⟨word, member, spelled⟩ := List.mem_flatMap.mp behind
    obtain same | inWord := List.mem_cons.mp spelled
    · exact absurd same (by decide)
    · exact (line.isWord_said word member).newline_not_mem inWord

end DumpLine

namespace RuleTable

variable {α β : Type} {table : RuleTable α} {other : RuleTable β} {entries : List (Pattern × α)}

def readDump? (dump : String) : Option (List DumpLine) :=
  (lines? dump.toList).bind fun lines => lines.mapM DumpLine.read?

/-- What a dump says: the rules in order, each with the rank of its pattern, and whether there is a fallback. -/
def account (table : RuleTable α) : List DumpLine :=
  table.patterns.map (fun pattern => .rule pattern pattern.specificity) ++
    if table.hasFallback then [.fallback] else []

theorem toList_ruleLine (rule : Rule α) :
    (ruleLine rule).toList = (DumpLine.rule rule.pattern rule.specificity).write ++ ['\n'] := by
  simp [ruleLine, DumpLine.write, DumpLine.said, DumpLine.pattern]

theorem toList_fallbackLine : fallbackLine.toList = DumpLine.fallback.write ++ ['\n'] := by
  simp [fallbackLine, DumpLine.write, DumpLine.said, DumpLine.pattern]

theorem toList_dump (ranks : Ranks table entries) :
    table.dump.toList = (table.account.map DumpLine.write).flatMap (· ++ ['\n']) := by
  have ruleLines : (String.join (table.rules.map ruleLine)).toList = table.rules.flatMap fun rule =>
      (DumpLine.rule rule.pattern rule.pattern.specificity).write ++ ['\n'] := by
    rw [String.toList_join, List.flatMap_map]
    refine List.flatMap_congr fun rule member => ?_
    obtain ⟨entry, -, rfl⟩ := (ranks.mem_iff rule).mp member
    exact toList_ruleLine _
  have lastLine : (if table.hasFallback then fallbackLine else "").toList =
      (if table.hasFallback then [DumpLine.fallback] else []).flatMap fun line => line.write ++ ['\n'] := by
    cases table.hasFallback with
    | false => rfl
    | true => exact toList_fallbackLine.trans (List.flatMap_singleton _ _).symm
  rw [dump, String.toList_append, ruleLines, lastLine, account, patterns, List.flatMap_map, List.flatMap_append,
    List.flatMap_map, List.flatMap_map]

theorem readDump?_dump (ranks : Ranks table entries) : readDump? table.dump = some table.account := by
  have unbroken : ∀ line ∈ table.account.map DumpLine.write, '\n' ∉ line := by
    intro text written
    obtain ⟨line, -, rfl⟩ := List.mem_map.mp written
    exact line.newline_not_mem_write
  have reads (lines : List DumpLine) : (lines.map DumpLine.write).mapM DumpLine.read? = some lines := by
    induction lines with
    | nil => rfl
    | cons line lines ih =>
      rw [List.map_cons, List.mapM_cons, line.read?_write, ih]
      rfl
  rw [readDump?, toList_dump ranks, lines?_flatMap unbroken, Option.bind_some, reads]

theorem filterMap_account {γ : Type} (told : DumpLine → Option γ) (silent : told .fallback = none) :
    table.account.filterMap told =
      table.patterns.filterMap fun pattern => told (.rule pattern pattern.specificity) := by
  have last : (if table.hasFallback then [DumpLine.fallback] else []).filterMap told = [] := by
    cases table.hasFallback with
    | false => rfl
    | true => simp [silent]
  rw [account, List.filterMap_append, List.filterMap_map, last, List.append_nil]
  rfl

theorem account_eq_iff : table.account = other.account ↔
    table.patterns = other.patterns ∧ table.hasFallback = other.hasFallback := by
  have marked {α : Type} (table : RuleTable α) : .fallback ∈ table.account ↔ table.hasFallback = true := by
    cases present : table.hasFallback <;> simp [account, present]
  constructor
  · intro same
    have patterns := congrArg (List.filterMap DumpLine.rule?) same
    rw [filterMap_account DumpLine.rule? rfl, filterMap_account DumpLine.rule? rfl] at patterns
    refine ⟨by simpa only [DumpLine.rule?, List.filterMap_some] using patterns, ?_⟩
    rw [Bool.eq_iff_iff, ← marked, ← marked, same]
  · rintro ⟨patterns, fallback⟩
    rw [account, account, patterns, fallback]

/-- The dump of a table, however the table came about, reads as one line for each rule in the order of the table,
with the pattern of the rule and the rank of this pattern, and one last line if there is a fallback. The ranks
fall from line to line. Two tables have the same dump exactly if they have the same patterns in the same order
and both have a fallback or neither has. -/
theorem dumps_readable :
    (∀ (α : Type) (history : List (Registration α)),
      let table := (ofHistory history).value
      readDump? table.dump = some table.account ∧
        (table.account.filterMap DumpLine.printed?).Pairwise fun first second => ¬first < second) ∧
      ∀ (α β : Type) (history : List (Registration α)) (history' : List (Registration β)),
        let table := (ofHistory history).value
        let other := (ofHistory history').value
        table.dump = other.dump ↔
          table.patterns = other.patterns ∧ table.hasFallback = other.hasFallback := by
  refine ⟨fun α history => ⟨?reads, ?falls⟩, fun α β history history' => ?same⟩
  case reads => exact readDump?_dump (ranks_ofHistory history)
  case falls =>
    have ranks := ranks_ofHistory history
    have printed : (ofHistory history).value.account.filterMap DumpLine.printed? =
        (ofHistory history).value.rules.map Rule.specificity := by
      rw [filterMap_account DumpLine.printed? rfl, ranks.specificity_eq]
      simp [DumpLine.printed?, patterns]
    rw [printed, List.pairwise_map]
    exact ranks.sorted
  case same =>
    have ranks := ranks_ofHistory history
    have ranks' := ranks_ofHistory history'
    refine Iff.trans ⟨?_, ?_⟩ account_eq_iff
    · intro same
      have reads := readDump?_dump ranks
      rw [same, readDump?_dump ranks'] at reads
      exact (Option.some.inj reads).symm
    · intro same
      rw [← String.toList_inj, toList_dump ranks, toList_dump ranks', same]

/-- A rule that every tree fits, beside the fallback. -/
example :
    let table := (ofHistory [.fallback 0, .rule .any 1]).value
    table.dump = "_                        depth 0 constraints 0\n_                        fallback\n" ∧
      readDump? table.dump = some [.rule .any ⟨0, 0⟩, .fallback] := by
  decide +kernel

end RuleTable

end ShapeDispatch
