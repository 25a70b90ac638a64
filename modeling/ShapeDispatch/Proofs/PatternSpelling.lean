import Mathlib.Data.List.Infix
import ShapeDispatch.Proofs.PatternGrammar

/-! The characters that a pattern is written with. They are plain ASCII, and they stand for the pattern
in front of any text that does not go on with their last word. -/

namespace ShapeDispatch

open Text

namespace Text

def IsAscii (text : List Char) : Prop := ∀ c ∈ text, c.toNat < 128

instance (text : List Char) : Decidable (IsAscii text) :=
  List.decidableBAll (fun c : Char => c.toNat < 128) text

theorem toNat_lt_of_isWordChar {c : Char} (letter : isWordChar c = true) : c.toNat < 128 := by
  change (((c.isUpper || c.isLower) || c.isDigit) || decide (c = '_')) = true at letter
  simp only [Bool.or_eq_true, decide_eq_true_eq] at letter
  -- The highest letter of each range is well below the bound.
  have below {high : UInt32} (small : high.toNat < 128) (le : c.val ≤ high) : c.toNat < 128 :=
    Nat.lt_of_le_of_lt (UInt32.le_iff_toNat_le.mp le) small
  rcases letter with ((upper | lower) | digit) | rfl
  · exact below (by decide) (of_decide_eq_true upper).2
  · exact below (by decide) (of_decide_eq_true (Bool.and_eq_true_iff.mp lower).2)
  · exact below (by decide) (of_decide_eq_true (Bool.and_eq_true_iff.mp digit).2)
  · decide

theorem toNat_lt_of_isBlank {c : Char} (blank : isBlank c = true) : c.toNat < 128 := by
  simp only [isBlank, Bool.or_eq_true, decide_eq_true_eq] at blank
  rcases blank with ((rfl | rfl) | rfl) | rfl <;> decide

theorem byteLength_toList (text : String) : byteLength text.toList = text.utf8ByteSize := by
  have ofList (chars : List Char) : (String.ofList chars).utf8ByteSize = byteLength chars := by
    induction chars with
    | nil => rfl
    | cons c chars ih => simpa [byteLength] using ih
  rw [← ofList, String.ofList_toList]

theorem byteLength_of_isAscii {text : List Char} (ascii : IsAscii text) :
    byteLength text = text.length := by
  induction text with
  | nil => rfl
  | cons c text ih =>
    have one : c.utf8Size = 1 := by
      have small := ascii c List.mem_cons_self
      unfold Char.utf8Size
      rw [if_pos]
      exact UInt32.le_iff_toNat_le.mpr (Nat.le_of_lt_succ small)
    have rest := ih fun other member => ascii other (List.mem_cons_of_mem c member)
    simp only [byteLength, List.foldr_cons, List.length_cons] at rest ⊢
    omega

end Text

namespace Pattern

section Tokens

def SpellsToken (word front : List Char) : Prop :=
  ∀ rest, startsWithWord rest = false → Token word (front ++ rest) rest

def SpellsMark (mark : Char) (front : List Char) : Prop :=
  ∀ rest, Mark mark (front ++ rest) rest

theorem startsWithWord_append {front rest : List Char} (noWord : startsWithWord front = false)
    (ends : startsWithWord rest = false) : startsWithWord (front ++ rest) = false := by
  cases front with
  | nil => exact ends
  | cons c front => exact noWord

theorem startsWithWord_of_allBlank {blanks : List Char} (allBlank : ∀ c ∈ blanks, isBlank c = true) :
    startsWithWord blanks = false := by
  cases blanks with
  | nil => rfl
  | cons c blanks =>
    by_contra letter
    rw [Bool.not_eq_false] at letter
    have noBlank := isBlank_eq_false_of_isWordChar letter
    exact Bool.false_ne_true (noBlank.symm.trans (allBlank c List.mem_cons_self))

theorem Token.split {word text rest : List Char} (token : Token word text rest) :
    ∃ front, text = front ++ rest ∧ SpellsToken word front := by
  obtain ⟨_, ⟨rfl, -⟩, blanks, allBlank, rfl⟩ := token
  refine ⟨word ++ blanks, (List.append_assoc word blanks rest).symm, ?_⟩
  intro rest' ends
  rw [List.append_assoc]
  exact ⟨blanks ++ rest', ⟨rfl, startsWithWord_append (startsWithWord_of_allBlank allBlank) ends⟩,
    blanks, allBlank, rfl⟩

theorem Mark.split {mark : Char} {text rest : List Char} (marked : Mark mark text rest) :
    ∃ front, text = front ++ rest ∧ SpellsMark mark front := by
  obtain ⟨_, rfl, blanks, allBlank, rfl⟩ := marked
  exact ⟨mark :: blanks, rfl, fun rest' => ⟨blanks ++ rest', rfl, blanks, allBlank, rfl⟩⟩

theorem spellsMark_singleton (mark : Char) : SpellsMark mark [mark] :=
  fun rest => ⟨rest, rfl, [], List.forall_mem_nil _, rfl⟩

theorem spellsToken_word (word : List Char) : SpellsToken word word :=
  fun rest ends => ⟨rest, ⟨rfl, ends⟩, [], List.forall_mem_nil _, rfl⟩

theorem SpellsMark.ends {mark : Char} {front : List Char} (spells : SpellsMark mark front)
    (noLetter : isWordChar mark = false) (rest : List Char) :
    startsWithWord (front ++ rest) = false := by
  obtain ⟨_, spelled, -⟩ := spells rest
  rw [spelled]
  exact noLetter

end Tokens

/-- The characters that are written for a pattern, whatever follows that does not go on with the last
word of it. -/
def Spells (front : List Char) (pattern : Pattern) : Prop :=
  ∀ rest, startsWithWord rest = false → Derives (front ++ rest) rest pattern

section Spelling

variable {name opened first comma other closed : List Char} {dst src exp : Pattern}

theorem Spells.mem (named : SpellsToken ['M', 'e', 'm'] name) (opens : SpellsMark '(' opened)
    (inside : Spells first exp) (closes : SpellsMark ')' closed) :
    Spells (name ++ (opened ++ (first ++ closed))) (mem exp) := by
  intro rest _
  simp only [List.append_assoc]
  exact .mem (named _ (opens.ends rfl _)) (opens _) (inside _ (closes.ends rfl _)) (closes _)

theorem Spells.move (named : SpellsToken ['M', 'o', 'v', 'e'] name) (opens : SpellsMark '(' opened)
    (spellsDst : Spells first dst) (commas : SpellsMark ',' comma) (spellsSrc : Spells other src)
    (closes : SpellsMark ')' closed) :
    Spells (name ++ (opened ++ (first ++ (comma ++ (other ++ closed))))) (move dst src) := by
  intro rest _
  simp only [List.append_assoc]
  exact .move (named _ (opens.ends rfl _)) (opens _) (spellsDst _ (commas.ends rfl _)) (commas _)
    (spellsSrc _ (closes.ends rfl _)) (closes _)

theorem Spells.names {dstName srcName : List Char} (named : SpellsToken ['M', 'o', 'v', 'e'] name)
    (opens : SpellsMark '(' opened) (dstVariable : IsVariable dstName)
    (spellsDst : SpellsToken dstName first) (commas : SpellsMark ',' comma)
    (srcVariable : IsVariable srcName) (spellsSrc : SpellsToken srcName other)
    (closes : SpellsMark ')' closed) :
    Spells (name ++ (opened ++ (first ++ (comma ++ (other ++ closed)))))
      (if dstName = srcName then moveAlike else .move any any) := by
  intro rest _
  simp only [List.append_assoc]
  exact .names (named _ (opens.ends rfl _)) (opens _) dstVariable (spellsDst _ (commas.ends rfl _))
    (commas _) srcVariable (spellsSrc _ (closes.ends rfl _)) (closes _)

theorem spells_any : Spells ['_'] any :=
  fun rest ends => .any (spellsToken_word ['_'] rest ends)

/-- What a pattern was read off is written for it in front of any other rest, too. -/
theorem Derives.split {text rest : List Char} {pattern : Pattern} (derives : Derives text rest pattern) :
    ∃ front, text = front ++ rest ∧ Spells front pattern := by
  induction derives with
  | any name =>
    obtain ⟨front, rfl, named⟩ := name.split
    exact ⟨front, rfl, fun rest ends => .any (named rest ends)⟩
  | int name =>
    obtain ⟨front, rfl, named⟩ := name.split
    exact ⟨front, rfl, fun rest ends => .int (named rest ends)⟩
  | memAlone name =>
    obtain ⟨front, rfl, named⟩ := name.split
    exact ⟨front, rfl, fun rest ends => .memAlone (named rest ends)⟩
  | moveAlone name =>
    obtain ⟨front, rfl, named⟩ := name.split
    exact ⟨front, rfl, fun rest ends => .moveAlone (named rest ends)⟩
  | mem name opened _ closed ih =>
    obtain ⟨_, rfl, named⟩ := name.split
    obtain ⟨_, rfl, opens⟩ := opened.split
    obtain ⟨_, rfl, inside⟩ := ih
    obtain ⟨_, rfl, closes⟩ := closed.split
    refine ⟨_, ?_, Spells.mem named opens inside closes⟩
    simp only [List.append_assoc]
  | names name opened dstVariable first comma srcVariable other closed =>
    obtain ⟨_, rfl, named⟩ := name.split
    obtain ⟨_, rfl, opens⟩ := opened.split
    obtain ⟨_, rfl, spellsDst⟩ := first.split
    obtain ⟨_, rfl, commas⟩ := comma.split
    obtain ⟨_, rfl, spellsSrc⟩ := other.split
    obtain ⟨_, rfl, closes⟩ := closed.split
    refine ⟨_, ?_, Spells.names named opens dstVariable spellsDst commas srcVariable spellsSrc closes⟩
    simp only [List.append_assoc]
  | move name opened _ comma _ closed ihFirst ihOther =>
    obtain ⟨_, rfl, named⟩ := name.split
    obtain ⟨_, rfl, opens⟩ := opened.split
    obtain ⟨_, rfl, spellsDst⟩ := ihFirst
    obtain ⟨_, rfl, commas⟩ := comma.split
    obtain ⟨_, rfl, spellsSrc⟩ := ihOther
    obtain ⟨_, rfl, closes⟩ := closed.split
    refine ⟨_, ?_, Spells.move named opens spellsDst commas spellsSrc closes⟩
    simp only [List.append_assoc]

theorem Token.isAscii {word text rest : List Char} (token : Token word text rest) (asciiWord : IsAscii word)
    (ascii : IsAscii rest) : IsAscii text := by
  obtain ⟨_, ⟨rfl, -⟩, blanks, allBlank, rfl⟩ := token
  intro c member
  simp only [List.mem_append] at member
  rcases member with inWord | inBlanks | inRest
  · exact asciiWord c inWord
  · exact toNat_lt_of_isBlank (allBlank c inBlanks)
  · exact ascii c inRest

theorem Mark.isAscii {mark : Char} {text rest : List Char} (marked : Mark mark text rest)
    (asciiMark : mark.toNat < 128) (ascii : IsAscii rest) : IsAscii text := by
  obtain ⟨_, rfl, blanks, allBlank, rfl⟩ := marked
  intro c member
  simp only [List.mem_cons, List.mem_append] at member
  rcases member with rfl | inBlanks | inRest
  · exact asciiMark
  · exact toNat_lt_of_isBlank (allBlank c inBlanks)
  · exact ascii c inRest

theorem IsVariable.isAscii {name : List Char} (isVar : IsVariable name) : IsAscii name :=
  fun c member => toNat_lt_of_isWordChar (isVar.letters c member)

theorem Derives.isAscii {text rest : List Char} {pattern : Pattern} (derives : Derives text rest pattern)
    (ascii : IsAscii rest) : IsAscii text := by
  induction derives with
  | any name => exact name.isAscii (by decide) ascii
  | int name => exact name.isAscii (by decide) ascii
  | memAlone name => exact name.isAscii (by decide) ascii
  | moveAlone name => exact name.isAscii (by decide) ascii
  | mem name opened _ closed ih =>
    have inside := ih (closed.isAscii (by decide) ascii)
    exact name.isAscii (by decide) (opened.isAscii (by decide) inside)
  | names name opened dstVariable first comma srcVariable other closed =>
    have src := other.isAscii srcVariable.isAscii (closed.isAscii (by decide) ascii)
    have dst := first.isAscii dstVariable.isAscii (comma.isAscii (by decide) src)
    exact name.isAscii (by decide) (opened.isAscii (by decide) dst)
  | move name opened _ comma _ closed ihFirst ihOther =>
    have src := ihOther (closed.isAscii (by decide) ascii)
    have dst := ihFirst (comma.isAscii (by decide) src)
    exact name.isAscii (by decide) (opened.isAscii (by decide) dst)

end Spelling

end Pattern

end ShapeDispatch
