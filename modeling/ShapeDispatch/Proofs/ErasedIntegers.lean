import ShapeDispatch.Proofs.IndistinguishableTrees
import ShapeDispatch.Proofs.RenderedPatterns
import ShapeDispatch.Proofs.WholeTrees

/-! The text of a tree with the word `Int` for every integer in it. It is the text of a pattern, which asks
for the kind of every node and so fits the trees of this one shape: printing, reading, fitting and comparing
go through a tree in the same way at every depth. -/

namespace ShapeDispatch

namespace Text

def dropNumber? : List Char → Option (List Char)
  | [] => none
  -- At least one digit, and then as many as there are.
  | digit :: rest => if digit.isDigit then some (rest.dropWhile Char.isDigit) else none

def dropInteger? : List Char → Option (List Char)
  | '-' :: rest => dropNumber? rest
  | text => dropNumber? text

variable {text rest : List Char}

theorem length_lt_of_dropNumber? (dropped : dropNumber? text = some rest) : rest.length < text.length := by
  cases text with
  | nil => cases dropped
  | cons digit others =>
    have shorter : (others.dropWhile Char.isDigit).length ≤ others.length :=
      (List.dropWhile_sublist _).length_le
    rw [dropNumber?, Option.ite_none_right_eq_some, Option.some.injEq] at dropped
    obtain ⟨-, rfl⟩ := dropped
    exact Nat.lt_succ_of_le shorter

theorem length_lt_of_dropInteger? (dropped : dropInteger? text = some rest) :
    rest.length < text.length := by
  unfold dropInteger? at dropped
  split at dropped
  next others => exact Nat.lt_succ_of_lt (length_lt_of_dropNumber? dropped)
  next => exact length_lt_of_dropNumber? dropped

/-- Puts `Int` in place of every integer. -/
def eraseIntegers : List Char → List Char
  | [] => []
  | c :: others =>
    match _found : dropInteger? (c :: others) with
    | some rest => 'I' :: 'n' :: 't' :: eraseIntegers rest
    | none => c :: eraseIntegers others
termination_by text => text.length
decreasing_by
  · exact length_lt_of_dropInteger? _found
  · exact Nat.lt_succ_self _

def withoutIntegers (text : String) : String := String.ofList (eraseIntegers text.toList)

theorem eraseIntegers_of_dropInteger? (found : dropInteger? text = some rest) :
    eraseIntegers text = 'I' :: 'n' :: 't' :: eraseIntegers rest := by
  cases text with
  | nil => cases found
  | cons c others =>
    rw [eraseIntegers]
    split
    next other dropped =>
      obtain rfl : rest = other := Option.some.inj (found.symm.trans dropped)
      rfl
    next absent => cases found.symm.trans absent

theorem dropInteger?_of_ne {c : Char} (noSign : c ≠ '-') (rest : List Char) :
    dropInteger? (c :: rest) = dropNumber? (c :: rest) := by
  rw [dropInteger?]
  exact fun others same => noSign (List.cons.inj same).1

/-- No number goes on here. -/
def EndsNumber (rest : List Char) : Prop :=
  ∀ c ∈ rest.head?, c.isDigit = false

def Plain (word : List Char) : Prop :=
  ∀ c ∈ word, c.isDigit = false ∧ c ≠ '-'

instance (word : List Char) : Decidable (Plain word) :=
  List.decidableBAll (fun c : Char => c.isDigit = false ∧ c ≠ '-') word

namespace Plain

theorem endsNumber {c : Char} (plain : Plain [c]) (rest : List Char) : EndsNumber ([c] ++ rest) := by
  rintro _ ⟨⟩
  exact (plain c List.mem_cons_self).1

theorem eraseIntegers_append {word : List Char} (plain : Plain word) (rest : List Char) :
    eraseIntegers (word ++ rest) = word ++ eraseIntegers rest := by
  induction word with
  | nil => rfl
  | cons c word ih =>
    obtain ⟨noDigit, noSign⟩ := plain c List.mem_cons_self
    have absent : dropInteger? (c :: (word ++ rest)) = none := by
      rw [dropInteger?_of_ne noSign, dropNumber?, noDigit]
      rfl
    rw [List.cons_append, List.cons_append, eraseIntegers]
    split
    next dropped => cases absent.symm.trans dropped
    next => rw [ih fun other member => plain other (List.mem_cons_of_mem c member)]

end Plain

/-! The integers that are printed. -/

theorem isDigit_of_mem_repr {n : Nat} {c : Char} (member : c ∈ n.repr.toList) : c.isDigit = true := by
  rw [Nat.toList_repr] at member
  exact Nat.isDigit_of_mem_toDigits (by decide) (by decide) member

theorem ofDigitChars_repr (n : Nat) : Nat.ofDigitChars 10 n.repr.toList 0 = n := by
  rw [Nat.toList_repr, Nat.ofDigitChars_ten_toDigits]

theorem exists_toList_repr (n : Nat) :
    ∃ digit digits, n.repr.toList = digit :: digits ∧ digit.isDigit = true ∧
      ∀ c ∈ digits, c.isDigit = true := by
  have allDigits : ∀ c ∈ n.repr.toList, c.isDigit = true := fun c => isDigit_of_mem_repr
  cases shape : n.repr.toList with
  | nil => exact absurd (Nat.toList_repr.symm.trans shape) Nat.toDigits_ne_nil
  | cons digit digits =>
    rw [shape] at allDigits
    exact ⟨digit, digits, rfl, allDigits digit List.mem_cons_self,
      fun c member => allDigits c (List.mem_cons_of_mem digit member)⟩

theorem dropNumber?_repr (n : Nat) (ends : EndsNumber rest) :
    dropNumber? (n.repr.toList ++ rest) = some rest := by
  obtain ⟨digit, digits, shape, isDigit, allDigits⟩ := exists_toList_repr n
  rw [shape, List.cons_append, dropNumber?, if_pos isDigit, List.dropWhile_append_of_pos allDigits]
  cases rest with
  | nil => rfl
  | cons c rest =>
    have noDigit := ends c rfl
    rw [List.dropWhile_cons_of_neg (by rw [noDigit]; exact Bool.false_ne_true)]

theorem dropInteger?_toString (val : Int) (ends : EndsNumber rest) :
    dropInteger? ((toString val).toList ++ rest) = some rest := by
  cases val with
  | ofNat n =>
    obtain ⟨digit, digits, shape, isDigit, -⟩ := exists_toList_repr n
    have noSign : digit ≠ '-' := by
      rintro rfl
      exact Bool.noConfusion isDigit
    have number := dropNumber?_repr n ends
    rw [shape, List.cons_append, ← dropInteger?_of_ne noSign, ← List.cons_append, ← shape] at number
    exact number
  | negSucc n =>
    have printed : (toString (Int.negSucc n)).toList = '-' :: (n + 1).repr.toList := String.toList_append
    rw [printed, List.cons_append, dropInteger?]
    exact dropNumber?_repr (n + 1) ends

end Text

open Text

namespace Tree

variable {rest : List Char}

/-- The text of a tree without its integers is that of the pattern of its shape, whatever follows it. -/
theorem eraseIntegers_render_append (tree : Tree) (ends : EndsNumber rest) :
    eraseIntegers (tree.render.toList ++ rest) =
      (Pattern.ofShape tree).render.toList ++ eraseIntegers rest := by
  have memory : Plain ['M', 'e', 'm', '('] := by decide
  have move : Plain ['M', 'o', 'v', 'e', '('] := by decide
  have comma : Plain [','] := by decide
  have closing : Plain [')'] := by decide
  induction tree generalizing rest with
  | int val =>
    rw [render, eraseIntegers_of_dropInteger? (dropInteger?_toString val.toInt ends), Pattern.toList_render]
    rfl
  | mem exp ih =>
    calc eraseIntegers ((mem exp).render.toList ++ rest)
      _ = eraseIntegers (['M', 'e', 'm', '('] ++ (exp.render.toList ++ ([')'] ++ rest))) := by
        simp [render]
      _ = ['M', 'e', 'm', '('] ++ ((Pattern.ofShape exp).render.toList ++ ([')'] ++ eraseIntegers rest)) := by
        rw [memory.eraseIntegers_append, ih (closing.endsNumber rest), closing.eraseIntegers_append]
      _ = (Pattern.ofShape (mem exp)).render.toList ++ eraseIntegers rest := by
        simp [Pattern.ofShape, Pattern.render]
  | move dst src ihDst ihSrc =>
    calc eraseIntegers ((Tree.move dst src).render.toList ++ rest)
      _ = eraseIntegers (['M', 'o', 'v', 'e', '('] ++ (dst.render.toList ++ ([','] ++
            (src.render.toList ++ ([')'] ++ rest))))) := by
        simp [render]
      _ = ['M', 'o', 'v', 'e', '('] ++ ((Pattern.ofShape dst).render.toList ++ ([','] ++
            ((Pattern.ofShape src).render.toList ++ ([')'] ++ eraseIntegers rest)))) := by
        rw [move.eraseIntegers_append, ihDst (comma.endsNumber _), comma.eraseIntegers_append,
          ihSrc (closing.endsNumber rest), closing.eraseIntegers_append]
      _ = (Pattern.ofShape (Tree.move dst src)).render.toList ++ eraseIntegers rest := by
        simp [Pattern.ofShape, Pattern.render]

theorem withoutIntegers_render (tree : Tree) :
    withoutIntegers tree.render = (Pattern.ofShape tree).render := by
  have ends : EndsNumber [] := nofun
  have erased := tree.eraseIntegers_render_append ends
  rw [List.append_nil, eraseIntegers, List.append_nil] at erased
  rw [withoutIntegers, erased, String.ofList_toList]

theorem sameShape_comm (a b : Tree) : a.sameShape b = b.sameShape a := by
  rw [Bool.eq_iff_iff, sameShape_iff, sameShape_iff]
  exact eq_comm

end Tree

/-- The text without its integers is rendered by the one pattern that it reads as, which fits the trees of
the shape of this one and no others. -/
theorem Tree.exists_shapePattern (tree : Tree) :
    ∃ pattern, Pattern.parse (withoutIntegers tree.render) = .ok pattern ∧
      pattern.render = withoutIntegers tree.render ∧ ∀ other, pattern.fits other = other.sameShape tree := by
  rw [tree.withoutIntegers_render]
  refine ⟨.ofShape tree, Pattern.parse_render _, rfl, fun other => ?_⟩
  rw [Pattern.fits_ofShape, tree.sameShape_comm]

/-- What is printed for a live node and has its integers taken out reads as a pattern that is rendered as the
same text, and that fits just the live nodes of this shape. Going down the nodes of the store and going
through their handles come to this alike. -/
theorem parse_withoutIntegers_render (commands : List Command) :
    let store := (Workspace.empty.run commands).2.store
    ∀ id, store.IsLive id → ∃ text pattern,
      Descent.render store id = pure text ∧ (∀ static, (Handle.mk static (some id)).render store = .ok text) ∧
      Pattern.parse (withoutIntegers text) = .ok pattern ∧ pattern.render = withoutIntegers text ∧
      ∀ other, store.IsLive other → ∃ alike projection,
        Descent.fits store pattern other = pure alike ∧ Descent.sameShape store other id = pure alike ∧
        ∀ static static',
          Logged.outcome ((Handle.mk static (some other)).project store) = .ok projection ∧
          pattern.fitsSubject (projection.subject store) = alike ∧
          (Handle.mk static (some other)).sameShape store ⟨static', some id⟩ = alike := by
  intro store id live
  have counted := (Workspace.Accounted.run commands).counted
  obtain ⟨node, found⟩ := Option.isSome_iff_exists.mp live
  obtain ⟨tree, known, -⟩ := counted.exists_tree found
  have unfolds := counted.unfolds live known
  obtain ⟨pattern, reads, renders, fits⟩ := tree.exists_shapePattern
  refine ⟨tree.render, pattern, unfolds.render, fun static => ?render, reads, renders, ?others⟩
  case render => simp only [Handle.render, Handle.tree?, Option.bind_some, known, store]
  case others =>
    intro other liveOther
    obtain ⟨projection, otherTree, knownOther, subject, projects⟩ := counted.exists_seenAs liveOther
    have unfoldsOther := counted.unfolds liveOther knownOther
    refine ⟨otherTree.sameShape tree, projection, fits otherTree ▸ unfoldsOther.fits pattern,
      unfoldsOther.sameShape unfolds, fun static static' => ⟨projects static, ?fits, ?shape⟩⟩
    case fits => rw [subject, Pattern.fitsSubject, Subject.ofTree, Option.any_some, fits]
    case shape => simp only [Handle.sameShape, Handle.tree?, Option.bind_some, known, knownOther, store]

theorem parse_withoutIntegers_render_shared :
    let store := (Workspace.empty.run [.build (.int (-42)) true false "leaf",
      .build (.mem "leaf") true false "access", .build (.move "access" "leaf") true false "shared",
      .build (.int 7) true false "seven", .build (.mem "seven") true false "other",
      .build (.move "other" "seven") true false "apart"]).2.store
    store.IsLive 2 ∧ store.IsLive 5 ∧ Descent.render store 2 = pure "Move(Mem(-42),-42)" ∧
      withoutIntegers "Move(Mem(-42),-42)" = "Move(Mem(Int),Int)" ∧
      Pattern.parse "Move(Mem(Int),Int)" = .ok (.move (.mem .int) .int) ∧
      Descent.fits store (.move (.mem .int) .int) 5 = pure true ∧
      Descent.sameShape store 5 2 = pure true := by
  intro store
  have live : store.IsLive 2 := by decide +kernel
  have liveApart : store.IsLive 5 := by decide +kernel
  obtain ⟨text, pattern, prints, shows, reads, -, others⟩ := parse_withoutIntegers_render _ 2 live
  have text_eq : (Handle.mk .node (some 2)).render store = .ok "Move(Mem(-42),-42)" := by decide +kernel
  obtain rfl : text = "Move(Mem(-42),-42)" := Except.ok.inj ((shows .node).symm.trans text_eq)
  have erased : withoutIntegers "Move(Mem(-42),-42)" = "Move(Mem(Int),Int)" := by decide +kernel
  have pattern_eq : Pattern.parse "Move(Mem(Int),Int)" = .ok (.move (.mem .int) .int) := by decide +kernel
  rw [erased, pattern_eq] at reads
  obtain rfl : Pattern.move (.mem .int) .int = pattern := Except.ok.inj reads
  obtain ⟨alike, projection, fits, sameShape, through⟩ := others 5 liveApart
  have alike_eq : (Handle.mk .node (some 5)).sameShape store ⟨.node, some 2⟩ = true := by decide +kernel
  obtain rfl : alike = true := (through .node .node).2.2.symm.trans alike_eq
  exact ⟨live, liveApart, prints, erased, pattern_eq, fits, sameShape⟩

end ShapeDispatch
