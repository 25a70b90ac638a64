import ShapeDispatch.Proofs.PatternSpelling

/-! The text that a pattern is rendered with is made of eight lexemes. It reads back as the pattern, and
so does every text that has the same lexemes in the same order, with blanks before, between and behind
them. -/

namespace ShapeDispatch.Pattern

open Text

inductive Lexeme where
  | any
  | int
  | mem
  | move
  | side
  | opening
  | comma
  | closing
  deriving DecidableEq

namespace Lexeme

def spelling : Lexeme → List Char
  | any => ['_']
  | int => ['I', 'n', 't']
  | mem => ['M', 'e', 'm']
  | move => ['M', 'o', 'v', 'e']
  | side => ['T']
  | opening => ['(']
  | comma => [',']
  | closing => [')']

def joined (lexemes : List Lexeme) : List Char :=
  lexemes.flatMap spelling

/-- The lexemes one after the other, each with a run of blanks behind it. -/
inductive Spread : List Lexeme → List Char → Prop where
  | nil : Spread [] []
  | cons {lexeme : Lexeme} {others : List Lexeme} {after rest : List Char} (blanks : Blanks after rest)
      (spread : Spread others rest) : Spread (lexeme :: others) (lexeme.spelling ++ after)

theorem spelling_ne_nil (lexeme : Lexeme) : lexeme.spelling ≠ [] := by
  cases lexeme <;> exact List.cons_ne_nil _ _

theorem spelling_append_inj {first other : Lexeme} {rest back : List Char}
    (same : first.spelling ++ rest = other.spelling ++ back) : first = other ∧ rest = back := by
  cases first <;> cases other <;> simp_all [spelling]

theorem joined_injective : Function.Injective joined := by
  intro lexemes
  induction lexemes with
  | nil =>
    intro others same
    cases others with
    | nil => rfl
    | cons other others => exact absurd (List.append_eq_nil_iff.mp same.symm).1 other.spelling_ne_nil
  | cons lexeme lexemes ih =>
    intro others same
    cases others with
    | nil => exact absurd (List.append_eq_nil_iff.mp same).1 lexeme.spelling_ne_nil
    | cons other others =>
      obtain ⟨rfl, rest⟩ := spelling_append_inj same
      rw [ih rest]

theorem spread_joined (lexemes : List Lexeme) : Spread lexemes (joined lexemes) := by
  induction lexemes with
  | nil => exact .nil
  | cons lexeme lexemes ih => exact .cons ⟨[], List.forall_mem_nil _, rfl⟩ ih

/-- What a word may end before: the end of the text, or a mark. -/
def EndsWord (lexemes : List Lexeme) : Prop :=
  ∀ lexeme ∈ lexemes.head?, lexeme ∈ [opening, comma, closing]

namespace Spread

variable {lexeme : Lexeme} {others : List Lexeme} {text : List Char}

theorem startsWithWord (spread : Spread others text) (ends : EndsWord others) :
    startsWithWord text = false := by
  cases spread with
  | nil => rfl
  | @cons lexeme =>
    have mark := ends lexeme rfl
    simp only [List.mem_cons, List.not_mem_nil, or_false] at mark
    rcases mark with rfl | rfl | rfl <;> rfl

theorem token (spread : Spread (lexeme :: others) text) (ends : EndsWord others) :
    ∃ rest, Token lexeme.spelling text rest ∧ Spread others rest := by
  cases spread with
  | @cons _ _ after rest blanks spread =>
    obtain ⟨run, allBlank, rfl⟩ := blanks
    have noWord := startsWithWord_append (startsWithWord_of_allBlank allBlank) (spread.startsWithWord ends)
    exact ⟨rest, ⟨run ++ rest, ⟨rfl, noWord⟩, run, allBlank, rfl⟩, spread⟩

theorem mark {mark : Char} (spread : Spread (lexeme :: others) text) (spelled : lexeme.spelling = [mark]) :
    ∃ rest, Mark mark text rest ∧ Spread others rest := by
  cases spread with
  | @cons _ _ after rest blanks spread =>
    rw [spelled]
    exact ⟨rest, ⟨after, rfl, blanks⟩, spread⟩

end Spread

end Lexeme

open Lexeme (Spread)

def lexemes : Pattern → List Lexeme
  | any => [.any]
  | int => [.int]
  | mem exp => .mem :: .opening :: (exp.lexemes ++ [.closing])
  | move dst src => .move :: .opening :: (dst.lexemes ++ .comma :: (src.lexemes ++ [.closing]))
  | moveAlike => [.move, .opening, .side, .comma, .side, .closing]

theorem toList_render (pattern : Pattern) : pattern.render.toList = Lexeme.joined pattern.lexemes := by
  induction pattern with
  | any => rfl
  | int => rfl
  | mem exp ih => simp [render, lexemes, Lexeme.joined, Lexeme.spelling, ih]
  | move dst src ihDst ihSrc => simp [render, lexemes, Lexeme.joined, Lexeme.spelling, ihDst, ihSrc]
  | moveAlike => rfl

/-- `text` is `plain` with blanks put before, between or behind its lexemes. -/
def Spaced (plain text : List Char) : Prop :=
  ∃ lexemes start, plain = Lexeme.joined lexemes ∧ Blanks text start ∧ Spread lexemes start

theorem spaced_self (pattern : Pattern) : Spaced pattern.render.toList pattern.render.toList := by
  refine ⟨pattern.lexemes, pattern.render.toList, pattern.toList_render,
    ⟨[], List.forall_mem_nil _, rfl⟩, ?_⟩
  rw [toList_render]
  exact Lexeme.spread_joined pattern.lexemes

theorem derives_of_spread (pattern : Pattern) {more : List Lexeme} {text : List Char}
    (spread : Spread (pattern.lexemes ++ more) text) (ends : Lexeme.EndsWord more) :
    ∃ rest, Derives text rest pattern ∧ Spread more rest := by
  induction pattern generalizing more text with
  | any =>
    obtain ⟨rest, name, spread⟩ := spread.token ends
    exact ⟨rest, .any name, spread⟩
  | int =>
    obtain ⟨rest, name, spread⟩ := spread.token ends
    exact ⟨rest, .int name, spread⟩
  | mem exp ih =>
    simp only [lexemes, List.cons_append, List.append_assoc, List.nil_append] at spread
    obtain ⟨_, name, spread⟩ := spread.token (by simp [Lexeme.EndsWord])
    obtain ⟨_, opened, spread⟩ := spread.mark rfl
    obtain ⟨_, inside, spread⟩ := ih spread (by simp [Lexeme.EndsWord])
    obtain ⟨rest, closed, spread⟩ := spread.mark rfl
    exact ⟨rest, .mem name opened inside closed, spread⟩
  | move dst src ihDst ihSrc =>
    simp only [lexemes, List.cons_append, List.append_assoc, List.nil_append] at spread
    obtain ⟨_, name, spread⟩ := spread.token (by simp [Lexeme.EndsWord])
    obtain ⟨_, opened, spread⟩ := spread.mark rfl
    obtain ⟨_, first, spread⟩ := ihDst spread (by simp [Lexeme.EndsWord])
    obtain ⟨_, comma, spread⟩ := spread.mark rfl
    obtain ⟨_, other, spread⟩ := ihSrc spread (by simp [Lexeme.EndsWord])
    obtain ⟨rest, closed, spread⟩ := spread.mark rfl
    exact ⟨rest, .move name opened first comma other closed, spread⟩
  | moveAlike =>
    have isVar : IsVariable ['T'] := (isVariable_iff ['T']).mp ⟨rfl, List.forall_mem_singleton.mpr rfl⟩
    obtain ⟨_, name, spread⟩ := spread.token (by simp [Lexeme.EndsWord])
    obtain ⟨_, opened, spread⟩ := spread.mark rfl
    obtain ⟨_, first, spread⟩ := spread.token (by simp [Lexeme.EndsWord])
    obtain ⟨_, comma, spread⟩ := spread.mark rfl
    obtain ⟨_, other, spread⟩ := spread.token (by simp [Lexeme.EndsWord])
    obtain ⟨rest, closed, spread⟩ := spread.mark rfl
    exact ⟨rest, .names name opened isVar first comma isVar other closed, spread⟩

theorem parse_of_spaced {pattern : Pattern} {text : String}
    (spaced : Spaced pattern.render.toList text.toList) : parse text = .ok pattern := by
  obtain ⟨lexemes, start, plain, blanks, spread⟩ := spaced
  rw [toList_render] at plain
  obtain rfl := Lexeme.joined_injective plain
  rw [← List.append_nil pattern.lexemes] at spread
  obtain ⟨_, derives, ⟨⟩⟩ := pattern.derives_of_spread spread (by simp [Lexeme.EndsWord])
  rw [parse_eq_ok_iff_read, read_eq_ok_iff_derives, skipBlanks_eq_of_blanks blanks derives.trimmed]
  exact derives

theorem parse_render (pattern : Pattern) : parse pattern.render = .ok pattern :=
  parse_of_spaced pattern.spaced_self

/-- Reading undoes rendering, however the lexemes are spaced. So no two patterns are rendered alike, and
whatever was read can be rendered and read again. -/
theorem parse_of_respaced_render :
    (∀ pattern : Pattern, parse pattern.render = .ok pattern) ∧
      (∀ (pattern : Pattern) (text : String), Spaced pattern.render.toList text.toList →
        parse text = .ok pattern) ∧
      Function.Injective render ∧
      ∀ (text : String) (pattern : Pattern), parse text = .ok pattern →
        parse pattern.render = parse text := by
  refine ⟨parse_render, fun pattern text => parse_of_spaced, ?injective, ?again⟩
  case injective =>
    intro pattern other same
    have reads := parse_render pattern
    rw [same, parse_render other] at reads
    exact (Except.ok.inj reads).symm
  case again =>
    intro text pattern reads
    rw [reads, parse_render]

theorem parse_of_respaced_render_lines :
    let text := String.ofList [' ', 'M', 'o', 'v', 'e', '\t', '(', 'M', 'e', 'm', '(', ' ', '_', ')', ',', '\r',
      '\n', 'I', 'n', 't', ')', ' ']
    Spaced (move (mem any) int).render.toList text.toList ∧ parse text = .ok (move (mem any) int) ∧
      parse "Move(A,B)" = .ok (move any any) ∧ parse (move any any).render = parse "Move(A,B)" := by
  intro text
  have spread : Spread (move (mem any) int).lexemes (text.toList.drop 1) := by
    rw [String.toList_ofList]
    have joined {rest : List Char} : Blanks rest rest := ⟨[], List.forall_mem_nil _, rfl⟩
    have blank {c : Char} {rest : List Char} (isBlank : isBlank c = true) : Blanks (c :: rest) rest :=
      ⟨[c], List.forall_mem_singleton.mpr isBlank, rfl⟩
    have broken {rest : List Char} : Blanks ('\r' :: '\n' :: rest) rest :=
      ⟨['\r', '\n'], List.forall_mem_cons.mpr ⟨rfl, List.forall_mem_singleton.mpr rfl⟩, rfl⟩
    exact .cons (blank rfl) <| .cons joined <| .cons joined <| .cons (blank rfl) <| .cons joined <|
      .cons joined <| .cons broken <| .cons joined <| .cons (blank rfl) .nil
  have spaced : Spaced (move (mem any) int).render.toList text.toList := by
    refine ⟨_, _, toList_render _, ⟨[' '], List.forall_mem_singleton.mpr rfl, ?_⟩, spread⟩
    rw [String.toList_ofList]
    rfl
  have reads : parse "Move(A,B)" = .ok (move any any) := by decide +kernel
  exact ⟨spaced, parse_of_respaced_render.2.1 _ _ spaced, reads,
    parse_of_respaced_render.2.2.2 _ _ reads⟩

end ShapeDispatch.Pattern
