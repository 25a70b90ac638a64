import ShapeDispatch.Proofs.ErasedIntegers
import ShapeDispatch.Proofs.Positions

/-! A tree can be read off its text. The text has no blanks and nothing that ends an integer, but what follows
an integer in it is a comma, a parenthesis or the end, so there is one place for the integer to end, and the
same is then true of every subtree. Nodes have the same text exactly if they are of the same kinds with the same
integers in the same places, however much they share. -/

namespace ShapeDispatch

namespace Node

/-- The kind of the node, with the integer if it is one. -/
def label {α : Type} (node : Node α) : Node Unit := node.map fun _ => ()

theorem label_map {α β : Type} (f : α → β) (node : Node α) : (node.map f).label = node.label :=
  node.map_map f _

end Node

namespace Text

variable {rest rest' : List Char}

def valueOf : List Char → Int
  | '-' :: digits => -Nat.ofDigitChars 10 digits 0
  | digits => Nat.ofDigitChars 10 digits 0

theorem valueOf_toString (val : Int) : valueOf (toString val).toList = val := by
  cases val with
  | ofNat n =>
    obtain ⟨digit, digits, shape, isDigit, -⟩ := exists_toList_repr n
    have noSign : digit ≠ '-' := by
      rintro rfl
      exact Bool.noConfusion isDigit
    have value : valueOf n.repr.toList = Nat.ofDigitChars 10 n.repr.toList 0 := by
      rw [shape, valueOf]
      exact fun others same => noSign (List.cons.inj same).1
    exact value.trans (congrArg Int.ofNat (ofDigitChars_repr n))
  | negSucc n =>
    have printed : (toString (Int.negSucc n)).toList = '-' :: (n + 1).repr.toList := String.toList_append
    rw [printed, valueOf, ofDigitChars_repr]
    rfl

theorem toString_append_inj {val val' : Int} (ends : EndsNumber rest) (ends' : EndsNumber rest')
    (same : (toString val).toList ++ rest = (toString val').toList ++ rest') : val = val' ∧ rest = rest' := by
  have dropped := dropInteger?_toString val ends
  rw [same, dropInteger?_toString val' ends', Option.some.injEq] at dropped
  subst dropped
  have values := congrArg valueOf (List.append_cancel_right same)
  rw [valueOf_toString, valueOf_toString] at values
  exact ⟨values, rfl⟩

def kindAhead : List Char → Kind
  | 'M' :: 'e' :: _ => .mem
  | 'M' :: 'o' :: _ => .move
  | _ => .int

theorem kindAhead_toString (val : Int) (rest : List Char) : kindAhead ((toString val).toList ++ rest) = .int := by
  obtain ⟨c, others, shape, noLetter⟩ : ∃ c others, (toString val).toList = c :: others ∧ c ≠ 'M' := by
    cases val with
    | ofNat n =>
      obtain ⟨digit, digits, shape, isDigit, -⟩ := exists_toList_repr n
      refine ⟨digit, digits, shape, ?_⟩
      rintro rfl
      exact Bool.noConfusion isDigit
    | negSucc n => exact ⟨'-', _, String.toList_append, by decide⟩
  rw [shape, List.cons_append, kindAhead]
  · exact fun others same => noLetter (List.cons.inj same).1
  · exact fun others same => noLetter (List.cons.inj same).1

end Text

open Text

namespace Tree

variable {t u : Tree} {rest rest' : List Char}

theorem toList_render_mem (exp : Tree) (rest : List Char) :
    (mem exp).render.toList ++ rest = ['M', 'e', 'm', '('] ++ (exp.render.toList ++ ([')'] ++ rest)) := by
  simp [render]

theorem toList_render_move (dst src : Tree) (rest : List Char) :
    (move dst src).render.toList ++ rest =
      ['M', 'o', 'v', 'e', '('] ++ (dst.render.toList ++ ([','] ++ (src.render.toList ++ ([')'] ++ rest)))) := by
  simp [render]

theorem kindAhead_render (tree : Tree) (rest : List Char) :
    kindAhead (tree.render.toList ++ rest) = tree.kind := by
  cases tree with
  | int val => exact kindAhead_toString val.toInt rest
  | mem exp =>
    rw [toList_render_mem]
    rfl
  | move dst src =>
    rw [toList_render_move]
    rfl

theorem kind_eq_of_render_append (same : t.render.toList ++ rest = u.render.toList ++ rest') :
    t.kind = u.kind := by
  rw [← kindAhead_render t rest, same, kindAhead_render]

/-- Two texts that go on with no digit begin with the same tree, and go on alike behind it. -/
theorem render_append_inj (ends : EndsNumber rest) (ends' : EndsNumber rest')
    (same : t.render.toList ++ rest = u.render.toList ++ rest') : t = u ∧ rest = rest' := by
  -- Behind a subtree stands a comma or a parenthesis, so no integer goes on there either.
  have comma : Plain [','] := by decide
  have closing : Plain [')'] := by decide
  have kinds := kind_eq_of_render_append same
  induction t generalizing u rest rest' with
  | int val =>
    cases u with
    | int val' =>
      obtain ⟨values, rests⟩ := toString_append_inj ends ends' same
      exact ⟨congrArg int (Int64.toInt_inj.mp values), rests⟩
    | mem exp | move dst src => cases kinds
  | mem exp ih =>
    cases u with
    | mem exp' =>
      rw [toList_render_mem, toList_render_mem] at same
      have inner := List.append_cancel_left same
      obtain ⟨rfl, after⟩ := ih (closing.endsNumber rest) (closing.endsNumber rest') inner
        (kind_eq_of_render_append inner)
      exact ⟨rfl, List.append_cancel_left after⟩
    | int val | move dst src => cases kinds
  | move dst src ihDst ihSrc =>
    cases u with
    | move dst' src' =>
      rw [toList_render_move, toList_render_move] at same
      have inner := List.append_cancel_left same
      obtain ⟨rfl, after⟩ := ihDst (comma.endsNumber _) (comma.endsNumber _) inner
        (kind_eq_of_render_append inner)
      have second := List.append_cancel_left after
      obtain ⟨rfl, last⟩ := ihSrc (closing.endsNumber rest) (closing.endsNumber rest') second
        (kind_eq_of_render_append second)
      exact ⟨rfl, List.append_cancel_left last⟩
    | int val | mem exp => cases kinds

theorem render_injective : Function.Injective render := by
  intro t u same
  have ends : EndsNumber [] := nofun
  exact (render_append_inj ends ends (congrArg (·.toList ++ []) same)).1

theorem eq_of_labels {t u : Tree}
    (same : ∀ path, (t.at? path).map (Node.label ∘ root) = (u.at? path).map (Node.label ∘ root)) : t = u := by
  have top := same []
  induction t generalizing u with
  | int val =>
    cases u with
    | int val' =>
      cases top
      rfl
    | mem exp | move dst src => cases top
  | mem exp ih =>
    cases u with
    | mem exp' => rw [ih (fun path => same (0 :: path)) (same [0])]
    | int val | move dst src => cases top
  | move dst src ihDst ihSrc =>
    cases u with
    | move dst' src' =>
      rw [ihDst (fun path => same (0 :: path)) (same [0]), ihSrc (fun path => same (1 :: path)) (same [1])]
    | int val | mem exp => cases top

end Tree

/-- The kind of the node at the end of a path, with the integer if it is one, unless the path leads nowhere. -/
def Handle.labelAt (store : Store) (handle : Handle) (path : List Nat) : Except RefError (Option (Node Unit)) := do
  match ← handle.walk store path with
  | none => return none
  | some reached => return some (← reached.get store).label

/-- The text is what printing the node comes to, whether the nodes are printed one after the other or the
printing starts from a handle of any declared kind or from a projection. -/
structure Store.Prints (store : Store) (id : NodeId) (text : String) : Prop where
  descent : Descent.render store id = pure text
  handle : ∀ static, (Handle.mk static (some id)).render store = .ok text
  projection : ∃ seen, (∀ static, Logged.outcome ((Handle.mk static (some id)).project store) = .ok seen) ∧
    seen.render store = .ok text

namespace Store.Counted

variable {store : Store} {held : List (Option NodeId)} {spare : Option NodeId} {handle : Handle} {tree : Tree}
  {id : NodeId}

theorem labelAt_eq (counted : Counted store held spare) (shows : handle.Shows store tree) (path : List Nat) :
    handle.labelAt store path = .ok ((tree.at? path).map (Node.label ∘ Tree.root)) := by
  obtain ⟨reached, walks, related⟩ := counted.walk_of_shows shows path
  rw [Handle.labelAt, walks]
  generalize tree.at? path = subtree at related ⊢
  cases related with
  | none => rfl
  | some shown =>
    obtain ⟨node, usable, same, -⟩ := counted.exists_node_of_shows shown
    have labels := congrArg Node.label same
    rw [Node.label_map, Node.label_map] at labels
    simp only [bind, Except.bind, usable, labels]
    rfl

theorem exists_prints (counted : Counted store held spare) (live : store.IsLive id) :
    ∃ tree, (Handle.toNode id).Shows store tree ∧ store.Prints id tree.render := by
  obtain ⟨seen, tree, known, subject, projects⟩ := counted.exists_seenAs live
  refine ⟨tree, Handle.shows_toNode live known, (counted.unfolds live known).render, fun static => ?handle,
    seen, projects, ?projection⟩
  case handle => simp only [Handle.render, Handle.tree?, Option.bind_some, known]
  case projection =>
    have shown : seen.typed.tree? store = some tree := congrArg Subject.tree? subject
    rw [Projection.render, Handle.render, shown]

end Store.Counted

/-- Trees have the same text exactly if they are equal. For the live nodes of any two runs this means that the
texts are the same exactly if every path leads to nodes of the same kind with the same integer in both, or
leads nowhere in both. It does not matter what subtrees share or through which handle the texts are printed. -/
theorem texts_faithful :
    (∀ t u : Tree, t.render = u.render ↔ t = u) ∧
      ∀ (commands commands' : List Command) (a b : NodeId),
        let store := (Workspace.empty.run commands).2.store
        let store' := (Workspace.empty.run commands').2.store
        store.IsLive a → store'.IsLive b → ∃ text text', store.Prints a text ∧ store'.Prints b text' ∧
          (∀ path, ∃ label label', (Handle.toNode a).labelAt store path = .ok label ∧
            (Handle.toNode b).labelAt store' path = .ok label') ∧
          (text = text' ↔
            ∀ path, (Handle.toNode a).labelAt store path = (Handle.toNode b).labelAt store' path) := by
  refine ⟨fun t u => Tree.render_injective.eq_iff, ?nodes⟩
  case nodes =>
    intro commands commands' a b store store' liveA liveB
    have counted := (Workspace.Accounted.run commands).counted
    have counted' := (Workspace.Accounted.run commands').counted
    obtain ⟨t, shows, prints⟩ := counted.exists_prints liveA
    obtain ⟨u, shows', prints'⟩ := counted'.exists_prints liveB
    have labels := counted.labelAt_eq shows
    have labels' := counted'.labelAt_eq shows'
    refine ⟨t.render, u.render, prints, prints', fun path => ⟨_, _, labels path, labels' path⟩,
      fun same path => ?alike, fun alike => ?same⟩
    case alike =>
      rw [labels, labels', Tree.render_injective same]
    case same =>
      refine congrArg Tree.render (Tree.eq_of_labels fun path => ?_)
      have here := alike path
      rw [labels, labels'] at here
      exact Except.ok.inj here

theorem texts_faithful_shared :
    let store := (Workspace.empty.run [.build (.int (-21)) true false "leaf",
      .build (.mem "leaf") true false "access", .build (.move "access" "access") true false "shared",
      .build (.int (-21)) false false "other", .build (.mem "other") false false "beside",
      .build (.move "access" "beside") false false "apart"]).2.store
    store.IsLive 2 ∧ store.IsLive 5 ∧ store.Prints 2 "Move(Mem(-21),Mem(-21))" ∧
      store.Prints 5 "Move(Mem(-21),Mem(-21))" ∧
      ∀ path, (Handle.toNode 2).labelAt store path = (Handle.toNode 5).labelAt store path := by
  intro store
  have liveShared : store.IsLive 2 := by decide +kernel
  have liveApart : store.IsLive 5 := by decide +kernel
  obtain ⟨text, text', prints, prints', -, faithful⟩ := texts_faithful.2 _ _ 2 5 liveShared liveApart
  have shown : (Handle.toNode 2).render store = .ok "Move(Mem(-21),Mem(-21))" := by decide +kernel
  have shown' : (Handle.toNode 5).render store = .ok "Move(Mem(-21),Mem(-21))" := by decide +kernel
  obtain rfl : text = _ := Except.ok.inj ((prints.handle .node).symm.trans shown)
  obtain rfl : text' = _ := Except.ok.inj ((prints'.handle .node).symm.trans shown')
  exact ⟨liveShared, liveApart, prints, prints', faithful.mp rfl⟩

end ShapeDispatch
