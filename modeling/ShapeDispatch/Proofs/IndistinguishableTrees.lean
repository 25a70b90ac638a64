import ShapeDispatch.Proofs.HeldNodes
import ShapeDispatch.Proofs.StoredTrees
import ShapeDispatch.Proofs.TreeShape

/-! What patterns can tell apart. Two trees have the same shape exactly if the same patterns fit them:
the shape of a tree, written as a pattern, sets it apart from the trees of every other shape, and no
pattern asks for more than shapes. The same is true of nodes in a store, through whatever handles and
over whatever sharing they are seen. -/

namespace ShapeDispatch

namespace Tree

def zeroed : Tree → Tree
  | int _ => int 0
  | mem exp => mem exp.zeroed
  | move dst src => move dst.zeroed src.zeroed

@[simp]
theorem zeroed_zeroed (tree : Tree) : tree.zeroed.zeroed = tree.zeroed := by
  induction tree with
  | int val => rfl
  | mem exp ih => rw [zeroed, zeroed, ih]
  | move dst src ihDst ihSrc => rw [zeroed, zeroed, ihDst, ihSrc]

theorem sameShape_iff_zeroed (a b : Tree) : a.sameShape b = true ↔ a.zeroed = b.zeroed := by
  induction a generalizing b with
  | int val => cases b <;> simp [sameShape, zeroed]
  | mem exp ih => cases b <;> simp [sameShape, zeroed, ih]
  | move dst src ihDst ihSrc => cases b <;> simp [sameShape, zeroed, ihDst, ihSrc]

theorem sameShape_equivalence : Equivalence fun a b : Tree => a.sameShape b = true := by
  simp only [sameShape_iff_zeroed]
  exact ⟨fun _ => rfl, Eq.symm, Eq.trans⟩

@[simp]
theorem sameShape_zeroed (a b : Tree) : a.zeroed.sameShape b.zeroed = a.sameShape b := by
  rw [Bool.eq_iff_iff, sameShape_iff_zeroed, sameShape_iff_zeroed, zeroed_zeroed, zeroed_zeroed]

end Tree

namespace Pattern

@[simp]
theorem fits_zeroed (pattern : Pattern) (tree : Tree) : pattern.fits tree.zeroed = pattern.fits tree := by
  induction pattern generalizing tree with
  | any => rfl
  | int => cases tree <;> rfl
  | mem exp ih =>
    cases tree with
    | mem inner => exact ih inner
    | int val => rfl
    | move left right => rfl
  | move dst src ihDst ihSrc =>
    cases tree with
    | move left right => rw [Tree.zeroed, fits, fits, ihDst, ihSrc]
    | int val => rfl
    | mem inner => rfl
  | moveAlike =>
    cases tree with
    | move left right => exact Tree.sameShape_zeroed left right
    | int val => rfl
    | mem inner => rfl

end Pattern

namespace Tree

theorem fits_eq_of_sameShape {a b : Tree} (alike : a.sameShape b = true) (pattern : Pattern) :
    pattern.fits a = pattern.fits b := calc
  pattern.fits a = pattern.fits a.zeroed := (pattern.fits_zeroed a).symm
  _ = pattern.fits b.zeroed := by rw [(sameShape_iff_zeroed a b).mp alike]
  _ = pattern.fits b := pattern.fits_zeroed b

theorem sameShape_iff_fits_eq (a b : Tree) :
    a.sameShape b = true ↔ ∀ pattern : Pattern, pattern.fits a = pattern.fits b := by
  refine ⟨fits_eq_of_sameShape, fun alike => ?_⟩
  -- The shape of one of them is the pattern that would tell them apart.
  rw [← Pattern.fits_ofShape, ← alike, Pattern.fits_ofShape]
  exact a.sameShape_refl

end Tree

theorem RuleTable.select_congr {α : Type} (table : RuleTable α) {a b : Tree}
    (alike : ∀ pattern : Pattern, pattern.fits a = pattern.fits b) :
    table.select (.ofTree a) = table.select (.ofTree b) := by
  have rules : (fun rule : Rule α => rule.pattern.fits a) = fun rule => rule.pattern.fits b := by
    funext rule
    exact alike rule.pattern
  simp only [select, Subject.ofTree, Option.bind_some, firstFit?, rules]

namespace Store

/-- Through handles of every declared kind the node is seen as `projection`, which stands for `tree`. -/
structure SeenAs (store : Store) (id : NodeId) (projection : Projection) (tree : Tree) : Prop where
  tree? : store.tree? id = some tree
  subject : projection.subject store = .ofTree tree
  project : ∀ static, Logged.outcome ((Handle.mk static (some id)).project store) = .ok projection

theorem Counted.exists_seenAs {store : Store} {held : List (Option NodeId)} {spare : Option NodeId}
    {id : NodeId} (counted : Store.Counted store held spare) (live : store.IsLive id) :
    ∃ projection tree, store.SeenAs id projection tree := by
  obtain ⟨node, found⟩ := Option.isSome_iff_exists.mp live
  obtain ⟨tree, known, kind⟩ := counted.exists_tree found
  refine ⟨⟨node.kind, some id⟩, tree, known, ?subject, fun static => ?project⟩
  case subject =>
    rw [Subject.ofTree, kind, Projection.subject, Projection.tree?, Projection.typed, Handle.tree?,
      Option.bind_some, known]
  case project =>
    refine Handle.outcome_project_eq_ok_iff.mpr ⟨node.kind, ?_, rfl⟩
    rw [Handle.kind?, Handle.node?, Option.bind_some, found, Option.map_some]

/-- What the comparison of two nodes says, whichever handles it is asked through: their trees have the
same shape, no pattern tells their projections apart, and no table either. -/
structure Compared (store : Store) (a b : NodeId) (first second : Projection) (left right : Tree) : Prop where
  left_seenAs : store.SeenAs a first left
  right_seenAs : store.SeenAs b second right
  sameShape : ∀ s t : StaticKind,
    (Handle.mk s (some a)).sameShape store ⟨t, some b⟩ = left.sameShape right
  patterns : ∀ s t : StaticKind, (Handle.mk s (some a)).sameShape store ⟨t, some b⟩ = true ↔
    ∀ pattern : Pattern,
      pattern.fitsSubject (first.subject store) = pattern.fitsSubject (second.subject store)
  tables : ∀ s t : StaticKind, (Handle.mk s (some a)).sameShape store ⟨t, some b⟩ = true →
    ∀ (α : Type) (table : RuleTable α),
      table.select (first.subject store) = table.select (second.subject store)

theorem SeenAs.compared {store : Store} {a b : NodeId} {first second : Projection} {left right : Tree}
    (seenA : store.SeenAs a first left) (seenB : store.SeenAs b second right) :
    store.Compared a b first second left right := by
  have shape (s t : StaticKind) :
      (Handle.mk s (some a)).sameShape store ⟨t, some b⟩ = left.sameShape right := by
    simp only [Handle.sameShape, Handle.tree?, Option.bind_some, seenA.tree?, seenB.tree?]
  refine ⟨seenA, seenB, shape, fun s t => ?patterns, fun s t alike α table => ?tables⟩
  case patterns =>
    rw [shape, seenA.subject, seenB.subject]
    exact Tree.sameShape_iff_fits_eq left right
  case tables =>
    rw [shape] at alike
    rw [seenA.subject, seenB.subject]
    exact table.select_congr (Tree.fits_eq_of_sameShape alike)

end Store

/-- Trees have the same shape exactly if the same patterns fit them, and no pattern looks at an
integer. Live nodes show their trees through handles of every declared kind, and those of one shape
get the same answer from every pattern and every table. -/
theorem sameShape_iff_indistinguishable :
    (∀ a b : Tree, a.sameShape b = true ↔ ∀ pattern : Pattern, pattern.fits a = pattern.fits b) ∧
    (Equivalence fun a b : Tree => a.sameShape b = true) ∧
    (∀ (pattern : Pattern) (tree : Tree), pattern.fits tree.zeroed = pattern.fits tree) ∧
    ∀ (commands : List Command) (a b : NodeId),
      let store := (Workspace.empty.run commands).2.store
      store.IsLive a → store.IsLive b →
      ∃ first second left right, store.Compared a b first second left right := by
  refine ⟨Tree.sameShape_iff_fits_eq, Tree.sameShape_equivalence, Pattern.fits_zeroed, ?nodes⟩
  case nodes =>
    intro commands a b store liveA liveB
    have counted := (Workspace.Accounted.run commands).counted
    obtain ⟨first, left, seenA⟩ := counted.exists_seenAs liveA
    obtain ⟨second, right, seenB⟩ := counted.exists_seenAs liveB
    exact ⟨first, second, left, right, seenA.compared seenB⟩

theorem sameShape_iff_indistinguishable_shared :
    let store := (Workspace.empty.run [.build (.int 1) true false "leaf",
      .build (.move "leaf" "leaf") true false "shared", .build (.int 2) true false "other",
      .build (.move "leaf" "other") false true "apart"]).2.store
    store.IsLive 1 ∧ store.IsLive 3 ∧
      (Handle.mk (.exactly .move) (some 1)).sameShape store ⟨.node, some 3⟩ = true ∧
      ∀ (α : Type) (table : RuleTable α),
        table.select ((Projection.mk .move (some 1)).subject store) =
          table.select ((Projection.mk .move (some 3)).subject store) := by
  intro store
  have liveShared : store.IsLive 1 := by decide +kernel
  have liveApart : store.IsLive 3 := by decide +kernel
  have alike : (Handle.mk (.exactly .move) (some 1)).sameShape store ⟨.node, some 3⟩ = true := by
    decide +kernel
  obtain ⟨first, second, left, right, compared⟩ :=
    sameShape_iff_indistinguishable.2.2.2 _ 1 3 liveShared liveApart
  have kindShared : (Handle.mk (.exactly .move) (some 1)).kind? store = some .move := by decide +kernel
  have kindApart : (Handle.mk .node (some 3)).kind? store = some .move := by decide +kernel
  obtain ⟨_, knownShared, rfl⟩ := Handle.outcome_project_eq_ok_iff.mp (compared.left_seenAs.project (.exactly .move))
  obtain ⟨_, knownApart, rfl⟩ := Handle.outcome_project_eq_ok_iff.mp (compared.right_seenAs.project .node)
  cases kindShared.symm.trans knownShared
  cases kindApart.symm.trans knownApart
  exact ⟨liveShared, liveApart, alike, compared.tables (.exactly .move) .node alike⟩

end ShapeDispatch
