import ShapeDispatch.Proofs.TracelessFailures

/-! Every tree can be built. Subtrees are built one after the other under names that stand for their depth
on a shelf, so that what is finished stays where it is until a node is put over it. What is true of all
nodes of all runs is therefore true of all trees. -/

namespace ShapeDispatch

open Logged

namespace Workspace

open Store (Evolves)

variable {workspace next : Workspace} {name other as : String} {draft : Draft} {tree : Tree}

def treeNamed? (workspace : Workspace) (name : String) : Option Tree :=
  (workspace.refs.get? name).bind fun handle => handle.tree? workspace.store

theorem treeNamed?_eq_some_iff :
    workspace.treeNamed? name = some tree ↔ ∃ handle id, workspace.refs.get? name = some handle ∧
      handle.target = some id ∧ workspace.store.tree? id = some tree := by
  simp only [treeNamed?, Handle.tree?, Option.bind_eq_some_iff]
  constructor
  · rintro ⟨handle, bound, id, pointing, known⟩
    exact ⟨handle, id, bound, pointing, known⟩
  · rintro ⟨handle, id, bound, pointing, known⟩
    exact ⟨handle, bound, id, pointing, known⟩

theorem treeNamed?_kept (accounted : Accounted workspace [] none) (accounted' : Accounted next [] none)
    (evolves : Evolves workspace.store next.store)
    (same : next.refs.get? name = workspace.refs.get? name)
    (stands : workspace.treeNamed? name = some tree) : next.treeNamed? name = some tree := by
  obtain ⟨handle, id, bound, pointing, known⟩ := treeNamed?_eq_some_iff.mp stands
  have old := Store.lt_size_of_isLive (accounted.isLive_ref bound pointing)
  have live := accounted'.isLive_ref (same.trans bound) pointing
  refine treeNamed?_eq_some_iff.mpr ⟨handle, id, same.trans bound, pointing, ?_⟩
  rw [accounted.counted.tree?_eq_of_evolves accounted'.counted evolves old live, known]

theorem exists_children {root : Node Tree} (named : draft.map workspace.treeNamed? = root.map some) :
    ∃ (children : Node Handle) (node : Node NodeId),
      draft.mapM workspace.refs.get? = some children ∧ children.map Handle.target = node.map some ∧
        node.map workspace.store.tree? = root.map some := by
  simp only [Node.mapM_eq_some_iff]
  cases draft with
  | int val =>
    cases root <;> cases named
    exact ⟨.int val, .int val, rfl, rfl, rfl⟩
  | mem exp =>
    cases root <;> simp only [Node.map, Node.mem.injEq, reduceCtorEq] at named
    obtain ⟨handle, id, bound, pointing, known⟩ := treeNamed?_eq_some_iff.mp named
    exact ⟨.mem handle, .mem id, by simp [Node.map, bound], by simp [Node.map, pointing],
      by simp [Node.map, known]⟩
  | move dst src =>
    cases root <;> simp only [Node.map, Node.move.injEq, reduceCtorEq] at named
    obtain ⟨left, leftId, leftBound, leftPointing, leftKnown⟩ := treeNamed?_eq_some_iff.mp named.1
    obtain ⟨right, rightId, rightBound, rightPointing, rightKnown⟩ := treeNamed?_eq_some_iff.mp named.2
    exact ⟨.move left right, .move leftId rightId, by simp [Node.map, leftBound, rightBound],
      by simp [Node.map, leftPointing, rightPointing], by simp [Node.map, leftKnown, rightKnown]⟩

/-- A node that is built over names stands over the trees of these names, and other names keep theirs. -/
theorem build_over (accounted : Accounted workspace [] none) {root : Node Tree}
    (named : draft.map workspace.treeNamed? = root.map some) (as : String) :
    let built := (workspace.step (.build draft false false as)).2
    Accounted built [] none ∧ built.treeNamed? as = some (.ofRoot root) ∧
      ∀ other tree, other ≠ as → workspace.treeNamed? other = some tree →
        built.treeNamed? other = some tree := by
  obtain ⟨children, node, bound, sealed, trees⟩ := exists_children named
  let id := (workspace.store.alloc node).1
  let made : Workspace := { workspace with store := (workspace.store.alloc node).2 }
  have makes : outcome (workspace.make draft) = .ok (id, made) := by
    simp only [outcome_make, bound, Node.seal_eq_ok_iff.mpr sealed, id, made]
  obtain ⟨reply, performs⟩ : ∃ reply, outcome (workspace.perform (.build draft false false as)) =
      .ok (reply, made.putRef as (.toNode id)) := by
    rw [perform, outcome_bind, makes]
    exact ⟨_, rfl⟩
  have performed := performed_of_perform performs
  have accounted' := accounted.of_performed performed
  have evolves := performed.evolves
  rw [(step_of_outcome_eq_ok performs).2]
  refine ⟨accounted', ?stands, fun other tree different stands => ?kept⟩
  case stands =>
    have named' : (made.putRef as (.toNode id)).refs.get? as = some (.toNode id) :=
      Bindings.get?_set_self _ _ _
    have found : (made.putRef as (.toNode id)).store.node? id = some node := by
      have new := Store.lt_size_of_isLive (Store.isLive_alloc_self workspace.store node)
      have live := accounted'.isLive_ref named' rfl
      rw [(evolves_putRef made as (.toNode id)).node?_eq id new live]
      exact Store.node?_alloc_self workspace.store node
    have below : ∀ child ∈ node.children,
        (made.putRef as (.toNode id)).store.tree? child = workspace.store.tree? child := by
      intro child member
      have old : child < workspace.store.cells.size :=
        workspace.store.alloc_fst node ▸ accounted'.counted.older id node found child member
      exact accounted.counted.tree?_eq_of_evolves accounted'.counted evolves old
        (accounted'.counted.isLive_child found member)
    refine treeNamed?_eq_some_iff.mpr ⟨_, id, named', rfl, ?_⟩
    rw [accounted'.counted.tree?_eq found, Node.mapM_congr below, Node.mapM_eq_some_iff.mpr trees,
      Option.map_some]
  case kept => exact treeNamed?_kept accounted accounted' evolves (get?_refs_putRef made _ different) stands

def shelf (index : Nat) : String := String.ofList (List.replicate index 'x')

theorem shelf_ne_of_lt {lower index : Nat} (below : lower < index) : shelf lower ≠ shelf index := by
  intro same
  have lengths := congrArg String.length same
  simp only [shelf, String.length_ofList, List.length_replicate] at lengths
  omega

/-- Builds the tree, with what is below its root at this place of the shelf and higher up. -/
def building : Tree → Nat → List Command
  | .int val, index => [.build (.int val) false false (shelf index)]
  | .mem exp, index => building exp index ++ [.build (.mem (shelf index)) false false (shelf index)]
  | .move dst src, index =>
    building dst index ++ (building src (index + 1) ++
      [.build (.move (shelf index) (shelf (index + 1))) false false (shelf index)])

theorem run_append (workspace : Workspace) (first second : List Command) :
    (workspace.run (first ++ second)).2 = ((workspace.run first).2.run second).2 := by
  induction first generalizing workspace with
  | nil => rfl
  | cons command commands ih => exact ih (workspace.step command).2

def Keeps (workspace next : Workspace) (index : Nat) : Prop :=
  ∀ lower < index, ∀ tree, workspace.treeNamed? (shelf lower) = some tree →
    next.treeNamed? (shelf lower) = some tree

theorem Keeps.trans {last : Workspace} {index higher : Nat} (first : Keeps workspace next index)
    (second : Keeps next last higher) (above : index ≤ higher) : Keeps workspace last index :=
  fun lower below tree stands => second lower (Nat.lt_of_lt_of_le below above) tree (first lower below tree stands)

/-- The tree stands at its place of the shelf, and lower places are as they were. -/
structure Shelved (workspace : Workspace) (index : Nat) (tree : Tree) (next : Workspace) : Prop where
  accounted : Accounted next [] none
  stands : next.treeNamed? (shelf index) = some tree
  keeps : Keeps workspace next index

theorem shelved_build (accounted : Accounted workspace [] none) {root : Node Tree}
    (named : draft.map workspace.treeNamed? = root.map some) (index : Nat) :
    Shelved workspace index (.ofRoot root) (workspace.run [.build draft false false (shelf index)]).2 := by
  obtain ⟨accounted', stands, kept⟩ := build_over accounted named (shelf index)
  exact ⟨accounted', stands, fun lower below other => kept _ other (shelf_ne_of_lt below)⟩

theorem shelved_building (accounted : Accounted workspace [] none) (tree : Tree) (index : Nat) :
    Shelved workspace index tree (workspace.run (building tree index)).2 := by
  induction tree generalizing workspace index with
  | int val =>
    have named : (Node.int val).map workspace.treeNamed? = (Node.int val).map some := rfl
    exact shelved_build accounted named index
  | mem exp ih =>
    rw [building, run_append]
    have inner := ih accounted index
    have named : (Node.mem (shelf index)).map (workspace.run (building exp index)).2.treeNamed? =
        (Node.mem exp).map some := by
      rw [Node.map, inner.stands, Node.map]
    have outer := shelved_build inner.accounted named index
    exact ⟨outer.accounted, outer.stands, inner.keeps.trans outer.keeps (Nat.le_refl index)⟩
  | move dst src ihDst ihSrc =>
    -- The second subtree goes one place higher, which keeps the first one where it is.
    rw [building, run_append, run_append]
    have left := ihDst accounted index
    have right := ihSrc left.accounted (index + 1)
    generalize (workspace.run (building dst index)).2 = reached at left right ⊢
    generalize (reached.run (building src (index + 1))).2 = ready at right ⊢
    have named : (Node.move (shelf index) (shelf (index + 1))).map ready.treeNamed? =
        (Node.move dst src).map some := by
      rw [Node.map, right.keeps index (Nat.lt_succ_self index) dst left.stands, right.stands, Node.map]
    have outer := shelved_build right.accounted named index
    have keeps := left.keeps.trans right.keeps (Nat.le_succ index)
    exact ⟨outer.accounted, outer.stands, keeps.trans outer.keeps (Nat.le_refl index)⟩

/-- Every tree is that of a live node after some run. -/
theorem exists_run_tree (tree : Tree) :
    ∃ commands id, (empty.run commands).2.store.IsLive id ∧
      (empty.run commands).2.store.tree? id = some tree := by
  have shelved := shelved_building .empty tree 0
  obtain ⟨handle, id, bound, pointing, known⟩ := treeNamed?_eq_some_iff.mp shelved.stands
  exact ⟨building tree 0, id, shelved.accounted.isLive_ref bound pointing, known⟩

end Workspace

end ShapeDispatch
