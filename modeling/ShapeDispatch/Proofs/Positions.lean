import Mathlib.Data.List.Forall2
import ShapeDispatch.Proofs.HonestHandles

/-! Places in a tree. A path goes down by the number of a child at a time, and leads nowhere where there is no
child of the number. Whatever has children in some monad can be walked in this way, and two walks that start
from related things and keep to them step by step come to related things by every path. -/

namespace ShapeDispatch

open Logged

def descend {α : Type} {m : Type → Type} [Monad m] (below : α → m (List α)) : List Nat → α → m (Option α)
  | [], start => return some start
  | index :: path, start => do
    (← below start)[index]?.elim (return none) (descend below path)

section

variable {α β ε δ : Type} {R : α → β → Prop} {start : α}

theorem descend_cons_of_ok {below : α → Except ε (List α)} {items : List α} (known : below start = .ok items)
    (index : Nat) (path : List Nat) :
    descend below (index :: path) start = items[index]?.elim (.ok none) (descend below path) := by
  rw [descend, known]
  rfl

theorem outcome_descend (below : α → ExceptT ε Logged (List α)) (path : List Nat) (start : α) :
    outcome (descend below path start) = descend (fun item => outcome (below item)) path start := by
  induction path generalizing start with
  | nil => rfl
  | cons index path ih =>
    rw [descend, outcome_bind]
    cases known : outcome (below start) with
    | error reason =>
      rw [descend, known]
      rfl
    | ok items =>
      rw [descend_cons_of_ok known]
      change outcome (items[index]?.elim (return none) (descend below path)) = _
      cases items[index]? with
      | none => rfl
      | some next => exact ih next

theorem rel_getElem?_of_forall₂ {items : List α} {others : List β} (all : List.Forall₂ R items others)
    (index : Nat) : Option.Rel R items[index]? others[index]? := by
  induction all generalizing index with
  | nil => exact .none
  | cons first _ ih =>
    cases index with
    | zero => exact .some first
    | succ index => exact ih index

theorem descend_related {below : α → Except ε (List α)} {beside : β → Except δ (List β)}
    (steps : ∀ {item other}, R item other → ∃ items others, below item = .ok items ∧
      beside other = .ok others ∧ List.Forall₂ R items others)
    {start : α} {start' : β} (related : R start start') (path : List Nat) :
    ∃ reached reached', descend below path start = .ok reached ∧ descend beside path start' = .ok reached' ∧
      Option.Rel R reached reached' := by
  induction path generalizing start start' with
  | nil => exact ⟨some start, some start', rfl, rfl, .some related⟩
  | cons index path ih =>
    obtain ⟨items, others, first, second, all⟩ := steps related
    rw [descend_cons_of_ok first, descend_cons_of_ok second]
    have related := rel_getElem?_of_forall₂ all index
    generalize items[index]? = item, others[index]? = other at related ⊢
    cases related with
    | none => exact ⟨none, none, rfl, rfl, .none⟩
    | some next => exact ih next

end

namespace Tree

def at? (tree : Tree) : List Nat → Option Tree
  | [] => some tree
  | index :: path => tree.children[index]?.bind (at? · path)

theorem descend_eq_at? {ε : Type} (path : List Nat) (tree : Tree) :
    descend (fun tree : Tree => (.ok tree.children : Except ε (List Tree))) path tree =
      .ok (tree.at? path) := by
  induction path generalizing tree with
  | nil => rfl
  | cons index path ih =>
    rw [descend_cons_of_ok rfl, at?]
    cases tree.children[index]? with
    | none => rfl
    | some child => exact ih child

end Tree

namespace Handle

variable {store : Store} {handle : Handle} {tree : Tree} {node : Node NodeId}

def children (store : Store) (handle : Handle) : Except RefError (List Handle) :=
  return (← handle.get store).children.map toNode

/-- Goes down from node to node, and asks each for its children in turn. -/
def walk (store : Store) (handle : Handle) (path : List Nat) : Except RefError (Option Handle) :=
  descend (children store) path handle

theorem children_eq_ok (usable : handle.get store = .ok node) :
    handle.children store = .ok (node.children.map toNode) := by
  rw [children, usable]
  rfl

/-- The handle can be used as declared, and what is below its node is the tree. -/
structure Shows (store : Store) (handle : Handle) (tree : Tree) : Prop where
  honest : handle.Honest store
  stands : handle.tree? store = some tree

theorem shows_toNode {id : NodeId} (live : store.IsLive id) (known : store.tree? id = some tree) :
    (toNode id).Shows store tree := by
  refine ⟨honest_node fun other pointing => ?_, known⟩
  cases pointing
  exact live

end Handle

namespace Store.Counted

variable {store : Store} {held : List (Option NodeId)} {spare : Option NodeId} {handle : Handle} {tree : Tree}

theorem exists_node_of_shows (counted : Counted store held spare) (shows : handle.Shows store tree) :
    ∃ node, handle.get store = .ok node ∧ node.map store.tree? = tree.root.map some ∧
      ∀ child ∈ node.children, store.IsLive child := by
  obtain ⟨id, pointing, known⟩ := Option.bind_eq_some_iff.mp shows.stands
  obtain ⟨node, found, usable⟩ := shows.honest.exists_node pointing
  refine ⟨node, usable, ?_, fun child => counted.isLive_child found⟩
  rw [counted.tree?_eq found, Option.map_eq_some_iff] at known
  obtain ⟨root, made, rfl⟩ := known
  rw [Tree.root_ofRoot, Node.mapM_eq_some_iff.mp made]

theorem exists_children_of_shows (counted : Counted store held spare) (shows : handle.Shows store tree) :
    ∃ children, handle.children store = .ok children ∧
      List.Forall₂ (Handle.Shows store) children tree.children := by
  obtain ⟨node, usable, same, live⟩ := counted.exists_node_of_shows shows
  refine ⟨_, Handle.children_eq_ok usable, ?_⟩
  have trees : List.Forall₂ (fun child tree => store.tree? child = some tree) node.children tree.children := by
    have listed := congrArg Node.children same
    rw [Node.children_map, Node.children_map, ← List.forall₂_eq_eq_eq] at listed
    exact List.forall₂_map_right_iff.mp (List.forall₂_map_left_iff.mp listed)
  rw [List.forall₂_map_left_iff]
  refine ((List.forall₂_and_left _ _).mpr ⟨live, trees⟩).imp fun child tree shown => ?_
  exact Handle.shows_toNode shown.1 shown.2

/-- A path leads from a handle to the node of the subtree that it leads to in the tree, or nowhere in both. -/
theorem walk_of_shows (counted : Counted store held spare) (shows : handle.Shows store tree)
    (path : List Nat) : ∃ reached, handle.walk store path = .ok reached ∧
      Option.Rel (Handle.Shows store) reached (tree.at? path) := by
  have steps {handle : Handle} {tree : Tree} (shows : handle.Shows store tree) : ∃ children subtrees,
      handle.children store = .ok children ∧ (.ok tree.children : Except RefError (List Tree)) = .ok subtrees ∧
        List.Forall₂ (Handle.Shows store) children subtrees := by
    obtain ⟨children, known, all⟩ := counted.exists_children_of_shows shows
    exact ⟨children, tree.children, known, rfl, all⟩
  obtain ⟨reached, subtree, walks, comes, related⟩ := descend_related steps shows path
  obtain rfl : tree.at? path = subtree := Except.ok.inj ((Tree.descend_eq_at? path tree).symm.trans comes)
  exact ⟨reached, walks, related⟩

end Store.Counted

end ShapeDispatch
