/-! Named values. Setting a name puts the new value in place of the old one. -/

namespace ShapeDispatch

structure Bindings (α : Type) where
  entries : List (String × α)

namespace Bindings

variable {α : Type} (bindings : Bindings α)

def empty : Bindings α := ⟨[]⟩

def get? (name : String) : Option α :=
  (bindings.entries.find? fun entry => entry.1 = name).map Prod.snd

def erase (name : String) : Bindings α :=
  ⟨bindings.entries.eraseP fun entry => entry.1 = name⟩

def set (name : String) (value : α) : Bindings α :=
  ⟨(name, value) :: (bindings.erase name).entries⟩

def contains (name : String) : Bool :=
  (bindings.get? name).isSome

def values : List α := bindings.entries.map Prod.snd

theorem get?_set_self (name : String) (value : α) :
    (bindings.set name value).get? name = some value := by
  simp [get?, set]

theorem get?_erase_of_ne {name other : String} (different : other ≠ name) :
    (bindings.erase name).get? other = bindings.get? other := by
  obtain ⟨entries⟩ := bindings
  simp only [get?, erase]
  congr 1
  induction entries with
  | nil => rfl
  | cons entry entries ih =>
    by_cases here : entry.1 = name
    · simp [here, Ne.symm different]
    · by_cases there : entry.1 = other <;> simp [here, there, ih, different]

theorem get?_set_of_ne {name other : String} (value : α) (different : other ≠ name) :
    (bindings.set name value).get? other = bindings.get? other := by
  have kept := bindings.get?_erase_of_ne different
  simp only [get?, set, List.find?_cons, Ne.symm different, decide_false] at kept ⊢
  exact kept

end Bindings

end ShapeDispatch
