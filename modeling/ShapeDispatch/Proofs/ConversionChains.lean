import ShapeDispatch.Proofs.WorkspaceChanges

/-! Chains of conversions. Whatever kinds a handle is declared with on the way, the node decides: a chain that
asks for no kind but the node's own ends at the node it started from, and any other chain fails or is left with
nothing. Once nothing is left, it never comes to a node again. -/

namespace ShapeDispatch

open Logged

/-- One way to make a further handle of a given one. `into` hands over the handle itself as one of the abstract
kind, and `throughProjection` goes to the projection and back up from it. -/
inductive Conversion where
  | clone
  | upcast
  | into
  | cast (wanted : StaticKind)
  | castOrNull (wanted : StaticKind)
  | throughProjection
  deriving DecidableEq

namespace Conversion

def wanted? : Conversion → Option StaticKind
  | cast wanted | castOrNull wanted => some wanted
  | clone | upcast | into | throughProjection => none

def declared? : Conversion → Option StaticKind
  | clone => none
  | upcast | into | throughProjection => some .node
  | cast wanted | castOrNull wanted => some wanted

def NeedsNode : Conversion → Prop
  | cast _ | throughProjection => True
  | clone | upcast | into | castOrNull _ => False

/-- The declaration after the steps, which the last of them to make one decides. -/
def declaredBy (steps : List Conversion) (static : StaticKind) : StaticKind :=
  (steps.filterMap declared?).getLast?.getD static

def Suits (kind : Kind) (step : Conversion) : Prop :=
  ∀ wanted, step.wanted? = some wanted → wanted.admits kind = true

theorem suits_iff {kind : Kind} {step : Conversion} :
    step.Suits kind ↔ ∀ wanted, step.wanted? = some (.exactly wanted) → wanted = kind := by
  constructor
  · intro suits wanted asked
    exact (StaticKind.admits_exactly wanted kind).mp (suits _ asked)
  · intro exact wanted asked
    cases wanted with
    | node => rfl
    | exactly wanted => exact (StaticKind.admits_exactly wanted kind).mpr (exact wanted asked)

theorem declaredBy_cons (step : Conversion) (steps : List Conversion) (static : StaticKind) :
    declaredBy (step :: steps) static = declaredBy steps (step.declared?.getD static) := by
  rw [declaredBy, declaredBy, List.filterMap_cons]
  cases step.declared? with
  | none => rfl
  | some declared => rw [List.getLast?_cons, Option.getD_some, Option.getD_some]

end Conversion

namespace Handle

open Conversion

variable {store : Store} {handle result : Handle} {kind : Kind} {static wanted : StaticKind}
  {step : Conversion} {steps : List Conversion}

def convert (store : Store) (handle : Handle) : Conversion → ExceptT RefError Logged Handle
  | .clone => return handle
  | .upcast => return handle.upcast
  | .into => return handle.upcast
  | .cast wanted => handle.cast store wanted
  | .castOrNull wanted => return handle.castOrNull store wanted
  | .throughProjection => return (← handle.project store).upcast

def convertAll (store : Store) (steps : List Conversion) (handle : Handle) : Except RefError Handle :=
  outcome (steps.foldlM (convert store) handle)

theorem convertAll_cons (store : Store) (step : Conversion) (steps : List Conversion) (handle : Handle) :
    convertAll store (step :: steps) handle = outcome (handle.convert store step) >>= convertAll store steps := by
  rw [convertAll, List.foldlM_cons, outcome_bind]
  rfl

theorem convertAll_append {before after : List Conversion} {reached : Handle}
    (leads : convertAll store before handle = .ok reached) :
    convertAll store (before ++ after) handle = convertAll store after reached := by
  unfold convertAll at leads ⊢
  rw [List.foldlM_append, outcome_bind, leads]
  rfl

theorem kind?_redeclared (known : handle.kind? store = some kind) (static : StaticKind) :
    (Handle.mk static handle.target).kind? store = some kind := known

theorem outcome_cast_of_kind? (known : handle.kind? store = some kind) (refused : wanted.admits kind = false) :
    outcome (handle.cast store wanted) = .error (.badCast (some kind) wanted) := by
  simp only [cast, known, refused]
  rfl

theorem outcome_cast_of_absent (absent : handle.kind? store = none) :
    outcome (handle.cast store wanted) = .error (.badCast none wanted) := by
  simp only [cast, absent]
  rfl

theorem castOrNull_of_admits (known : handle.kind? store = some kind) (admitted : wanted.admits kind = true) :
    handle.castOrNull store wanted = ⟨wanted, handle.target⟩ := by
  simp only [castOrNull, known, admitted, if_true]

theorem castOrNull_of_kind? (known : handle.kind? store = some kind) (refused : wanted.admits kind = false) :
    handle.castOrNull store wanted = null wanted := by
  simp only [castOrNull, known, refused, Bool.false_eq_true, if_false]

theorem castOrNull_of_absent (absent : handle.kind? store = none) :
    handle.castOrNull store wanted = null wanted := by
  simp only [castOrNull, absent]

theorem isNull_eq_false_of_kind? (known : handle.kind? store = some kind) : handle.isNull = false := by
  obtain ⟨static, _ | id⟩ := handle
  · cases known
  · rfl

theorem kind?_null (store : Store) (static : StaticKind) : (null static).kind? store = none := rfl

/-! The predicate, the cast and the silent cast look at the same kind. -/

theorem isA_iff_exists_cast (store : Store) (handle : Handle) (wanted : StaticKind) :
    handle.isA store wanted = true ↔ ∃ result, outcome (handle.cast store wanted) = .ok result := by
  simp only [outcome_cast_eq_ok_iff, isA, Option.any_eq_true]
  constructor
  · rintro ⟨kind, known, admitted⟩
    exact ⟨_, kind, known, admitted, rfl⟩
  · rintro ⟨_, kind, known, admitted, -⟩
    exact ⟨kind, known, admitted⟩

theorem isA_iff_castOrNull (store : Store) (handle : Handle) (wanted : StaticKind) :
    handle.isA store wanted = true ↔ (handle.castOrNull store wanted).isNull = false := by
  cases known : handle.kind? store with
  | none =>
    rw [castOrNull_of_absent known, isA, known]
    exact iff_of_false nofun nofun
  | some kind =>
    rw [isA, known, Option.any_some]
    cases admitted : wanted.admits kind with
    | true =>
      rw [castOrNull_of_admits known admitted]
      exact iff_of_true rfl (isNull_eq_false_of_kind? known)
    | false =>
      rw [castOrNull_of_kind? known admitted]
      exact iff_of_false nofun nofun

/-! A step on a handle to a node, and a chain of them. -/

theorem outcome_convert_of_suits (known : handle.kind? store = some kind) (suits : step.Suits kind) :
    outcome (handle.convert store step) = .ok ⟨step.declared?.getD handle.static, handle.target⟩ := by
  cases step with
  | clone | upcast | into => rfl
  | cast wanted => exact outcome_cast_eq_ok_iff.mpr ⟨kind, known, suits wanted rfl, rfl⟩
  | castOrNull wanted =>
    rw [convert, castOrNull_of_admits known (suits wanted rfl)]
    rfl
  | throughProjection =>
    have projects : outcome (handle.project store) = .ok ⟨kind, handle.target⟩ :=
      outcome_project_eq_ok_iff.mpr ⟨kind, known, rfl⟩
    rw [convert, outcome_bind, projects]
    rfl

theorem convertAll_of_suits (known : handle.kind? store = some kind) (suits : ∀ step ∈ steps, step.Suits kind) :
    convertAll store steps handle = .ok ⟨declaredBy steps handle.static, handle.target⟩ := by
  induction steps generalizing handle with
  | nil => rfl
  | cons step steps ih =>
    obtain ⟨first, others⟩ := List.forall_mem_cons.mp suits
    rw [convertAll_cons, outcome_convert_of_suits known first, declaredBy_cons]
    exact ih (kind?_redeclared known _) others

/-! A step on a null handle, and a chain of them. -/

theorem outcome_convert_null (store : Store) (static : StaticKind) (goesOn : ¬step.NeedsNode) :
    outcome ((null static).convert store step) = .ok (null (step.declared?.getD static)) := by
  cases step with
  | clone | upcast | into | castOrNull => rfl
  | cast | throughProjection => exact absurd trivial goesOn

theorem convertAll_null (store : Store) (static : StaticKind) (goesOn : ∀ step ∈ steps, ¬step.NeedsNode) :
    convertAll store steps (null static) = .ok (null (declaredBy steps static)) := by
  induction steps generalizing static with
  | nil => rfl
  | cons step steps ih =>
    obtain ⟨first, others⟩ := List.forall_mem_cons.mp goesOn
    rw [convertAll_cons, outcome_convert_null store static first, declaredBy_cons]
    exact ih _ others

theorem outcome_convert_null_cast (store : Store) (static wanted : StaticKind) :
    outcome ((null static).convert store (.cast wanted)) = .error (.badCast none wanted) :=
  outcome_cast_of_absent (kind?_null store static)

theorem outcome_convert_null_throughProjection (store : Store) (static : StaticKind) :
    outcome ((null static).convert store .throughProjection) = .error (.nullReference static) := by
  have fails : outcome ((null static).project store) = .error (.nullReference static) := by
    rw [outcome, run_project_of_absent (kind?_null store static)]
    rfl
  rw [convert, outcome_bind, fails]
  rfl

theorem null_of_convertAll_null (ends : convertAll store steps (null static) = .ok result) :
    result.isNull = true ∧ ∀ step ∈ steps, ¬step.NeedsNode := by
  induction steps generalizing static with
  | nil =>
    cases ends
    exact ⟨rfl, List.forall_mem_nil _⟩
  | cons step steps ih =>
    rw [convertAll_cons] at ends
    -- A step that needs a node would have ended the chain.
    have goesOn : ¬step.NeedsNode := by
      intro needs
      cases step with
      | clone | upcast | into | castOrNull => exact needs
      | cast wanted =>
        rw [outcome_convert_null_cast] at ends
        cases ends
      | throughProjection =>
        rw [outcome_convert_null_throughProjection] at ends
        cases ends
    rw [outcome_convert_null store static goesOn] at ends
    obtain ⟨absent, others⟩ := ih ends
    exact ⟨absent, List.forall_mem_cons.mpr ⟨goesOn, others⟩⟩

theorem suits_of_convertAll (known : handle.kind? store = some kind)
    (ends : convertAll store steps handle = .ok result) (present : result.isNull = false) :
    ∀ step ∈ steps, step.Suits kind := by
  induction steps generalizing handle with
  | nil => exact List.forall_mem_nil _
  | cons step steps ih =>
    rw [convertAll_cons] at ends
    have suits : step.Suits kind := by
      intro wanted asked
      by_contra refused
      rw [Bool.not_eq_true] at refused
      cases step with
      | clone | upcast | into | throughProjection => cases asked
      | cast =>
        cases asked
        rw [convert, outcome_cast_of_kind? known refused] at ends
        cases ends
      | castOrNull =>
        cases asked
        -- This step does not fail, but from its null handle the chain would end at null.
        rw [convert, castOrNull_of_kind? known refused] at ends
        exact Bool.noConfusion ((null_of_convertAll_null ends).1.symm.trans present)
    rw [outcome_convert_of_suits known suits] at ends
    exact List.forall_mem_cons.mpr ⟨suits, ih (kind?_redeclared known _) ends⟩

theorem convertAll_cast_of_refused {before after : List Conversion} (known : handle.kind? store = some kind)
    (suits : ∀ step ∈ before, step.Suits kind) (refused : wanted.admits kind = false) :
    convertAll store (before ++ .cast wanted :: after) handle = .error (.badCast (some kind) wanted) := by
  have kept := kind?_redeclared known (declaredBy before handle.static)
  rw [convertAll_append (convertAll_of_suits known suits), convertAll_cons, convert,
    outcome_cast_of_kind? kept refused]
  rfl

theorem convertAll_castOrNull_of_refused {before after : List Conversion}
    (known : handle.kind? store = some kind) (suits : ∀ step ∈ before, step.Suits kind)
    (refused : wanted.admits kind = false) :
    convertAll store (before ++ .castOrNull wanted :: after) handle = convertAll store after (null wanted) := by
  have kept := kind?_redeclared known (declaredBy before handle.static)
  rw [convertAll_append (convertAll_of_suits known suits), convertAll_cons, convert,
    castOrNull_of_kind? kept refused]
  rfl

theorem convertAll_null_cast {before : List Conversion} (store : Store) (static wanted : StaticKind)
    (after : List Conversion) (goesOn : ∀ step ∈ before, ¬step.NeedsNode) :
    convertAll store (before ++ .cast wanted :: after) (null static) = .error (.badCast none wanted) := by
  rw [convertAll_append (convertAll_null store static goesOn), convertAll_cons, outcome_convert_null_cast]
  rfl

theorem convertAll_null_throughProjection {before : List Conversion} (store : Store) (static : StaticKind)
    (after : List Conversion) (goesOn : ∀ step ∈ before, ¬step.NeedsNode) :
    convertAll store (before ++ .throughProjection :: after) (null static) =
      .error (.nullReference (declaredBy before static)) := by
  rw [convertAll_append (convertAll_null store static goesOn), convertAll_cons,
    outcome_convert_null_throughProjection]
  rfl

/-- From a handle to a node of this kind, a chain leads to a node exactly if it asks for no other kind, and then
to the same node. The first step that asks for another kind is a bad cast or leaves a null handle. -/
structure KeepsIdentity (store : Store) (handle : Handle) (kind : Kind) : Prop where
  reaches : ∀ steps, (∃ result, convertAll store steps handle = .ok result ∧ result.isNull = false) ↔
    ∀ step ∈ steps, ∀ wanted, step.wanted? = some (.exactly wanted) → wanted = kind
  same : ∀ steps result, convertAll store steps handle = .ok result → result.isNull = false →
    result.same handle = true
  declared : ∀ steps result, convertAll store steps handle = .ok result → result.isNull = false →
    result.static = declaredBy steps handle.static
  badCast : ∀ before reached wanted after, convertAll store before handle = .ok reached →
    reached.isNull = false → wanted.admits kind = false →
    convertAll store (before ++ .cast wanted :: after) handle = .error (.badCast (some kind) wanted)
  toNull : ∀ before reached wanted after, convertAll store before handle = .ok reached →
    reached.isNull = false → wanted.admits kind = false →
    convertAll store (before ++ .castOrNull wanted :: after) handle = convertAll store after (null wanted)

/-- From a null handle a chain leads to a null handle, or fails in the first step that needs a node. -/
structure StaysNull (store : Store) (static : StaticKind) : Prop where
  isNull : ∀ steps result, convertAll store steps (null static) = .ok result → result.isNull = true
  goesOn_iff : ∀ steps, (∃ result, convertAll store steps (null static) = .ok result) ↔
    ∀ step ∈ steps, ¬step.NeedsNode
  declared : ∀ steps, (∀ step ∈ steps, ¬step.NeedsNode) →
    convertAll store steps (null static) = .ok (null (declaredBy steps static))
  badCast : ∀ before wanted after, (∀ step ∈ before, ¬step.NeedsNode) →
    convertAll store (before ++ .cast wanted :: after) (null static) = .error (.badCast none wanted)
  nullReference : ∀ before after, (∀ step ∈ before, ¬step.NeedsNode) →
    convertAll store (before ++ .throughProjection :: after) (null static) =
      .error (.nullReference (declaredBy before static))

structure CastsAgree (store : Store) (handle : Handle) (wanted : StaticKind) : Prop where
  cast : handle.isA store wanted = true ↔ ∃ result, outcome (handle.cast store wanted) = .ok result
  castOrNull : handle.isA store wanted = true ↔ (handle.castOrNull store wanted).isNull = false

theorem keepsIdentity_of_kind? (known : handle.kind? store = some kind) : KeepsIdentity store handle kind := by
  have ends {steps : List Conversion} {result : Handle} (leads : convertAll store steps handle = .ok result)
      (present : result.isNull = false) : result = ⟨declaredBy steps handle.static, handle.target⟩ :=
    Except.ok.inj (leads.symm.trans (convertAll_of_suits known (suits_of_convertAll known leads present)))
  refine ⟨fun steps => ⟨?onlyIf, ?exact⟩, fun steps result leads present => ?same,
    fun steps result leads present => ?declared, fun before reached wanted after leads present refused => ?badCast,
    fun before reached wanted after leads present refused => ?toNull⟩
  case onlyIf =>
    rintro ⟨result, leads, present⟩ step member
    exact suits_iff.mp (suits_of_convertAll known leads present step member)
  case exact =>
    intro exact
    refine ⟨_, convertAll_of_suits known fun step member => suits_iff.mpr (exact step member), ?_⟩
    exact isNull_eq_false_of_kind? known
  case same =>
    rw [ends leads present]
    exact decide_eq_true rfl
  case declared => rw [ends leads present]
  case badCast => exact convertAll_cast_of_refused known (suits_of_convertAll known leads present) refused
  case toNull => exact convertAll_castOrNull_of_refused known (suits_of_convertAll known leads present) refused

theorem staysNull (store : Store) (static : StaticKind) : StaysNull store static where
  isNull _ _ leads := (null_of_convertAll_null leads).1
  goesOn_iff _ :=
    ⟨fun ⟨_, leads⟩ => (null_of_convertAll_null leads).2, fun goesOn => ⟨_, convertAll_null store static goesOn⟩⟩
  declared _ := convertAll_null store static
  badCast _ wanted after goesOn := convertAll_null_cast store static wanted after goesOn
  nullReference _ after goesOn := convertAll_null_throughProjection store static after goesOn

/-- Chains keep the identity of a node whatever kinds they declare on the way, and from a null handle they lead
to null or fail. At every handle the predicate and the two casts agree. -/
theorem conversions_keep_identity (store : Store) :
    (∀ (handle : Handle) (kind : Kind), handle.kind? store = some kind → KeepsIdentity store handle kind) ∧
    (∀ static, StaysNull store static) ∧ ∀ handle wanted, CastsAgree store handle wanted :=
  ⟨fun _ _ => keepsIdentity_of_kind?, staysNull store, fun handle wanted =>
    ⟨isA_iff_exists_cast store handle wanted, isA_iff_castOrNull store handle wanted⟩⟩

theorem conversions_keep_identity_mem :
    let store := (Workspace.empty.run [.build (.int 7) true false "leaf",
      .build (.mem "leaf") true false "above"]).2.store
    let above : Handle := ⟨.exactly .mem, some 1⟩
    above.kind? store = some .mem ∧
      (∃ result, convertAll store [.into, .clone, .cast (.exactly .mem), .throughProjection,
          .castOrNull (.exactly .mem), .clone] above = .ok result ∧ result.same above = true ∧
        result.static = .exactly .mem) ∧
      convertAll store [.upcast, .cast (.exactly .move), .clone] above =
        .error (.badCast (some .mem) (.exactly .move)) ∧
      convertAll store [.castOrNull (.exactly .int), .upcast, .throughProjection] above =
        .error (.nullReference .node) := by
  intro store above
  have known : above.kind? store = some .mem := by decide +kernel
  obtain ⟨live, absent, -⟩ := conversions_keep_identity store
  have keeps := live above .mem known
  refine ⟨known, ?_, keeps.badCast [.upcast] _ (.exactly .move) [.clone] rfl rfl rfl, ?_⟩
  · obtain ⟨result, ends, present⟩ := (keeps.reaches [.into, .clone, .cast (.exactly .mem), .throughProjection,
      .castOrNull (.exactly .mem), .clone]).mpr (by simp [wanted?])
    exact ⟨result, ends, keeps.same _ _ ends present, keeps.declared _ _ ends present⟩
  · refine (keeps.toNull [] above (.exactly .int) [.upcast, .throughProjection] rfl rfl rfl).trans ?_
    exact (absent (.exactly .int)).nullReference [.upcast] [] (by simp [NeedsNode])

end Handle

end ShapeDispatch
