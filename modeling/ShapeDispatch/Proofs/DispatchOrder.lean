import ShapeDispatch.Proofs.RuleOrder
import ShapeDispatch.RuleTable.Dispatch

/-! Dispatch through a table that was set up by any history of calls. The equations hold in every
monad that can report events, so an action that stands once on the right is run exactly once, and an
action that does not stand there is not run at all. -/

namespace ShapeDispatch

namespace RuleTable

variable {α β : Type} {m : Type → Type} [Monad m] [MonadLog m] {table : RuleTable α}
  {subject : Subject} {tree : Tree}

theorem firstFit?_of_firstRule? {rule : Rule α} (first : table.firstRule? tree = some rule) :
    ∃ index, table.firstFit? tree = some index ∧ table.rules[index]? = some rule ∧
      ∀ earlier < index, ∀ other, table.patterns[earlier]? = some other → other.fits tree = false := by
  obtain ⟨fit, index, bound, here, unfit⟩ := List.find?_eq_some_iff_getElem.mp first
  refine ⟨index, ?_, by rw [List.getElem?_eq_getElem bound, here], ?_⟩
  · refine List.findIdx?_eq_some_iff_getElem.mpr ⟨bound, by simpa only [here] using fit, ?_⟩
    intro earlier before
    simpa only [Bool.not_eq_true, Bool.not_eq_true'] using unfit earlier before
  · intro earlier before other there
    rw [patterns, List.getElem?_map, List.getElem?_eq_getElem (before.trans bound), Option.map_some,
      Option.some.injEq] at there
    simpa only [there, Bool.not_eq_true'] using unfit earlier before

theorem firstFit?_eq_none_iff : table.firstFit? tree = none ↔ table.firstRule? tree = none := by
  simp only [firstFit?, firstRule?, List.findIdx?_eq_none_iff, List.find?_eq_none, Bool.not_eq_true]

theorem dispatch_of_absent (run : α → Tree → m β) (absent : subject.tree? = none) :
    table.dispatch run subject = throw (.reference (.nullReference (.exactly subject.tag))) := by
  simp only [dispatch, absent]

theorem choose_of_firstFit? {rule : Rule α} {index : Nat} (first : table.firstFit? tree = some index)
    (here : table.rules[index]? = some rule) : table.choose tree = .rule index rule := by
  simp only [choose, first, here, Option.bind_some, Option.map_some]

theorem dispatch_of_firstFit? {rule : Rule α} {index : Nat} (run : α → Tree → m β)
    (present : subject.tree? = some tree) (first : table.firstFit? tree = some index)
    (here : table.rules[index]? = some rule) :
    table.dispatch run subject = (do
      log (.matchedRule subject.tag index rule.pattern)
      run rule.action tree) := by
  simp only [dispatch, present, choose_of_firstFit? first here]

theorem dispatch_of_firstFit?_eq_none (run : α → Tree → m β) (present : subject.tree? = some tree)
    (unfit : table.firstFit? tree = none) :
    table.dispatch run subject =
      (match table.fallback with
      | some action => do
        log (.usedFallback subject.tag)
        run action tree
      | none => do
        log (.matchedNothing subject.tag)
        throw (.noMatch subject.tag)) := by
  simp only [dispatch, present, choose, unfit, Option.bind_none]
  cases table.fallback <;> rfl

namespace Ranks

variable {entries : List (Pattern × α)}

theorem exists_firstRule? (ranks : Ranks table entries)
    (fit : ∃ entry ∈ entries, entry.1.fits tree = true) : ∃ rule, table.firstRule? tree = some rule := by
  obtain ⟨entry, member, fits⟩ := fit
  cases first : table.firstRule? tree with
  | some rule => exact ⟨rule, rfl⟩
  | none =>
    have unfit := ranks.firstRule?_eq_none_iff.mp first entry member
    exact Bool.noConfusion (fits.symm.trans unfit)

theorem exists_preferred (ranks : Ranks table entries)
    (fit : ∃ entry ∈ entries, entry.1.fits tree = true) :
    ∃ place pattern action, Preferred entries tree place pattern action := by
  obtain ⟨rule, first⟩ := ranks.exists_firstRule? fit
  obtain ⟨place, preferred⟩ := ranks.preferred_of_first first
  exact ⟨place, rule.pattern, rule.action, preferred⟩

/-- The rule that a tree is due is the first one in the table that fits. -/
theorem firstFit?_of_preferred (ranks : Ranks table entries) {place : Nat} {pattern : Pattern} {action : α}
    (preferred : Preferred entries tree place pattern action) :
    ∃ index rule, table.firstFit? tree = some index ∧ table.rules[index]? = some rule ∧
      rule.pattern = pattern ∧ rule.action = action ∧
      ∀ earlier < index, ∀ other, table.patterns[earlier]? = some other → other.fits tree = false := by
  obtain ⟨rule, first⟩ := ranks.exists_firstRule?
    ⟨_, List.mem_of_getElem? preferred.registered, preferred.fits⟩
  obtain ⟨place', preferred'⟩ := ranks.preferred_of_first first
  obtain ⟨-, rfl, rfl⟩ := preferred.unique preferred'
  obtain ⟨index, found, here, earlier⟩ := firstFit?_of_firstRule? first
  exact ⟨index, rule, found, here, rfl, rfl, earlier⟩

theorem dispatch_of_preferred (ranks : Ranks table entries) (run : α → Tree → m β)
    (present : subject.tree? = some tree) {place : Nat} {pattern : Pattern} {action : α}
    (preferred : Preferred entries tree place pattern action) :
    ∃ index, table.select subject = some index ∧ table.patterns[index]? = some pattern ∧
      (∀ earlier < index, ∀ other, table.patterns[earlier]? = some other →
        other.fits tree = false) ∧
      table.dispatch run subject = (do
        log (.matchedRule subject.tag index pattern)
        run action tree) := by
  obtain ⟨index, rule, found, here, rfl, rfl, earlier⟩ := ranks.firstFit?_of_preferred preferred
  refine ⟨index, ?_, ?_, earlier, dispatch_of_firstFit? run present found here⟩
  · rw [select, present, Option.bind_some, found]
  · rw [patterns, List.getElem?_map, here, Option.map_some]

theorem dispatch_of_unfit (ranks : Ranks table entries) (run : α → Tree → m β)
    (present : subject.tree? = some tree)
    (unfit : ∀ entry ∈ entries, entry.1.fits tree = false) :
    table.select subject = none ∧
      table.dispatch run subject =
        (match table.fallback with
        | some action => do
          log (.usedFallback subject.tag)
          run action tree
        | none => do
          log (.matchedNothing subject.tag)
          throw (.noMatch subject.tag)) := by
  have none := firstFit?_eq_none_iff.mpr (ranks.firstRule?_eq_none_iff.mpr unfit)
  refine ⟨?_, dispatch_of_firstFit?_eq_none run present none⟩
  rw [select, present, Option.bind_some, none]

end Ranks

end RuleTable

namespace Handle

variable {store : Store} {handle : Handle}

theorem castOrNull_target_of_kind? {kind : Kind} (known : handle.kind? store = some kind) :
    (handle.castOrNull store (.exactly kind)).target = handle.target := by
  simp only [castOrNull, known, StaticKind.admits, decide_true, if_true]

theorem run_project_of_absent (absent : handle.kind? store = none) :
    (handle.project store).run = pure (.error (.nullReference handle.static)) := by
  simp only [project, absent]
  rfl

theorem run_project_of_kind? {kind : Kind} (known : handle.kind? store = some kind) :
    (handle.project store).run = (do
      log (.projecting handle.static kind)
      return .ok ⟨kind, handle.target⟩) := by
  simp only [project, known, castOrNull_target_of_kind? known]
  rfl

end Handle

namespace RuleTable

variable {α β : Type} {m : Type → Type} [Monad m] [LawfulMonad m] [MonadLog m] [MonadLiftT Logged m]
  [LawfulMonadLiftT Logged m] {table : RuleTable α} {store : Store} {handle : Handle}

theorem dispatchHandle_of_absent (run : α → Tree → m β) (absent : handle.kind? store = none) :
    table.dispatchHandle run store handle =
      throw (.reference (.nullReference handle.static)) := by
  rw [dispatchHandle, Handle.run_project_of_absent absent, liftM_pure, pure_bind]

theorem dispatchHandle_of_kind? {kind : Kind} (run : α → Tree → m β)
    (known : handle.kind? store = some kind) :
    table.dispatchHandle run store handle = (do
      liftM (log (.projecting handle.static kind) : Logged Unit)
      table.dispatch run ((Projection.mk kind handle.target).subject store)) := by
  rw [dispatchHandle, Handle.run_project_of_kind? known, liftM_bind, bind_assoc]
  simp only [liftM_pure, pure_bind]

/-- Whatever the history of a table, a dispatch of nothing fails, a tree that has a rule is given to
the action of the preferred one and to no other, and a tree that has none is given to the last
fallback, if there was one. A handle is projected, and its projection is dispatched. -/
theorem dispatch_ofHistory (history : List (Registration α)) (run : α → Tree → m β) :
    (∀ subject : Subject, subject.tree? = none →
      (ofHistory history).value.dispatch run subject =
        throw (.reference (.nullReference (.exactly subject.tag)))) ∧
    (∀ tree, (∃ entry ∈ Registration.rules history, entry.1.fits tree = true) →
      ∃ place pattern action, Preferred (Registration.rules history) tree place pattern action) ∧
    (∀ subject tree place pattern action, subject.tree? = some tree →
      Preferred (Registration.rules history) tree place pattern action →
      ∃ index, (ofHistory history).value.select subject = some index ∧
        (ofHistory history).value.patterns[index]? = some pattern ∧
        (∀ earlier < index, ∀ other, (ofHistory history).value.patterns[earlier]? = some other →
          other.fits tree = false) ∧
        (ofHistory history).value.dispatch run subject = (do
          log (.matchedRule subject.tag index pattern)
          run action tree)) ∧
    (∀ subject tree, subject.tree? = some tree →
      (∀ entry ∈ Registration.rules history, entry.1.fits tree = false) →
      (ofHistory history).value.select subject = none ∧
        (ofHistory history).value.dispatch run subject =
          (match Registration.lastFallback history with
          | some action => do
            log (.usedFallback subject.tag)
            run action tree
          | none => do
            log (.matchedNothing subject.tag)
            throw (.noMatch subject.tag))) ∧
    (∀ store (handle : Handle), handle.kind? store = none →
      (ofHistory history).value.dispatchHandle run store handle =
        throw (.reference (.nullReference handle.static))) ∧
    (∀ store (handle : Handle) kind, handle.kind? store = some kind →
      (ofHistory history).value.dispatchHandle run store handle = (do
        liftM (log (.projecting handle.static kind) : Logged Unit)
        (ofHistory history).value.dispatch run ((Projection.mk kind handle.target).subject store))) := by
  have ranks := ranks_ofHistory history
  refine ⟨?absent, ?due, ?rule, ?unfit, ?null, ?project⟩
  case absent => exact fun subject absent => dispatch_of_absent run absent
  case due => exact fun tree fit => ranks.exists_preferred fit
  case rule =>
    intro subject tree place pattern action present preferred
    exact ranks.dispatch_of_preferred run present preferred
  case unfit =>
    intro subject tree present unfit
    rw [← fallback_ofHistory]
    exact ranks.dispatch_of_unfit run present unfit
  case null => exact fun store handle absent => dispatchHandle_of_absent run absent
  case project => exact fun store handle kind known => dispatchHandle_of_kind? run known

private def recordLabel (label : String) (_ : Tree) : StateT (List String) Logged String := do
  modify (· ++ [label])
  return label

/-- Two rules of one rank and a wider one between them: the older of the two runs, once and alone. -/
theorem dispatch_ofHistory_tie :
    (((ofHistory [.rule (.mem .any) "first", .fallback "rest", .rule .any "wide",
      .rule (.mem .any) "second"]).value.dispatch recordLabel (.ofTree (.mem (.int 7)))).run.run []).value =
        (.ok "first", ["first"]) := by
  have preferred : Preferred (Registration.rules [.rule (.mem .any) "first", .fallback "rest",
      .rule .any "wide", .rule (.mem .any) "second"]) (.mem (.int 7)) 0 (.mem .any) "first" := by
    refine ⟨rfl, rfl, ?_⟩
    intro other entry there fit
    match other, there with
    | 0, there => exact .inr ⟨by cases there; rfl, Nat.le_refl 0⟩
    | 1, there => exact .inl (by cases there; decide)
    | 2, there => exact .inr ⟨by cases there; rfl, Nat.zero_le 2⟩
  obtain ⟨index, -, -, -, runs⟩ := (dispatch_ofHistory _ recordLabel).2.2.1
    (.ofTree (.mem (.int 7))) _ _ _ _ rfl preferred
  rw [runs]
  rfl

end RuleTable

end ShapeDispatch
