import Mathlib.Data.List.Forall2
import ShapeDispatch.CommandLine.Report
import ShapeDispatch.Proofs.LabelledAnswers
import ShapeDispatch.Proofs.StableOrder

/-! A run prints its whole transcript or nothing. The first rule text that cannot be read ends it,
whatever else was asked for. Only then does it matter whether the table is asked for, and only then
whether some tree of the demonstration has no rule. -/

namespace ShapeDispatch

open Logged

section

variable {α β γ ε : Type} {act : α → Except ε β} {items : List α} {results : List β}

theorem mapM_of_forall₂ (all : List.Forall₂ (fun item result => act item = .ok result) items results) :
    items.mapM act = .ok results := by
  induction all with
  | nil => rfl
  | cons works _ ih =>
    rw [List.mapM_cons, works, ih]
    rfl

theorem mapM_of_first {front back : List α} {item : α} {error : ε}
    (before : ∀ earlier ∈ front, ∃ result, act earlier = .ok result) (fails : act item = .error error) :
    (front ++ item :: back).mapM act = .error error := by
  induction front with
  | nil =>
    rw [List.nil_append, List.mapM_cons, fails]
    rfl
  | cons first front ih =>
    obtain ⟨⟨result, works⟩, later⟩ := List.forall_mem_cons.mp before
    rw [List.cons_append, List.mapM_cons, works, ih later]
    rfl

theorem mapM_eq_of_forall₂ {act' : γ → Except ε β} {items' : List γ}
    (same : List.Forall₂ (fun item item' => act item = act' item') items items') :
    items.mapM act = items'.mapM act' := by
  induction same with
  | nil => rfl
  | cons first _ ih => rw [List.mapM_cons, List.mapM_cons, first, ih]

theorem Logged.outcome_mapM (act : α → ExceptT ε Logged β) (items : List α) :
    outcome (items.mapM act) = items.mapM fun item => outcome (act item) := by
  induction items with
  | nil => rfl
  | cons item items ih =>
    simp only [List.mapM_cons, outcome_bind, ih, outcome_pure]
    rfl

end

namespace LabelledRule

variable {texts front back : List String} {rules : List LabelledRule} {text : String} {error : ParseError}

theorem parseFrom_of_forall₂ (index : Nat)
    (all : List.Forall₂ (fun text rule => parse text = .ok rule) texts rules) :
    parseFrom index texts = .ok rules := by
  induction all generalizing index with
  | nil => rfl
  | cons reads _ ih => simp only [parseFrom, reads, ih, Except.map]

theorem parseFrom_of_first (index : Nat) (before : ∀ earlier ∈ front, ∃ rule, parse earlier = .ok rule)
    (fails : parse text = .error error) :
    parseFrom index (front ++ text :: back) = .error ⟨index + front.length, text, error⟩ := by
  induction front generalizing index with
  | nil => simp only [List.nil_append, parseFrom, fails, List.length_nil, Nat.add_zero]
  | cons first front ih =>
    obtain ⟨⟨rule, reads⟩, later⟩ := List.forall_mem_cons.mp before
    simp only [List.cons_append, parseFrom, reads, ih _ later, Except.map, List.length_cons]
    rw [Nat.add_assoc, Nat.add_comm 1]

end LabelledRule

namespace Demo

def samples : List Tree :=
  [.mem (.int 42), .mem (.mem (.int 42)), .move (.int 21) (.mem (.mem (.int 42))),
    .move (.int 21) (.int 42), .int 42]

theorem shows_samples :
    List.Forall₂ (fun handle tree => handle.kind? store = some tree.kind ∧ handle.tree? store = some tree)
      handles samples :=
  .cons (by decide) <| .cons (by decide) <| .cons (by decide) <| .cons (by decide) <|
    .cons (by decide) .nil

theorem outcome_run (table : RuleTable String) : outcome (run table) = samples.mapM table.answerTo := by
  rw [run, outcome_mapM]
  refine mapM_eq_of_forall₂ (shows_samples.imp fun handle tree shown => ?_)
  exact table.outcome_dispatchHandle_of_shows shown.1 shown.2

end Demo

namespace CommandLine

namespace Options

variable {options : Options} {rules : List LabelledRule}

/-- The rules that the options stand for, when every given text can be read. -/
def Accepts (options : Options) (rules : List LabelledRule) : Prop :=
  match options.rules with
  | none => rules = Demo.defaultRules
  | some texts => List.Forall₂ (fun text rule => LabelledRule.parse text = .ok rule) texts rules

/-- How a run ends: what it prints, or why it fails. -/
inductive Ends (options : Options) : Except RunError String → Prop where
  | rejected {front back : List String} {text : String} {error : ParseError}
      (given : options.rules = some (front ++ text :: back))
      (before : ∀ earlier ∈ front, ∃ rule, LabelledRule.parse earlier = .ok rule)
      (fails : LabelledRule.parse text = .error error) :
      Ends options (.error (.rule ⟨front.length, text, error⟩))
  | dumped {rules : List LabelledRule} (accepts : options.Accepts rules) (dump : options.dump = true) :
      Ends options (.ok (String.join
        ((((LabelledRule.entries rules).map RuleTable.ruleOf).mergeSort Rule.mayPrecede).map
          RuleTable.ruleLine) ++ if options.bare then "" else RuleTable.fallbackLine))
  | unmatched {rules : List LabelledRule} {front back : List Tree} {tree : Tree}
      (accepts : options.Accepts rules) (noDump : options.dump = false) (bare : options.bare = true)
      (shown : Demo.samples = front ++ tree :: back)
      (before : ∀ earlier ∈ front, ∃ rule ∈ rules, rule.pattern.fits earlier = true)
      (unfit : ∀ rule ∈ rules, rule.pattern.fits tree = false) :
      Ends options (.error (.dispatch (.noMatch tree.kind)))
  | answered {rules : List LabelledRule} {lines : List String} (accepts : options.Accepts rules)
      (noDump : options.dump = false)
      (answers : List.Forall₂ (LabelledRule.Answers rules options.fallbackLabel) Demo.samples lines) :
      Ends options (.ok (String.join (lines.map (· ++ "\n"))))

theorem ruleList_of_accepts (accepts : options.Accepts rules) : options.ruleList = .ok rules := by
  unfold Accepts at accepts
  unfold ruleList
  cases given : options.rules with
  | none =>
    rw [given] at accepts
    exact congrArg Except.ok accepts.symm
  | some texts =>
    rw [given] at accepts
    exact LabelledRule.parseFrom_of_forall₂ 0 accepts

theorem ruleList_of_first {front back : List String} {text : String} {error : ParseError}
    (given : options.rules = some (front ++ text :: back))
    (before : ∀ earlier ∈ front, ∃ rule, LabelledRule.parse earlier = .ok rule)
    (fails : LabelledRule.parse text = .error error) :
    options.ruleList = .error ⟨front.length, text, error⟩ := by
  rw [ruleList, given, ← Nat.zero_add front.length]
  exact LabelledRule.parseFrom_of_first 0 before fails

theorem outcome_run_of_rejected {rejected : LabelledRule.Rejected}
    (unread : options.ruleList = .error rejected) : outcome options.run = .error (.rule rejected) := by
  rw [run, unread]
  rfl

theorem outcome_run_of_accepts (accepts : options.Accepts rules) :
    outcome options.run =
      (outcome (options.transcript (RuleTable.ofRules rules options.fallbackLabel).value)).mapError
        .dispatch := by
  rw [run, ruleList_of_accepts accepts]
  simp only [outcome_bind, outcome_ofExcept, Except.mapError]
  rfl

theorem outcome_transcript_of_noDump (noDump : options.dump = false) (table : RuleTable String) :
    outcome (options.transcript table) =
      (Demo.samples.mapM table.answerTo).map fun lines => String.join (lines.map (· ++ "\n")) := by
  rw [transcript, noDump]
  simp only [Bool.false_eq_true, if_false, outcome_bind, Demo.outcome_run, outcome_pure]
  cases Demo.samples.mapM table.answerTo <;> rfl

theorem isSome_fallbackLabel (options : Options) : options.fallbackLabel.isSome = !options.bare := by
  unfold fallbackLabel
  cases options.bare <;> rfl

theorem fallbackLabel_eq_none_iff : options.fallbackLabel = none ↔ options.bare = true := by
  rw [← Option.isNone_iff_eq_none, ← Option.not_isSome, isSome_fallbackLabel, Bool.not_not]

theorem dump_ofRules (options : Options) (rules : List LabelledRule) :
    (RuleTable.ofRules rules options.fallbackLabel).value.dump =
      String.join ((((LabelledRule.entries rules).map RuleTable.ruleOf).mergeSort Rule.mayPrecede).map
        RuleTable.ruleLine) ++ if options.bare then "" else RuleTable.fallbackLine := by
  have ranks := RuleTable.ranks_ofRules rules options.fallbackLabel
  rw [RuleTable.dump, ranks.rules_eq_mergeSort, RuleTable.hasFallback, RuleTable.fallback_ofRules,
    isSome_fallbackLabel]
  cases options.bare <;> rfl

theorem Ends.outcome_run {ending : Except RunError String} (ends : options.Ends ending) :
    outcome options.run = ending := by
  cases ends with
  | rejected given before fails => exact outcome_run_of_rejected (ruleList_of_first given before fails)
  | dumped accepts dump =>
    rw [outcome_run_of_accepts accepts, transcript, dump]
    exact congrArg Except.ok (dump_ofRules options _)
  | @unmatched rules front back tree accepts noDump bare shown before unfit =>
    have first : Demo.samples.mapM (RuleTable.ofRules rules none).value.answerTo =
        .error (.noMatch tree.kind) := by
      rw [shown]
      refine mapM_of_first (fun earlier among => ?_) (RuleTable.answerTo_ofRules_of_unmatched unfit)
      obtain ⟨line, answers⟩ := RuleTable.exists_answers_of_matched (before earlier among)
      exact ⟨line, RuleTable.answerTo_ofRules_of_answers answers⟩
    rw [outcome_run_of_accepts accepts, outcome_transcript_of_noDump noDump,
      fallbackLabel_eq_none_iff.mpr bare, first]
    rfl
  | answered accepts noDump answers =>
    have all := mapM_of_forall₂ (answers.imp fun _ _ => RuleTable.answerTo_ofRules_of_answers)
    rw [outcome_run_of_accepts accepts, outcome_transcript_of_noDump noDump, all]
    rfl

theorem Ends.unique {ending other : Except RunError String} (ends : options.Ends ending)
    (ends' : options.Ends other) : ending = other :=
  ends.outcome_run.symm.trans ends'.outcome_run

theorem Accepts.unique {rules' : List LabelledRule} (accepts : options.Accepts rules)
    (accepts' : options.Accepts rules') : rules = rules' :=
  Except.ok.inj ((ruleList_of_accepts accepts).symm.trans (ruleList_of_accepts accepts'))

end Options

end CommandLine

end ShapeDispatch
