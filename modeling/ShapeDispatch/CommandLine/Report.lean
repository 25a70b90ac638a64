import ShapeDispatch.CommandLine.Options
import ShapeDispatch.Demo
import ShapeDispatch.RuleTable.Dump
import ShapeDispatch.Text.Quoted

/-! What the program prints and how it ends. A run prints its whole transcript or nothing of it: the
first rule text that cannot be read ends it before anything is registered, and the first tree without
a rule ends it before any line is printed. -/

namespace ShapeDispatch.CommandLine

structure Report where
  code : Nat
  stdout : String
  stderr : List String
  deriving DecidableEq

inductive RunError where
  | rule (rejected : LabelledRule.Rejected)
  | dispatch (error : DispatchError)
  deriving DecidableEq

namespace RunError

/-- Where the run failed, with columns counted from one. -/
def context : RunError → String
  | rule rejected =>
    rejected.text ++ " (column " ++ toString (rejected.error.column rejected.text + 1) ++ ")"
  | dispatch _ => ""

def cause : RunError → String
  | rule rejected => "Parse(ParseError \x7b pos: " ++ toString rejected.error.unread ++ " \x7d)"
  | dispatch (.noMatch kind) => "Match(NoMatch(" ++ kind.name ++ "))"
  | dispatch (.reference error) => "Ref(" ++ error.text ++ ")"

def message (error : RunError) : String :=
  "Error: ProcessingError \x7b context: " ++ Text.quote error.context ++ ", typ: " ++ error.cause ++
    " \x7d"

end RunError

def usage : String :=
  "\n".intercalate
    ["tree_match 0.1",
      "Dispatches a set of sample trees through a rule table ordered by specificity",
      "",
      "USAGE:",
      "    tree-match [FLAGS] [OPTIONS]",
      "",
      "FLAGS:",
      "        --bare       Register no fallback rule",
      "        --dump       Print the rule table in dispatch order instead of dispatching",
      "    -q               Disables logging output",
      "    -v               Set verbosity level of logging",
      "    -h, --help       Prints help information",
      "    -V, --version    Prints version information",
      "",
      "OPTIONS:",
      "    -f, --fallback <FALLBACK>    Label printed by the fallback rule",
      "    -r, --rule <RULE>...         Rule written PATTERN=LABEL, e.g. 'Mem(Mem(_))=Mem of Mem!'." ++
        " Replaces the default rules",
      ""]

def version : String := "tree_match 0.1\n"

namespace Options

variable (options : Options)

def ruleList : Except LabelledRule.Rejected (List LabelledRule) :=
  match options.rules with
  | none => .ok Demo.defaultRules
  | some texts => LabelledRule.parseAll texts

/-- A bare run has no fallback, whatever label is given. -/
def fallbackLabel : Option String :=
  if options.bare then none else some (options.fallback.getD Demo.fallbackLabel)

/-- What a run prints: the table, or a line for each tree. -/
def transcript (table : RuleTable String) : ExceptT DispatchError Logged String := do
  if options.dump then
    return table.dump
  else
    return String.join ((← Demo.run table).map (· ++ "\n"))

def run : ExceptT RunError Logged String := do
  let rules ← MonadExcept.ofExcept (options.ruleList.mapError .rule)
  let table ← (RuleTable.ofRules rules options.fallbackLabel : Logged _)
  MonadExcept.ofExcept ((← (options.transcript table).run).mapError .dispatch)

def shows (event : Event) : Bool :=
  !options.quiet && event.level.verbosity ≤ options.verbosity

def logLine (event : Event) : String :=
  event.level.name ++ " - " ++ event.message

def report : Report :=
  let result := options.run.run
  let lines := (result.events.filter options.shows).map logLine
  match result.value with
  | .ok text => ⟨0, text, lines⟩
  | .error error => ⟨1, "", lines ++ [error.message]⟩

end Options

def respond (arguments : List String) : Except UsageError Report :=
  match Options.read arguments with
  | .ok options => .ok options.report
  | .error .help => .ok ⟨0, usage, []⟩
  | .error .version => .ok ⟨0, version, []⟩
  | .error (.misuse error) => .error error

end ShapeDispatch.CommandLine
