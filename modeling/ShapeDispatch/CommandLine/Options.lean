/-! The arguments of the program. A setting takes its value from the next argument, after an equals
sign, or, in short form, directly behind its letter; short flags may share one dash. The rule setting
goes on taking arguments until one starts with a dash, unless its value followed an equals sign.
After two dashes alone nothing more can be given.

Help and version are answered where they are met. Whether something was given too often, or without
any value, is settled when all arguments are read. -/

namespace ShapeDispatch.CommandLine

inductive Flag where
  | bare
  | dump
  | quiet
  | verbose
  deriving DecidableEq

inductive Setting where
  | rule
  | fallback
  deriving DecidableEq

inductive Meaning where
  | flag (flag : Flag)
  | setting (setting : Setting)
  | help
  | version
  deriving DecidableEq

namespace Meaning

def ofName? : List Char → Option Meaning
  | ['r', 'u', 'l', 'e'] => some (setting .rule)
  | ['f', 'a', 'l', 'l', 'b', 'a', 'c', 'k'] => some (setting .fallback)
  | ['b', 'a', 'r', 'e'] => some (flag .bare)
  | ['d', 'u', 'm', 'p'] => some (flag .dump)
  | ['h', 'e', 'l', 'p'] => some help
  | ['v', 'e', 'r', 's', 'i', 'o', 'n'] => some version
  | _ => none

def ofLetter? : Char → Option Meaning
  | 'r' => some (setting .rule)
  | 'f' => some (setting .fallback)
  | 'q' => some (flag .quiet)
  | 'v' => some (flag .verbose)
  | 'h' => some help
  | 'V' => some version
  | _ => none

end Meaning

inductive UsageError where
  | unknownName (name : String)
  | unexpectedArgument (argument : String)
  | missingValue (setting : Setting)
  | repeatedFlag (flag : Flag)
  | repeatedSetting (setting : Setting)
  deriving DecidableEq

def Flag.name : Flag → String
  | bare => "--bare"
  | dump => "--dump"
  | quiet => "-q"
  | verbose => "-v"

def Setting.name : Setting → String
  | rule => "--rule"
  | fallback => "--fallback"

def UsageError.message : UsageError → String
  | unknownName name => "unknown option '" ++ name ++ "'"
  | unexpectedArgument argument => "unexpected argument '" ++ argument ++ "'"
  | missingValue setting => setting.name ++ " requires a value"
  | repeatedFlag flag => flag.name ++ " cannot be used more than once"
  | repeatedSetting setting => setting.name ++ " cannot be used more than once"

/-- Why reading stops before all arguments are read. -/
inductive Stop where
  | help
  | version
  | misuse (error : UsageError)
  deriving DecidableEq

/-- What has been read so far: flags and settings as often as they were given, values in order, and
the setting that would take the next value. -/
structure Progress where
  flags : List Flag := []
  settings : List Setting := []
  values : List (Setting × String) := []
  awaiting : Option Setting := none
  ended : Bool := false
  deriving DecidableEq

namespace Progress

variable (progress : Progress)

def addFlag (flag : Flag) : Progress :=
  { progress with flags := flag :: progress.flags, awaiting := none }

def addSetting (setting : Setting) : Progress :=
  { progress with settings := setting :: progress.settings, awaiting := some setting }

/-- Only the rule setting takes a further value behind this one. -/
def addValue (setting : Setting) (value : List Char) : Progress :=
  { progress with
    values := progress.values ++ [(setting, String.ofList value)]
    awaiting := if setting = .rule then some .rule else none }

/-- The value after an equals sign, which is the last one; further such signs are dropped. -/
def addFinalValue (setting : Setting) (value : List Char) : Progress :=
  { progress.addValue setting (value.dropWhile (· = '=')) with awaiting := none }

def valuesOf (setting : Setting) : List String :=
  (progress.values.filter fun (owner, _) => owner = setting).map Prod.snd

/-- Reads a long name, with its value if there is an equals sign. A flag ignores such a value. -/
def readLong (body : List Char) : Except Stop Progress :=
  let name := body.takeWhile (· ≠ '=')
  match Meaning.ofName? name, body.dropWhile (· ≠ '=') with
  | none, _ => .error (.misuse (.unknownName (String.ofList name)))
  | some .help, _ => .error .help
  | some .version, _ => .error .version
  | some (.flag flag), _ => .ok (progress.addFlag flag)
  | some (.setting setting), [] => .ok (progress.addSetting setting)
  | some (.setting setting), _ :: value =>
    .ok ((progress.addSetting setting).addFinalValue setting value)

/-- Reads letters that share a dash. What stands behind the letter of a setting is its value. -/
def readLetters (progress : Progress) : List Char → Except Stop Progress
  | [] => .ok progress
  | letter :: others =>
    match Meaning.ofLetter? letter with
    | none => .error (.misuse (.unknownName (String.singleton letter)))
    | some .help => .error .help
    | some .version => .error .version
    | some (.flag flag) => readLetters (progress.addFlag flag) others
    | some (.setting setting) =>
      let given := progress.addSetting setting
      match others with
      | [] => .ok given
      | '=' :: value => .ok (given.addFinalValue setting value)
      | value => .ok (given.addValue setting value)

/-- A dash alone is a value like any other word. -/
def readWord (argument : List Char) : Except Stop Progress :=
  match progress.awaiting with
  | some setting => .ok (progress.addValue setting argument)
  | none => .error (.misuse (.unexpectedArgument (String.ofList argument)))

def readArgument (argument : List Char) : Except Stop Progress :=
  if progress.ended then .error (.misuse (.unexpectedArgument (String.ofList argument)))
  else if argument = ['-', '-'] then .ok { progress with ended := true }
  else
    match argument with
    | '-' :: '-' :: _ => progress.readLong (argument.dropWhile (· = '-'))
    | '-' :: letter :: others => progress.readLetters (letter :: others)
    | _ => progress.readWord argument

end Progress

structure Options where
  rules : Option (List String)
  fallback : Option String
  bare : Bool
  dump : Bool
  quiet : Bool
  verbosity : Nat
  deriving DecidableEq

namespace Options

/-- The first flag but the verbose one that was given more than once. -/
def repeatedFlag? (progress : Progress) : Option Flag :=
  [Flag.quiet, .bare, .dump].find? fun flag => 1 < progress.flags.count flag

/-- Settles what was given; the rule setting alone may come more than once. -/
def ofProgress (progress : Progress) : Except UsageError Options := do
  for setting in [Setting.rule, .fallback] do
    if setting ∈ progress.settings && (progress.valuesOf setting).isEmpty then
      throw (.missingValue setting)
  if 1 < progress.settings.count .fallback then throw (.repeatedSetting .fallback)
  if let some flag := repeatedFlag? progress then throw (.repeatedFlag flag)
  return {
    rules := if .rule ∈ progress.settings then some (progress.valuesOf .rule) else none
    fallback := (progress.valuesOf .fallback).head?
    bare := .bare ∈ progress.flags
    dump := .dump ∈ progress.flags
    quiet := .quiet ∈ progress.flags
    verbosity := progress.flags.count .verbose }

def read (arguments : List String) : Except Stop Options := do
  let progress ← arguments.foldlM
    (fun (progress : Progress) argument => progress.readArgument argument.toList) {}
  (ofProgress progress).mapError .misuse

end Options

end ShapeDispatch.CommandLine
