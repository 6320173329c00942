import PlcLint.Check.Plugin
import PlcLint.Glob
import PlcLint.Lint
import PlcLint.Settings.Document
import PlcLint.Source
import PlcLint.Text.Wrap

/-!
The command line: general options, a command, and its options. A run takes the files below the
working directory as a value, and gives them back with what it has stored.
-/

namespace PlcLint.Command

/-- An option that is followed by a value, or one that stands alone. -/
inductive Arity where
  | value
  | alone
  deriving DecidableEq

/-- The spellings of options, with what each stands for and whether a value follows. -/
abbrev Options := List (String × String × Arity)

/-- What an argument says about options. -/
inductive Reading where
  | complete (option : String) (value : String)
  | awaiting (option : String)
  | unknown

def isLong (arg : String) : Bool := "--".toList.isPrefixOf arg.toList

/-- A spelled-out option, with or without a value behind `=`. -/
def readLong (options : Options) (arg : String) : Reading :=
  let name := String.ofList (arg.toList.takeWhile (· != '='))
  let value := arg.toList.dropWhile (· != '=')
  match options.lookup name, value with
  | some (option, .value), [] => .awaiting option
  | some (option, .value), _ :: value => .complete option (String.ofList value)
  | some (option, .alone), [] => .complete option ""
  | _, _ => .unknown

/-- A single letter, with or without its value at once behind it. -/
def readShort (options : Options) (arg : String) : Reading :=
  let name := String.ofList (arg.toList.take 2)
  match options.lookup name, arg.toList.drop 2 with
  | some (option, .value), [] => .awaiting option
  | some (option, .value), value => .complete option (String.ofList value)
  | some (option, .alone), [] => .complete option ""
  | _, _ => .unknown

/-- The options in the arguments, in their order, and the other arguments. With `mixed` options
may follow other arguments. Nothing for options that are not known or lack their value. -/
def scan (options : Options) (mixed : Bool) :
    List String → Option (List (String × String) × List String)
  | [] => some ([], [])
  | [arg] =>
    if arg = "--" then some ([], [])
    else if arg.toList.head? == some '-' && decide (1 < arg.length) then
      match if isLong arg then readLong options arg else readShort options arg with
      | .complete option value => some ([(option, value)], [])
      | _ => none
    else some ([], [arg])
  | arg :: next :: rest =>
    if arg = "--" then some ([], next :: rest)
    else if arg.toList.head? == some '-' && decide (1 < arg.length) then
      match if isLong arg then readLong options arg else readShort options arg with
      | .complete option value => do
        let (found, others) ← scan options mixed (next :: rest)
        return ((option, value) :: found, others)
      | .awaiting option => do
        let (found, others) ← scan options mixed rest
        return ((option, next) :: found, others)
      | .unknown => none
    else if mixed then do
      let (found, others) ← scan options mixed (next :: rest)
      return (found, arg :: others)
    else some ([], arg :: next :: rest)

def valuesOf (found : List (String × String)) (option : String) : List String :=
  (found.filter (·.1 = option)).map Prod.snd

/-- The value of an option that counts once: the last. -/
def valueOf? (found : List (String × String)) (option : String) : Option String :=
  (valuesOf found option).getLast?

def generalOptions : Options :=
  [("-s", "settings", .value), ("--settings", "settings", .value), ("--plugin", "plugin", .value)]

def lintOptions : Options :=
  [("--use-cache", "use-cache", .alone), ("--no-cache", "no-cache", .alone),
    ("--cache-dir", "cache-dir", .value), ("-r", "root-dir", .value),
    ("--root-dir", "root-dir", .value), ("-e", "exclude", .value), ("--exclude", "exclude", .value),
    ("-p", "pattern", .value), ("--pattern", "pattern", .value)]

/-- General options, checked against the files: the settings are a file, and plug-ins exist. -/
structure General where
  settings : Option String := none
  plugins : List String := []

def general? (files : FileTree) (found : List (String × String)) : Option General :=
  let settings := valueOf? found "settings"
  let plugins := valuesOf found "plugin"
  if settings.all (fun path => path != "" && (files.file? path).isSome)
      && plugins.all (fun path => path != "" && files.has path) then
    some ⟨settings.map Path.normal, plugins⟩
  else none

structure LintOptions where
  cacheDirectory : Option String
  root : String
  excludes : List String
  patterns : List String

/-- Directories may be missing, but they are no files; a pattern has to be given. -/
def lintOptions? (files : FileTree) (args : List String) : Option LintOptions := do
  let (found, others) ← scan lintOptions true args
  let cache := (valueOf? found "cache-dir").getD ".catscan"
  let root := (valueOf? found "root-dir").getD "."
  let patterns := valuesOf found "pattern"
  let useCache := ((found.map Prod.fst).filter fun option =>
    option = "use-cache" || option = "no-cache").getLast? != some "no-cache"
  if !others.isEmpty || patterns.isEmpty || (files.file? cache).isSome
      || (files.file? root).isSome then none
  else some {
    cacheDirectory := if useCache then some cache else none
    root := Path.normal root
    excludes := valuesOf found "exclude"
    patterns := patterns }

inductive Outcome where
  /-- The arguments cannot be understood. -/
  | misused
  | failed (fault : Fault)
  | finished (exitCode : Nat) (output : String) (printed : List String)

/-- Files, notices and outcome after a run. -/
structure Run where
  files : FileTree
  notices : List Notice := []
  outcome : Outcome

/-- A check as the listing shows it: its code and name, and below them what it is about. -/
def listed (check : Check) : String :=
  let code := check.code ++ String.ofList (List.replicate (7 - check.code.length) ' ')
  code ++ " " ++ check.name ++ ":\n" ++ Text.wrap 96 12 8 check.doc ++ "\n"

def list (registry : Registry) : String := String.join (registry.checks.map listed)

/-- The files to lint, each once. They are a set: which order they are taken in is up to the
schedule of the run. -/
def selected (files : FileTree) (options : LintOptions) : List String :=
  let found := (options.patterns.flatMap fun pattern =>
    files.glob options.root pattern).map Path.normal
  found.eraseDups.filter fun path => !options.excludes.any fun exclude =>
    Text.wildcardMatch exclude path

section

variable {Item : Type} (parser : Parser Item) (schedule : Source.Schedule)

/-- Parses the selected files, puts the results together and lints them. -/
def lintFiles (registry : Registry) (settings : Settings) (files : FileTree)
    (options : LintOptions) : Run :=
  let paths := selected files options
  let loading : Notice := ⟨.info, "Loading " ++ toString paths.length
    ++ " source files based on " ++ toString options.patterns.length ++ " patterns and "
    ++ toString options.excludes.length ++ " exclude patterns"⟩
  let parsed := Source.parseTogether parser schedule options.cacheDirectory files paths
  let linting : Logged Report := do
    let found ← Logged.ofExcept parsed.outcome
    Logged.note .info "Summarizing..."
    let code ← Logged.ofExcept (parser.summarize found)
    Logged.note .info "Linting..."
    lint registry settings parsed.files code
  let (outcome, notices) := linting.outcome
  { files := parsed.files
    notices := loading :: parsed.notices ++ notices
    outcome := match outcome with
      | .ok report => .finished report.exitCode "" report.printed
      | .error fault => .failed fault }

end

/-- The plug-ins and the settings of a run. -/
def prepare (files : FileTree) (general : General) : Logged (Registry × Settings) := do
  let registry ← Plugin.load files Registry.builtin general.plugins
  match general.settings with
  | none => return (registry, {})
  | some path =>
    let text ← Logged.ofExcept (files.read path)
    return (registry, ← Logged.ofExcept (Settings.load text))

section

variable {Item : Type} (parser : Parser Item) (schedule : Source.Schedule)

/-- Runs a command with its own arguments. -/
def runCommand (files : FileTree) (registry : Registry) (settings : Settings) (name : String)
    (args : List String) : Run :=
  if name = "list" then
    match scan [] true args with
    | some ([], []) => { files := files, outcome := .finished 0 (list registry) [] }
    | _ => { files := files, outcome := .misused }
  else
    match lintOptions? files args with
    | some options => lintFiles parser schedule registry settings files options
    | none => { files := files, outcome := .misused }

/-- A whole run. Plug-ins and settings are loaded once the command is known, and before its
arguments are read. -/
def run (files : FileTree) (args : List String) : Run :=
  match scan generalOptions false args with
  | some (found, name :: rest) =>
    match general? files found, ["list", "lint"].contains name with
    | some general, true =>
      match (prepare files general).outcome with
      | (.ok (registry, settings), notices) =>
        let run := runCommand parser schedule files registry settings name rest
        { run with notices := notices ++ run.notices }
      | (.error fault, notices) => { files := files, notices := notices, outcome := .failed fault }
    | _, _ => { files := files, outcome := .misused }
  | _ => { files := files, outcome := .misused }

end

end PlcLint.Command
