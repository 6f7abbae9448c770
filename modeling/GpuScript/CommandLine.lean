import GpuScript.Json.Script

/-!
# Command line

The program reads scripts and prints a summary or the JSON value of each. Arguments are taken in
order; the first one that is refused, or that asks for the version, settles the run. Everything
that the program writes is computed from its arguments and the contents of the files.
-/

namespace GpuScript.CommandLine

/-- What the arguments ask for. -/
structure Options where
  /-- How many times more log records are asked for. -/
  verbosity : Nat
  /-- Text before the first section is passed over. -/
  lenient : Bool
  /-- The replacements in order. -/
  replacements : List Replacement
  /-- JSON is printed. -/
  json : Bool
  /-- Nothing but errors is printed. -/
  quiet : Bool
  /-- The names of the scripts in order. -/
  scripts : List String
  deriving DecidableEq

namespace Options

/-- What no arguments ask for. -/
def none : Options :=
  ⟨0, false, [], false, false, []⟩

/-- How scripts are read. -/
def config (options : Options) : Config :=
  ⟨Config.verbosityOfCount options.verbosity, !options.lenient⟩

end Options

/-- Why the arguments ask for no scripts to be read. -/
inductive Halt where
  /-- An argument is refused, or one is missing. -/
  | usage
  /-- The version is asked for. -/
  | version
  /-- A description of the arguments is asked for. -/
  | help
  deriving DecidableEq

/-- The switches, each with a long name and most with a letter. -/
inductive Switch where
  | verbose | lenient | json | quiet | version | help
  deriving DecidableEq

namespace Switch

/-- The switch with a long name. -/
def ofName? : String → Option Switch
  | "verbose" => some verbose
  | "lenient" => some lenient
  | "json" => some json
  | "quiet" => some quiet
  | "version" => some version
  | "help" => some help
  | _ => none

/-- The switch with a letter. -/
def ofLetter? : Char → Option Switch
  | 'v' => some verbose
  | 'q' => some quiet
  | 'V' => some version
  | 'h' => some help
  | _ => none

/-- The options with a switch. Only the verbosity can be asked for again. -/
def apply (options : Options) : Switch → Except Halt Options
  | verbose => .ok { options with verbosity := options.verbosity + 1 }
  | lenient => if options.lenient then .error .usage else .ok { options with lenient := true }
  | json => if options.json then .error .usage else .ok { options with json := true }
  | quiet => if options.quiet then .error .usage else .ok { options with quiet := true }
  | version => .error .version
  | help => .error .help

end Switch

/-- The options with a replacement that is written out. -/
def addReplacement (options : Options) (argument : String) : Except Halt Options :=
  match Replacement.parse? argument with
  | some replacement =>
    .ok { options with replacements := options.replacements ++ [replacement] }
  | .none => .error .usage

/-- The options with a script. -/
def addScript (options : Options) (name : String) : Except Halt Options :=
  if name.isEmpty then .error .usage
  else .ok { options with scripts := options.scripts ++ [name] }

/-- The options after some arguments, and what the next argument is. -/
inductive Step where
  /-- The next argument stands for itself. -/
  | done (options : Options)
  /-- The next argument is a replacement. -/
  | replacementNext (options : Options)
  /-- All arguments from now on are scripts. -/
  | scriptsOnly (options : Options)
  deriving DecidableEq

/-- Takes the letters of an argument with a single hyphen. After the letter of replacements, what is
left of the argument is the replacement, less an equals sign in front of it. -/
def takeLetters (options : Options) : List Char → Except Halt Step
  | [] => .ok (.done options)
  | 'D' :: [] => .ok (.replacementNext options)
  | 'D' :: '=' :: rest => (addReplacement options (String.ofList rest)).map .done
  | 'D' :: rest => (addReplacement options (String.ofList rest)).map .done
  | letter :: rest =>
    match Switch.ofLetter? letter with
    | .none => .error .usage
    | some switch =>
      match switch.apply options with
      | .ok options => takeLetters options rest
      | .error halt => .error halt

/-- Takes an argument with two hyphens, given without them. -/
def takeName (options : Options) (argument : List Char) : Except Halt Step :=
  let name := String.ofList (argument.takeWhile (· ≠ '='))
  match argument.dropWhile (· ≠ '=') with
  | [] =>
    if name = "replace" then .ok (.replacementNext options)
    else
      match Switch.ofName? name with
      | some switch => (switch.apply options).map .done
      | .none => .error .usage
  | _ :: value =>
    if name = "replace" then (addReplacement options (String.ofList value)).map .done
    else .error .usage

/-- The kinds of argument. -/
inductive ArgumentKind where
  /-- Two hyphens alone: only scripts follow. -/
  | terminator
  /-- Two hyphens and a name. -/
  | long (name : List Char)
  /-- A hyphen and letters. -/
  | short (letters : List Char)
  /-- Anything else, a hyphen alone included. -/
  | plain
  deriving DecidableEq

/-- The kind of an argument. -/
def ArgumentKind.of (argument : String) : ArgumentKind :=
  match argument.toList with
  | ['-', '-'] => .terminator
  | '-' :: '-' :: name => .long name
  | ['-'] => .plain
  | '-' :: letters => .short letters
  | _ => .plain

/-- Takes an argument of its own. -/
def takeArgument (options : Options) (argument : String) : Except Halt Step :=
  match ArgumentKind.of argument with
  | .terminator => .ok (.scriptsOnly options)
  | .long name => takeName options name
  | .short letters => takeLetters options letters
  | .plain => (addScript options argument).map .done

/-- Takes an argument that is a replacement. It may not look like a switch. -/
def takeReplacement (options : Options) (argument : String) : Except Halt Step :=
  match ArgumentKind.of argument with
  | .plain => (addReplacement options argument).map .done
  | _ => .error .usage

/-- Takes an argument after those before it. -/
def take (step : Step) (argument : String) : Except Halt Step :=
  match step with
  | .done options => takeArgument options argument
  | .replacementNext options => takeReplacement options argument
  | .scriptsOnly options => (addScript options argument).map .scriptsOnly

/-- The options after the last argument. -/
def Step.close : Step → Except Halt Options
  | done options => .ok options
  | replacementNext _ => .error .usage
  | scriptsOnly options => .ok options

/-- What the arguments ask for: at least one script, and JSON only without quiet. -/
def parse (arguments : List String) : Except Halt Options := do
  let step ← arguments.foldlM take (.done Options.none)
  let options ← step.close
  if options.scripts.isEmpty ∨ (options.json ∧ options.quiet) then .error .usage else .ok options

/-- What a run of the program writes and returns. -/
structure Output where
  /-- The exit status. -/
  status : UInt32
  /-- The text on the standard output. -/
  out : String
  /-- The text on the standard error. -/
  err : String
  deriving DecidableEq

/-- Lines as text. -/
def linesText (lines : List String) : String :=
  String.join (lines.map (· ++ "\n"))

/-- The text of an error of a script. An error that is not about a line names the file itself. -/
def errorLine (name : String) (error : ScriptError) : String :=
  match error.line? with
  | some _ => name ++ ": " ++ error.text
  | .none => error.text

/-- What is printed for a script that was read. -/
def report (options : Options) (script : Script) : List String :=
  if options.json then [script.toJson.text]
  else if options.quiet then []
  else script.name :: script.nodes.map fun node => "  " ++ node.summary

/-- What is written for one script, and whether it was read: the log and then the result. -/
def runScript (files : Files) (options : Options) (name : String) :
    Bool × List String × List String :=
  let (records, result) :=
    Script.load files options.config ⟨.file name, options.replacements⟩
  let log := Log.lines options.config.verbosity records
  match result with
  | .ok script => (true, report options script, log)
  | .error error => (false, [], log ++ [errorLine name error])

/-- The output of a run that reads scripts. -/
def runScripts (files : Files) (options : Options) : Output :=
  let results := options.scripts.map (runScript files options)
  { status := if results.all fun result => result.1 then 0 else 1
    out := linesText (results.flatMap fun result => result.2.1)
    err := linesText (results.flatMap fun result => result.2.2) }

/-- The line that the version is asked for with. -/
def versionText : String := "vkscript 0.1.0\n"

/-- A description of the arguments. -/
def usageText : String :=
  "Usage: vkscript [-v]... [--lenient] [-D TOK=REPL]... [--json | -q] SCRIPT...\n"

/-- The output of a run with arguments. -/
def run (files : Files) (arguments : List String) : Output :=
  match parse arguments with
  | .ok options => runScripts files options
  | .error .version => ⟨0, versionText, ""⟩
  | .error .help => ⟨0, usageText, ""⟩
  | .error .usage => ⟨2, "", usageText⟩

/-- The files that a run with arguments reads. -/
def requestedFiles (arguments : List String) : List String :=
  match parse arguments with
  | .ok options => options.scripts
  | .error _ => []

end GpuScript.CommandLine
