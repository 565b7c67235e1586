/-
The commands of the program with the values of their options.
-/
import SegmentPaths.CommandLine.Arguments
import SegmentPaths.Segment.Compile

namespace SegmentPaths

/-- Compile the filter in a file, or on standard input for a lone dash. -/
structure CompileCommand where
  filter : String
  catalog : Option String
  dialect : Option Dialect
  depth : Option Nat
  sharedAliases : Bool
  contact : Option Int64
  seed : String
  output : OutputFormat
deriving DecidableEq

inductive Command
  | compile (command : CompileCommand)
  | paths (depth : Option Nat)
  | check (catalog : Option String)
deriving DecidableEq

/-- A command with the settings file it is to use. -/
structure Invocation where
  config : Option String
  command : Command
deriving DecidableEq

namespace Command

def names : List String := ["compile", "paths", "check", "help"]

/-- What stands in front of the command. -/
def leadingForm : ArgumentForm := ⟨[.config, .help, .version], 0, names⟩

def compileForm : ArgumentForm :=
  ⟨[.config, .catalog, .dialect, .depth, .sharedAliases, .contact, .seed, .output, .help], 1, []⟩

def pathsForm : ArgumentForm := ⟨[.config, .depth, .help], 0, []⟩

def checkForm : ArgumentForm := ⟨[.config, .catalog, .help], 0, []⟩

/-- The value of an option as what it stands for. -/
def decoded? {A : Type} (given : Given) (name : CommandOption) (decode : String → Option A) :
    Option A :=
  (given.value? name).bind decode

/-- The command to compile, which needs one word: the filter. -/
def compile? (given : Given) : Option Command :=
  match given.words with
  | [filter] => some (.compile
      { filter := filter
        catalog := given.value? .catalog
        dialect := decoded? given .dialect Dialect.ofName?
        depth := decoded? given .depth CommandOption.depth?
        sharedAliases := (given.value? .sharedAliases).isSome
        contact := decoded? given .contact Decimal.read?
        seed := (given.value? .seed).getD CompileOptions.standard.seed
        output := (decoded? given .output OutputFormat.ofName?).getD .sql })
  | _ => none

/-- The command of a name, from what was given behind it. -/
def ofGiven? (name : String) (given : Given) : Option Command :=
  if name = "compile" then compile? given
  else if name = "paths" then some (.paths (decoded? given .depth CommandOption.depth?))
  else if name = "check" then some (.check (given.value? .catalog))
  else none

def form (name : String) : ArgumentForm :=
  if name = "compile" then compileForm else if name = "paths" then pathsForm else checkForm

/-- What a demand for help ends with: it names one command at most, and one that
there is. -/
def helpStop : List String → ArgumentStop
  | [] => .help
  | [topic] => if names.contains topic then .help else .refused
  | _ => .refused

end Command

/-- Reads a command line.  A settings file named behind the command wins over one
named in front of it. -/
def Invocation.read (arguments : List String) : Except ArgumentStop Invocation := do
  match ← Command.leadingForm.read .empty arguments with
  | (_, []) => .error .refused
  | (leading, name :: rest) =>
    if name = "help" then .error (Command.helpStop rest)
    else
      let (given, _) ← (Command.form name).read .empty rest
      match Command.ofGiven? name given with
      | none => .error .refused
      | some command =>
        pure ⟨(given.value? .config).orElse (fun _ => leading.value? .config), command⟩

end SegmentPaths
