/-
The arguments of a command line: options by long or short name, with a value
behind the name, behind an equals sign or as the next argument, and words.
-/
import SegmentPaths.Path.Compiler

namespace SegmentPaths

inductive CommandOption
  | config
  | catalog
  | dialect
  | depth
  | sharedAliases
  | contact
  | seed
  | output
  | help
  | version
deriving DecidableEq

/-- What is done with the result of a compilation. -/
inductive OutputFormat
  | sql
  | verbose
  | json
deriving DecidableEq

def OutputFormat.ofName? (text : String) : Option OutputFormat :=
  if text = "sql" then some .sql
  else if text = "verbose" then some .verbose
  else if text = "json" then some .json
  else none

namespace CommandOption

def long : CommandOption → String
  | .config => "config"
  | .catalog => "catalog"
  | .dialect => "dialect"
  | .depth => "depth"
  | .sharedAliases => "shared-aliases"
  | .contact => "contact"
  | .seed => "alias"
  | .output => "output"
  | .help => "help"
  | .version => "version"

def short? : CommandOption → Option Char
  | .dialect => some 'd'
  | .output => some 'o'
  | .help => some 'h'
  | .version => some 'V'
  | _ => none

def takesValue : CommandOption → Bool
  | .sharedAliases | .help | .version => false
  | _ => true

/-- The number below `2 ^ 32` that a text spells. -/
def depth? (text : String) : Option Nat :=
  match Decimal.read? text with
  | some n => if 0 ≤ n.toInt ∧ n.toInt < 4294967296 then some n.toInt.toNat else none
  | none => none

/-- Whether a text is a value of the option. -/
def accepts : CommandOption → String → Bool
  | .config, value | .catalog, value => !value.isEmpty
  | .dialect, value => (Dialect.ofName? value).isSome
  | .depth, value => (depth? value).isSome
  | .contact, value => (Decimal.read? value).isSome
  | .output, value => (OutputFormat.ofName? value).isSome
  | .seed, _ => true
  | .sharedAliases, _ | .help, _ | .version, _ => false

end CommandOption

/-- What a part of the command line may hold: options, so many words, and the
commands that end it. -/
structure ArgumentForm where
  options : List CommandOption
  words : Nat
  commands : List String

/-- The options with their values, a flag with none, and the words that were
given. -/
structure Given where
  options : List (CommandOption × String)
  words : List String

/-- Why reading arguments stops early. -/
inductive ArgumentStop
  | refused
  | help
  | version
deriving DecidableEq

/-- An argument by its form. -/
inductive Argument
  | endOfOptions
  | long (name : String) (value : Option String)
  | short (name : Char) (value : Option String)
  | word (text : String)
deriving DecidableEq

namespace Argument

/-- Cuts a text at the first equals sign. -/
def cut (cs : List Char) : String × Option String :=
  match cs.dropWhile (fun c => c != '=') with
  | [] => (String.ofList cs, none)
  | _ :: value => (String.ofList (cs.takeWhile (fun c => c != '=')), some (String.ofList value))

/-- The value that follows a short name. -/
def attached : List Char → Option String
  | [] => none
  | '=' :: value => some (String.ofList value)
  | value => some (String.ofList value)

def ofText (text : String) : Argument :=
  match text.toList with
  | ['-', '-'] => .endOfOptions
  | '-' :: '-' :: rest => .long (cut rest).1 (cut rest).2
  | '-' :: name :: rest => .short name (attached rest)
  | _ => .word text

def isWord : Argument → Bool
  | .word _ => true
  | _ => false

end Argument

namespace Given

def empty : Given := ⟨[], []⟩

/-- The value of an option. -/
def value? (given : Given) (name : CommandOption) : Option String :=
  given.options.lookup name

/-- Adds an option with a value that it accepts, and only once. -/
def addOption (given : Given) (name : CommandOption) (value : String) :
    Except ArgumentStop Given :=
  if name.accepts value = true ∧ given.value? name = none then
    .ok { given with options := (name, value) :: given.options }
  else .error .refused

/-- Adds a flag, and only once; two flags end the reading. -/
def addFlag (given : Given) : CommandOption → Except ArgumentStop Given
  | .help => .error .help
  | .version => .error .version
  | name =>
    if given.value? name = none then .ok { given with options := (name, "") :: given.options }
    else .error .refused

/-- Adds words that are not empty, as long as there is room for them. -/
def addWords (given : Given) (form : ArgumentForm) (words : List String) :
    Except ArgumentStop Given :=
  if given.words.length + words.length ≤ form.words ∧ words.all (fun word => !word.isEmpty) = true
  then .ok { given with words := given.words ++ words }
  else .error .refused

end Given

namespace ArgumentForm

def optionLong? (form : ArgumentForm) (name : String) : Option CommandOption :=
  form.options.find? (fun option => option.long == name)

def optionShort? (form : ArgumentForm) (name : Char) : Option CommandOption :=
  form.options.find? (fun option => option.short? == some name)

/-- Reads arguments up to a command, with those from there on.  Behind the short
name of a flag the rest of its argument does not count, since such a flag ends
the reading. -/
def read (form : ArgumentForm) (given : Given) :
    List String → Except ArgumentStop (Given × List String)
  | [] => .ok (given, [])
  | text :: rest =>
    let named (name? : Option CommandOption) (value? : Option String) :
        Except ArgumentStop (Given × List String) :=
      match name?, value? with
      | none, _ => .error .refused
      | some name, some value =>
        if name.takesValue then do
          let given ← given.addOption name value
          read form given rest
        else .error .refused
      | some name, none =>
        if name.takesValue then
          match rest with
          | [] => .error .refused
          | value :: rest =>
            if (Argument.ofText value).isWord then do
              let given ← given.addOption name value
              read form given rest
            else .error .refused
        else do
          let given ← given.addFlag name
          read form given rest
    match Argument.ofText text with
    | .endOfOptions => do
      let given ← given.addWords form rest
      pure (given, [])
    | .long name value? => named (form.optionLong? name) value?
    | .short name value? =>
      let name? := form.optionShort? name
      named name? (if name?.any CommandOption.takesValue then value? else none)
    | .word word =>
      if form.commands.contains word then .ok (given, word :: rest)
      else do
        let given ← given.addWords form [word]
        read form given rest

end ArgumentForm

end SegmentPaths
