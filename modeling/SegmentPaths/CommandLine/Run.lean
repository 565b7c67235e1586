/-
Running the commands: what the program prints and the code it ends with.
-/
import SegmentPaths.CommandLine.Command
import SegmentPaths.Settings.Load

namespace SegmentPaths

/-- The end of a run: the exit code and the texts of both output streams. -/
structure Outcome where
  code : Nat
  output : String
  errors : String
deriving DecidableEq

namespace Outcome

def printed (output : String) : Outcome := ⟨0, output, ""⟩

/-- A failure with one line on the error stream. -/
def failed (message : String) : Outcome := ⟨1, "", message ++ "\n"⟩

end Outcome

/-- Each line with its end. -/
def unlines (lines : List String) : String := String.join (lines.map (fun line => line ++ "\n"))

namespace CompiledFilter

/-- The lines in front of a statement: comments with all there is to know of it,
and a blank line. -/
def header (compiled : CompiledFilter) : List String :=
  ["-- Dialect: " ++ compiled.dialect.name,
   "-- Fragments: " ++ Decimal.natText compiled.fragments] ++
    (if compiled.negated then ["-- Negated: splice with NOT IN"] else []) ++
    compiled.params.toList.map (fun (name, value) => "-- :" ++ name ++ " = " ++ value.display) ++
    [""]

def json (compiled : CompiledFilter) : Json :=
  Json.ofMembers
    [("sql", .text compiled.sql), ("params", compiled.params.json),
     ("fragments", .ofNat compiled.fragments), ("negated", .bool compiled.negated)]

/-- A compiled filter in an output format. -/
def shown (compiled : CompiledFilter) : OutputFormat → String
  | .sql => unlines [compiled.sql]
  | .verbose => unlines (compiled.header ++ [compiled.sql])
  | .json => unlines [compiled.json.compact]

end CompiledFilter

def CompileError.message : CompileError → String
  | .unreadable => "Parse error: no filter in JSON"
  | .query error => error.message
  | .fault broken => broken.message

namespace RelationshipPath

/-- A number in at least three places. -/
def numberText (n : Nat) : String :=
  String.ofList (List.leftpad 3 ' ' (Nat.toDigits 10 n))

/-- The list of all paths up to a depth, under a headline. -/
def listing (limit : DepthLimit) : List String :=
  let paths := enumerate limit
  ("Depth limit " ++ Decimal.natText limit.depth ++ ": " ++ Decimal.natText paths.length ++
    " paths") ::
    paths.zipIdx.map (fun (path, index) => "  " ++ numberText index ++ ". " ++ path.display)

end RelationshipPath

namespace Catalog

/-- The fields whose values have no table. -/
def unusable (catalog : Catalog) : List (CustomField × QueryError) :=
  catalog.fields.filterMap (fun field =>
    match catalog.valueTable field.typeKey with
    | .ok _ => none
    | .error error => some (field, error))

/-- The outcome of checking a catalog: a line for each field that cannot be used,
or the numbers of objects and fields. -/
def checked (catalog : Catalog) : Outcome :=
  match catalog.unusable with
  | [] => .printed (unlines
      ["OK: " ++ Decimal.natText catalog.objects.length ++ " objects, " ++
        Decimal.natText catalog.fields.length ++ " fields"])
  | problems =>
    ⟨1, "", unlines (problems.map (fun (field, error) =>
      "  field " ++ Decimal.text field.id ++ " (" ++ field.aliasName ++ "): " ++ error.message))⟩

end Catalog

namespace Command

variable {m : Type → Type} [Monad m]

def configurationFailure (error : SettingsError) : Outcome :=
  .failed ("Configuration error: " ++ error.message)

/-- A depth limit given on the command line, or another one. -/
def depthOr (limit : DepthLimit) : Option Nat → Except Outcome DepthLimit
  | none => .ok limit
  | some depth =>
    match DepthLimit.new? depth with
    | some limit => .ok limit
    | none =>
      .error (.failed ("Depth must be between 1 and " ++ Decimal.natText greatestDepth))

/-- The options of a compilation: what the command line gives wins over the
settings. -/
def options (settings : Settings) (command : CompileCommand) : Except Outcome CompileOptions := do
  let depth ← depthOr settings.depth command.depth
  pure
    { dialect := command.dialect.getD settings.dialect
      depth := depth
      scope := if command.sharedAliases then .shared else settings.scope
      seed := command.seed
      restriction := match command.contact with
        | none => .allContacts
        | some id => .contact id }

/-- The catalog in a given file, or in the one that the settings name. -/
def catalog (host : Host m) (settings : Settings) (given : Option String) :
    m (Except Outcome Catalog) := do
  let path ← match given with
    | some path => pure (.ok (some path))
    | none => settings.catalogFile host
  match path with
  | .error error => pure (.error (configurationFailure error))
  | .ok none =>
    pure (.error (.failed "No catalog given: pass --catalog or set [catalog] path"))
  | .ok (some path) =>
    pure ((← Catalog.ofFile host settings.tables path).mapError (fun error =>
      .failed ("Error loading catalog '" ++ path ++ "': " ++ error.message)))

/-- The text of a stored filter. -/
def filterText (host : Host m) (path : String) : m FileText :=
  if path = "-" then host.input else host.file path

/-- Compiles a text and shows the result. -/
def compiled (catalog : Catalog) (options : CompileOptions) (output : OutputFormat)
    (source : String) : Outcome :=
  match compileFilterText source catalog.metadata options with
  | .ok compiled => .printed (compiled.shown output)
  | .error error => .failed ("Compilation error: " ++ error.message)

def runCompile (host : Host m) (settings : Settings) (command : CompileCommand) : m Outcome := do
  match options settings command with
  | .error outcome => pure outcome
  | .ok options =>
    match ← catalog host settings command.catalog with
    | .error outcome => pure outcome
    | .ok catalog =>
      match ← filterText host command.filter with
      | .error failure =>
        pure (.failed ("Error reading filter '" ++ command.filter ++ "': " ++ failure.reason))
      | .ok source => pure (compiled catalog options command.output source)

def runPaths (settings : Settings) (depth : Option Nat) : Outcome :=
  match depthOr settings.depth depth with
  | .error outcome => outcome
  | .ok limit => .printed (unlines (RelationshipPath.listing limit))

def runCheck (host : Host m) (settings : Settings) (given : Option String) : m Outcome := do
  match ← catalog host settings given with
  | .error outcome => pure outcome
  | .ok catalog => pure catalog.checked

def run (host : Host m) (settings : Settings) : Command → m Outcome
  | .compile command => runCompile host settings command
  | .paths depth => pure (runPaths settings depth)
  | .check given => runCheck host settings given

end Command

namespace Invocation

variable {m : Type → Type} [Monad m]

def usage : List String :=
  ["Usage: custom-objects [--config <file>] <command>",
   "",
   "  compile <filter.json> [--catalog <file>] [--dialect mysql|postgres|duckdb]",
   "          [--depth <n>] [--shared-aliases] [--contact <id>] [--alias <seed>]",
   "          [--output sql|verbose|json]",
   "  paths [--depth <n>]",
   "  check [--catalog <file>]"]

/-- The outcome of a command line that asks for no command. -/
def stopped : ArgumentStop → Outcome
  | .refused => ⟨2, "", unlines usage⟩
  | .help => .printed (unlines usage)
  | .version => .printed (unlines ["custom-objects 0.1.0"])

/-- Runs a command line. -/
def run (host : Host m) (arguments : List String) : m Outcome :=
  match read arguments with
  | .error stop => pure (stopped stop)
  | .ok invocation => do
    match ← Settings.ofPathOrLoad host invocation.config with
    | .error error => pure (Command.configurationFailure error)
    | .ok settings => invocation.command.run host settings

end Invocation

end SegmentPaths
