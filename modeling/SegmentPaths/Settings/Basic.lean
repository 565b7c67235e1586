/-
Settings of an installation: how deep paths go, the prefix of its tables, how
statements are written, and where its catalog is.
-/
import SegmentPaths.Segment.Compile
import SegmentPaths.Settings.Template
import SegmentPaths.Toml.Reader

namespace SegmentPaths

/-- Values that settings may not have. -/
inductive SettingsProblem
  | limitAbove (limit : Nat)
  | limitZero
  | tablePrefix (text : String)
deriving DecidableEq

/-- Why there are no settings. -/
inductive SettingsError
  | missing (path : String)
  | unreadable (reason : String)
  | unparsed
  | unsetVariable (name : String)
  | invalid (problem : SettingsProblem)
deriving DecidableEq

def SettingsProblem.message : SettingsProblem → String
  | .limitAbove limit =>
    "item_value_to_contact_relation_limit must be at most " ++ Decimal.natText greatestDepth ++
      ", got " ++ Decimal.natText limit
  | .limitZero => "item_value_to_contact_relation_limit must be at least 1"
  | .tablePrefix text =>
    "table_prefix '" ++ text ++ "' may only contain lowercase letters, digits and '_'"

def SettingsError.message : SettingsError → String
  | .missing path => "Config file not found: " ++ path
  | .unreadable reason => "Failed to read config file: " ++ reason
  | .unparsed => "Failed to parse config file: no settings in TOML"
  | .unsetVariable name => "Missing environment variable: " ++ name
  | .invalid problem => "Invalid configuration: " ++ problem.message

/-- The values of the section on custom objects, as they are written. -/
structure ObjectSection where
  enabled : Bool
  relationLimit : Nat
  tablePrefix : String
deriving DecidableEq

/-- The values of the section on SQL. -/
structure SqlSection where
  dialect : Dialect
  scope : AliasScope
deriving DecidableEq

/-- Settings whose depth limit is one, with the path of the catalog as it is
written. -/
structure Settings where
  enabled : Bool
  depth : DepthLimit
  tablePrefix : String
  dialect : Dialect
  scope : AliasScope
  catalogPath : Option String
deriving DecidableEq

namespace ObjectSection

def standard : ObjectSection := ⟨true, DepthLimit.standard.depth, ""⟩

/-- A number below `2 ^ 32`. -/
def limit? (document : Document) : Option Nat := do
  let value ← document.int64?
  if 0 ≤ value.toInt ∧ value.toInt < 4294967296 then some value.toInt.toNat else none

def ofDocument? (document : Document) : Option ObjectSection := do
  let record ← document.record? .toml
    ["enabled", "item_value_to_contact_relation_limit", "table_prefix"]
  let enabled ← record.default? "enabled" standard.enabled Document.bool?
  let relationLimit ←
    record.default? "item_value_to_contact_relation_limit" standard.relationLimit limit?
  let tablePrefix ← record.default? "table_prefix" standard.tablePrefix Document.text?
  pure ⟨enabled, relationLimit, tablePrefix⟩

def depth (values : ObjectSection) : Except SettingsProblem DepthLimit :=
  if greatestDepth < values.relationLimit then .error (.limitAbove values.relationLimit)
  else
    match DepthLimit.new? values.relationLimit with
    | some limit => .ok limit
    | none => .error .limitZero

end ObjectSection

namespace SqlSection

def standard : SqlSection := ⟨CompileOptions.standard.dialect, CompileOptions.standard.scope⟩

def ofDocument? (document : Document) : Option SqlSection := do
  let record ← document.record? .toml ["dialect", "alias_scope"]
  let dialect ← record.default? "dialect" standard.dialect
    (Document.choice? .toml Dialect.ofName?)
  let scope ← record.default? "alias_scope" standard.scope
    (Document.choice? .toml AliasScope.ofKey?)
  pure ⟨dialect, scope⟩

end SqlSection

namespace Settings

/-- The settings where none are given. -/
def standard : Settings :=
  { enabled := ObjectSection.standard.enabled
    depth := .standard
    tablePrefix := ObjectSection.standard.tablePrefix
    dialect := SqlSection.standard.dialect
    scope := SqlSection.standard.scope
    catalogPath := none }

/-- The path in the section on the catalog. -/
def path? (document : Document) : Option (Option String) := do
  let record ← document.record? .toml ["path"]
  record.default? "path" none (Document.optional? Document.text?)

def isPrefixChar (c : Char) : Bool := c.isLower || c.isDigit || c == '_'

/-- Settings made of sections: the depth limit is checked before the prefix. -/
def ofSections (objects : ObjectSection) (sql : SqlSection) (catalogPath : Option String) :
    Except SettingsProblem Settings := do
  let depth ← objects.depth
  if objects.tablePrefix.toList.all isPrefixChar = true then
    pure
      { enabled := objects.enabled
        depth := depth
        tablePrefix := objects.tablePrefix
        dialect := sql.dialect
        scope := sql.scope
        catalogPath := catalogPath }
  else .error (.tablePrefix objects.tablePrefix)

/-- The sections of settings; what is not given has its standard value. -/
def sections? (document : Document) :
    Option (ObjectSection × SqlSection × Option String) := do
  let record ← document.record? .toml ["custom_objects", "sql", "catalog"]
  let objects ← record.default? "custom_objects" .standard ObjectSection.ofDocument?
  let sql ← record.default? "sql" .standard SqlSection.ofDocument?
  let catalogPath ← record.default? "catalog" none path?
  pure (objects, sql, catalogPath)

/-- Reads settings written in TOML. -/
def read (source : String) : Except SettingsError Settings :=
  match (Document.readToml? source).bind sections? with
  | none => .error .unparsed
  | some (objects, sql, catalogPath) =>
    (ofSections objects sql catalogPath).mapError SettingsError.invalid

/-- The path of the catalog, with environment variables replaced. -/
def resolvedPath (settings : Settings) (environment : Environment) :
    Except SettingsError (Option String) :=
  match settings.catalogPath with
  | none => .ok none
  | some path =>
    ((Template.expand environment path).mapError SettingsError.unsetVariable).map some

/-- The table names of the installation. -/
def tables (settings : Settings) : TableNames := ⟨settings.tablePrefix⟩

/-- The options that settings stand for. -/
def options (settings : Settings) : CompileOptions :=
  { CompileOptions.standard with
    dialect := settings.dialect, depth := settings.depth, scope := settings.scope }

/-- The settings as a record of sections. -/
def json (settings : Settings) : Json :=
  Json.ofMembers
    [("catalog", Json.ofMembers
       [("path", match settings.catalogPath with
         | none => .null
         | some path => .text path)]),
     ("custom_objects", Json.ofMembers
       [("enabled", .bool settings.enabled),
        ("item_value_to_contact_relation_limit", .ofNat settings.depth.depth),
        ("table_prefix", .text settings.tablePrefix)]),
     ("sql", Json.ofMembers
       [("alias_scope", .text settings.scope.key), ("dialect", .text settings.dialect.name)])]

end Settings

end SegmentPaths
