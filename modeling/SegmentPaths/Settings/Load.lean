/-
Finding settings and catalogs on a machine.
-/
import SegmentPaths.CustomObject.CatalogText
import SegmentPaths.Settings.Basic

namespace SegmentPaths

namespace Settings

variable {m : Type → Type} [Monad m]

/-- The settings that a file holds. -/
def ofText (path : String) : FileText → Except SettingsError Settings
  | .error (.missing _) => .error (.missing path)
  | .error (.unreadable reason) => .error (.unreadable reason)
  | .ok source => read source

def ofFile (host : Host m) (path : String) : m (Except SettingsError Settings) := do
  pure (ofText path (← host.file path))

/-- The settings of the first file that is there, or the standard ones. -/
def firstOf (host : Host m) : List String → m (Except SettingsError Settings)
  | [] => pure (.ok standard)
  | path :: rest => do
    match ← host.file path with
    | .error (.missing _) => firstOf host rest
    | found => pure (ofText path found)

/-- A path behind another one. -/
def joinPath (folder path : String) : String :=
  if folder.endsWith "/" then folder ++ path else folder ++ "/" ++ path

/-- The folder with the settings of the user: the one for settings, which has to
be given from the root, or else the usual one at home. -/
def userFolder? (configHome home : Option String) : Option String :=
  match configHome.filter (fun path => path.startsWith "/") with
  | some path => some path
  | none =>
    (home.filter (fun path => !path.isEmpty)).map (fun path => joinPath path ".config")

/-- The files that settings are looked for in. -/
def standardPaths (userFolder : Option String) : List String :=
  "custom-objects.toml" ::
    (userFolder.map (fun path => joinPath path "custom-objects/config.toml")).toList

/-- The settings of the machine: a file named in the environment comes first and
has to be there. -/
def load (host : Host m) : m (Except SettingsError Settings) := do
  match ← host.setting "CUSTOM_OBJECTS_CONFIG" with
  | some path => ofFile host path
  | none =>
    let configHome ← host.setting "XDG_CONFIG_HOME"
    let home ← host.setting "HOME"
    firstOf host (standardPaths (userFolder? configHome home))

/-- The settings in a given file, or those of the machine. -/
def ofPathOrLoad (host : Host m) : Option String → m (Except SettingsError Settings)
  | some path => ofFile host path
  | none => load host

/-- The path of the catalog on a machine. -/
def catalogFile (host : Host m) (settings : Settings) :
    m (Except SettingsError (Option String)) := do
  let environment ← host.environmentOf (settings.catalogPath.getD "")
  pure (settings.resolvedPath environment)

end Settings

end SegmentPaths
