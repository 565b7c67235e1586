/-
A machine that is described by a folder of files, with the variables of its
environment and the bytes of its standard input.
-/
import SegmentPaths.Host.Basic

namespace SegmentPaths

/-- Files by the names on the way to them. -/
abbrev Folder := List (List String × ByteArray)

namespace Folder

/-- Where a path leads: to a file, to a folder inside, or out of the folder,
where nothing but folders is known. -/
inductive Place
  | file (bytes : ByteArray)
  | folder (names : List String)
  | outside

/-- The names in a path. -/
def components (path : String) : List String := path.splitOn "/"

/-- Whether a name in a path leads nowhere else. -/
def isStay (name : String) : Bool := name == "" || name == "."

/-- Files by their paths. -/
def ofPaths (files : List (String × ByteArray)) : Folder :=
  files.map (fun (path, bytes) =>
    ((components path).filter (fun name => !isStay name), bytes))

/-- The place with these names on the way to it. -/
def place? (folder : Folder) (names : List String) : Option Place :=
  match folder.lookup names with
  | some bytes => some (.file bytes)
  | none => if folder.any (fun file => names.isPrefixOf file.1) then some (.folder names) else none

def notFound : FileFailure := .missing "No such file or directory (os error 2)"

/-- Follows one name of a path. -/
def follow (folder : Folder) : Place → String → Except FileFailure Place
  | .file _, _ => .error (.missing "Not a directory (os error 20)")
  | .outside, name => if isStay name || name == ".." then .ok .outside else .error notFound
  | .folder names, name =>
    if isStay name then .ok (.folder names)
    else if name = ".." then .ok (if names.isEmpty then .outside else .folder names.dropLast)
    else
      match folder.place? (names ++ [name]) with
      | some place => .ok place
      | none => .error notFound

/-- Follows the names of a path. -/
def followAll (folder : Folder) : Place → List String → Except FileFailure Place
  | place, [] => .ok place
  | place, name :: rest => do
    let place ← folder.follow place name
    followAll folder place rest

/-- The text at a path. -/
def read (folder : Folder) (path : String) : FileText := do
  if path.isEmpty then .error notFound
  let start := if path.startsWith "/" then Place.outside else .folder []
  match ← folder.followAll start (components path) with
  | .file bytes => FileText.ofBytes bytes
  | .folder _ | .outside => .error (.unreadable "Is a directory (os error 21)")

/-- The machine with these files, this environment and this input. -/
def host (folder : Folder) (environment : Environment) (input : ByteArray) : Host Id where
  file path := folder.read path
  input := FileText.ofBytes input
  setting name := environment name

end Folder

end SegmentPaths
