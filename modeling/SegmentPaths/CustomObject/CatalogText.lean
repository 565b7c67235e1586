/-
Catalogs written in TOML, as one list of objects.
-/
import SegmentPaths.CustomObject.Catalog
import SegmentPaths.Host.Basic
import SegmentPaths.Toml.Reader

namespace SegmentPaths

/-- Why there is no catalog. -/
inductive CatalogError
  | missing (path : String)
  | unreadable (reason : String)
  | unparsed
  | problem (problem : CatalogProblem)
deriving DecidableEq

def CatalogError.message : CatalogError → String
  | .missing path => "Catalog file not found: " ++ path
  | .unreadable reason => "Failed to read catalog file: " ++ reason
  | .unparsed => "Failed to parse catalog file: no objects in TOML"
  | .problem found => found.message

namespace Catalog

/-- The objects that a document lists; none if it has no list. -/
def objectsOf? (document : Document) : Option (List CustomObject) := do
  let record ← document.record? .toml ["objects"]
  record.default? "objects" [] (Document.list? (CustomObject.ofDocument? .toml))

/-- Reads a catalog written in TOML. -/
def read (source : String) (tables : TableNames) : Except CatalogError Catalog :=
  match (Document.readToml? source).bind objectsOf? with
  | none => .error .unparsed
  | some objects => (Catalog.new objects tables).mapError CatalogError.problem

/-- The catalog that a file holds. -/
def ofText (tables : TableNames) (path : String) : FileText → Except CatalogError Catalog
  | .error (.missing _) => .error (.missing path)
  | .error (.unreadable reason) => .error (.unreadable reason)
  | .ok source => read source tables

def ofFile {m : Type → Type} [Monad m] (host : Host m) (tables : TableNames) (path : String) :
    m (Except CatalogError Catalog) := do
  pure (ofText tables path (← host.file path))

end Catalog

end SegmentPaths
