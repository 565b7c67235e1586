/-
Compiling a filter on a field, or on the items of an object, to the fragments of
all paths.
-/
import SegmentPaths.CustomObject.Metadata
import SegmentPaths.Path.Union

namespace SegmentPaths

/-- Whether every fragment gets a seed of its own. -/
inductive AliasScope
  | perFragment
  | shared
deriving DecidableEq, Inhabited

namespace AliasScope

def key : AliasScope → String
  | .perFragment => "per_fragment"
  | .shared => "shared"

def ofKey? (text : String) : Option AliasScope :=
  if text = "per_fragment" then some .perFragment
  else if text = "shared" then some .shared
  else none

/-- The seed of the fragment at an index; the first one keeps the seed it is
given. -/
def seedFor (scope : AliasScope) (seed : String) (index : Nat) : String :=
  match scope with
  | .perFragment => if 0 < index then seedName seed (Decimal.natText index) else seed
  | .shared => seed

end AliasScope

/-- A filter on the values of a field. -/
structure FieldFilter where
  field : Int64
  condition : Option ValueCondition
deriving DecidableEq

/-- A filter on the names of the items of an object. -/
structure ItemFilter where
  object : Int64
  name : Option ValueCondition
deriving DecidableEq

def FieldFilter.isNegative (filter : FieldFilter) : Bool :=
  filter.condition.any ValueCondition.isNegative

def ItemFilter.isNegative (filter : ItemFilter) : Bool :=
  filter.name.any ValueCondition.isNegative

/-- The characters a seed may start with. -/
def isSeedStart (c : Char) : Bool := c.isAlpha || c == '_'

def isSeedRest (c : Char) : Bool := c.isAlphanum || c == '_'

/-- An ASCII letter or underscore, and ASCII letters, digits and underscores
behind it. -/
def isSeed (seed : String) : Bool :=
  match seed.toList with
  | [] => false
  | first :: rest => isSeedStart first && rest.all isSeedRest

def checkSeed (seed : String) : Except QueryError Unit :=
  if isSeed seed then .ok () else .error (.invalidFilter (.seedNotName seed))

/-- A compiler for paths up to a depth. -/
structure PathCompiler where
  metadata : Metadata
  depth : DepthLimit
  scope : AliasScope

namespace PathCompiler

def paths (compiler : PathCompiler) : List RelationshipPath :=
  RelationshipPath.enumerate compiler.depth

/-- The fragment of a path, under a condition if there is one. -/
def fragment (compiler : PathCompiler) (source : PathSource)
    (condition : Option (ValueCondition × FieldType)) (seed : String)
    (path : RelationshipPath) : Except QueryError Fragment :=
  let built := Fragment.build compiler.metadata.tables path source seed
  match condition with
  | none => .ok built
  | some (condition, type) => built.applyCondition condition type

/-- The fragments of paths, with seeds counted from an index. -/
def fragments (compiler : PathCompiler) (source : PathSource)
    (condition : Option (ValueCondition × FieldType)) (seed : String) :
    Nat → List RelationshipPath → Except QueryError (List Fragment)
  | _, [] => .ok []
  | index, path :: rest => do
    let first ← compiler.fragment source condition (compiler.scope.seedFor seed index) path
    let others ← fragments compiler source condition seed (index + 1) rest
    pure (first :: others)

/-- The fragments of every path from a source. -/
def union (compiler : PathCompiler) (source : PathSource)
    (condition : Option (ValueCondition × FieldType)) (seed : String) :
    Except QueryError FragmentUnion :=
  (compiler.fragments source condition seed 0 compiler.paths).map FragmentUnion.mk

/-- The condition of a field, checked against its type. -/
def fieldCondition (condition : Option ValueCondition) (typeKey : String) :
    Except QueryError (Option (ValueCondition × FieldType)) :=
  match condition with
  | none => .ok none
  | some condition => do
    let type ← TableNames.fieldType typeKey
    condition.validate type
    pure (some (condition, type))

/-- The condition of an item name, which is a text. -/
def nameCondition (condition : Option ValueCondition) :
    Except QueryError (Option (ValueCondition × FieldType)) :=
  match condition with
  | none => .ok none
  | some condition => do
    condition.validate .text
    pure (some (condition, .text))

/-- Compiles a filter on a field. -/
def compileField (compiler : PathCompiler) (filter : FieldFilter) (seed : String) :
    Except QueryError FragmentUnion := do
  checkSeed seed
  let field ← compiler.metadata.field filter.field
  let table ← compiler.metadata.valueTable field.typeKey
  let condition ← fieldCondition filter.condition field.typeKey
  compiler.union (.fieldValue table field.id) condition seed

/-- Compiles a filter on the items of an object. -/
def compileItems (compiler : PathCompiler) (filter : ItemFilter) (seed : String) :
    Except QueryError FragmentUnion := do
  checkSeed seed
  let object ← compiler.metadata.object filter.object
  let condition ← nameCondition filter.name
  compiler.union (.objectItem object.id) condition seed

end PathCompiler

end SegmentPaths
