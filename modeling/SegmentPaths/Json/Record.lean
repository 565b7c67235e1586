/-
Decoding documents into records.  A record is given by its members under their
names, or as a list of them in order; members with unknown names are passed
over, and a known name may not come twice.
-/
import SegmentPaths.Json.Document

namespace SegmentPaths

/-- The two text formats that records are read from. -/
inductive Format
  | json
  | toml
deriving DecidableEq

/-- The members of a record that were given, under their names. -/
abbrev Record := List (String × Document)

namespace Document

/-- Whether every name is spelled out. -/
def namesSpelled (members : List (Option String × Document)) : Bool :=
  members.all (fun member => member.1.isSome)

/-- The values given under a name, in order. -/
def under (name : String) (members : List (Option String × Document)) : List Document :=
  (members.filter (fun member => member.1 == some name)).map Prod.snd

/-- The members with known names, if none of them comes twice. -/
def knownMembers? (members : List (Option String × Document)) :
    List String → Option Record
  | [] => some []
  | name :: names => do
    let rest ← knownMembers? members names
    match under name members with
    | [] => pure rest
    | [value] => pure ((name, value) :: rest)
    | _ :: _ :: _ => none

/-- Reads a document as a record with these names.  A list may end early; JSON
refuses one that is too long, and TOML passes over what is too much. -/
def record? (format : Format) (names : List String) : Document → Option Record
  | .object members => if namesSpelled members then knownMembers? members names else none
  | .array items =>
    if format = .json ∧ names.length < items.length then none else some (names.zip items)
  | _ => none

def text? : Document → Option String
  | .text value => some value
  | _ => none

/-- A 64-bit integer, written as one. -/
def int64? : Document → Option Int64
  | .number value => value.int64?
  | _ => none

def bool? : Document → Option Bool
  | .bool value => some value
  | _ => none

/-- All items of a list, each decoded. -/
def decodeAll? {A : Type} (decode : Document → Option A) : List Document → Option (List A)
  | [] => some []
  | item :: rest => do
    let item ← decode item
    let rest ← decodeAll? decode rest
    pure (item :: rest)

def list? {A : Type} (decode : Document → Option A) : Document → Option (List A)
  | .array items => decodeAll? decode items
  | _ => none

/-- A value that may be null. -/
def optional? {A : Type} (decode : Document → Option A) : Document → Option (Option A)
  | .null => some none
  | other => (decode other).map some

/-- Whether a document stands for nothing behind the name of a choice. -/
def isUnit : Format → Document → Bool
  | .json, .null => true
  | .toml, .array items => items.isEmpty
  | .toml, .object members => members.isEmpty
  | _, _ => false

/-- One of several names, alone or as the only member with nothing behind it. -/
def choice? {A : Type} (format : Format) (ofName? : String → Option A) : Document → Option A
  | .text name => ofName? name
  | .object [(some name, value)] => if isUnit format value then ofName? name else none
  | _ => none

end Document

namespace Record

/-- A member that has to be given. -/
def required? {A : Type} (record : Record) (name : String) (decode : Document → Option A) :
    Option A :=
  (record.lookup name).bind decode

/-- A member with a value for when it is not given. -/
def default? {A : Type} (record : Record) (name : String) (missing : A)
    (decode : Document → Option A) : Option A :=
  match record.lookup name with
  | none => some missing
  | some value => decode value

end Record

end SegmentPaths
