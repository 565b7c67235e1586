/-
Texts with environment variables in them, as `$NAME` or `${NAME}`.  Such a text
is cut into parts first, from left to right; the values are put in afterwards
and are not looked at again.
-/
import SegmentPaths.Text.Alphanumeric

namespace SegmentPaths

/-- The values of environment variables, where they are set. -/
abbrev Environment := String → Option String

/-- A piece of a template: a character that stands for itself, or a variable. -/
inductive TemplatePart
  | char (c : Char)
  | variable (name : String)
deriving DecidableEq

/-- The name of the variable that a part stands for. -/
def TemplatePart.name? : TemplatePart → Option String
  | .char _ => none
  | .variable name => some name

namespace Template

/-- Where the reader of a template is: in plain text, behind a dollar sign, in a
name without braces, or in a name between braces. -/
inductive Position
  | plain
  | dollar
  | bare (name : List Char)
  | braced (name : List Char)
deriving DecidableEq

def isNameChar (c : Char) : Bool := isAlphanumeric c || c == '_'

/-- Reads a character that belongs to no name. -/
def plainStep (c : Char) : List TemplatePart × Position :=
  if c = '$' then ([], .dollar) else ([.char c], .plain)

/-- Reads one character: the parts that it completes, and the position behind
it.  A name without braces goes on as long as it can. -/
def step : Position → Char → List TemplatePart × Position
  | .plain, c => plainStep c
  | .dollar, c =>
    if c = '\x7b' then ([], .braced [])
    else if isNameChar c then ([], .bare [c])
    else (.char '$' :: (plainStep c).1, (plainStep c).2)
  | .bare name, c =>
    if isNameChar c then ([], .bare (name ++ [c]))
    else (.variable (String.ofList name) :: (plainStep c).1, (plainStep c).2)
  | .braced name, c =>
    if c = '\x7d' then ([.variable (String.ofList name)], .plain)
    else ([], .braced (name ++ [c]))

/-- The part that the end of the text completes.  A dollar sign with no name
stands for itself, and a brace need not be closed. -/
def finish : Position → List TemplatePart
  | .plain => []
  | .dollar => [.char '$']
  | .bare name => [.variable (String.ofList name)]
  | .braced name => [.variable (String.ofList name)]

/-- The parts of a text from a position on. -/
def partsFrom : Position → List Char → List TemplatePart
  | position, [] => finish position
  | position, c :: rest => (step position c).1 ++ partsFrom (step position c).2 rest

/-- The parts of a text. -/
def parts (source : String) : List TemplatePart := partsFrom .plain source.toList

/-- The text of parts with the values of their variables, or the first variable
that is not set. -/
def substitute (environment : Environment) : List TemplatePart → Except String (List Char)
  | [] => .ok []
  | .char c :: rest => (substitute environment rest).map (c :: ·)
  | .variable name :: rest =>
    match environment name with
    | none => .error name
    | some value => (substitute environment rest).map (value.toList ++ ·)

/-- A text with its variables replaced, or the leftmost variable that is not
set. -/
def expand (environment : Environment) (source : String) : Except String String :=
  (substitute environment (parts source)).map String.ofList

end Template

end SegmentPaths
