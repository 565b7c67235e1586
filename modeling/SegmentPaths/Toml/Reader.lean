/-
Reading TOML 1.1 texts.
-/
import SegmentPaths.Toml.Scalar

namespace SegmentPaths

namespace Toml

def skipSpaces (cs : List Char) : List Char := cs.dropWhile isSpace

/-- The rest of a line behind the mark of a comment taken away, up to the line
break. -/
def afterComment? : List Char → Option (List Char)
  | [] => some []
  | '\n' :: rest => some ('\n' :: rest)
  | '\r' :: '\n' :: rest => some ('\r' :: '\n' :: rest)
  | c :: rest => if isControl c then none else afterComment? rest

/-- Blanks, line breaks and comments taken away. -/
def skipLines? : Nat → List Char → Option (List Char)
  | 0, _ => none
  | fuel + 1, cs =>
    match skipSpaces cs with
    | '\n' :: rest => skipLines? fuel rest
    | '\r' :: '\n' :: rest => skipLines? fuel rest
    | '#' :: rest => (afterComment? rest).bind (skipLines? fuel)
    | rest => some rest

/-- The end of a line taken away, with a comment in front of it. -/
def afterLine? (cs : List Char) : Option (List Char) := do
  let cs ← match skipSpaces cs with
    | '#' :: rest => afterComment? rest
    | rest => some rest
  match cs with
  | [] => pure []
  | '\n' :: rest => pure rest
  | '\r' :: '\n' :: rest => pure rest
  | _ => none

def isBareKeyChar (c : Char) : Bool := c.isAlphanum || c == '_' || c == '-'

/-- Reads a key without dots, and the rest. -/
def simpleKey? (cs : List Char) : Option (String × List Char) :=
  match cs with
  | '"' :: rest =>
    (basic? (rest.length + 1) rest).map (fun (found, rest) => (String.ofList found, rest))
  | '\'' :: rest => (literal? rest).map (fun (found, rest) => (String.ofList found, rest))
  | _ =>
    match cs.takeWhile isBareKeyChar with
    | [] => none
    | key => some (String.ofList key, cs.dropWhile isBareKeyChar)

/-- Reads a key with its dots: the keys in front of the last one, the last one,
and the rest. -/
def key? : Nat → List Char → Option (List String × String × List Char)
  | 0, _ => none
  | fuel + 1, cs => do
    let (key, rest) ← simpleKey? (skipSpaces cs)
    match skipSpaces rest with
    | '.' :: rest =>
      let (path, last, rest) ← key? fuel rest
      pure (key :: path, last, rest)
    | rest => pure ([], key, rest)

/-- The characters that end a word without quotes. -/
def isWordEnd (c : Char) : Bool :=
  c == ' ' || c == '\t' || c == '\n' || c == '\r' || c == ',' || c == ']' || c == '\x7d' ||
    c == '#'

/-- Reads a word without quotes, and the rest; a date and the time behind one
blank are one word. -/
def readWord? (cs : List Char) : Option (Toml × List Char) :=
  let isInside (c : Char) := !isWordEnd c
  let first := cs.takeWhile isInside
  let rest := cs.dropWhile isInside
  let alone := (word? first).map (fun value => (value, rest))
  match afterDate? first, rest with
  | some [], ' ' :: second =>
    match second with
    | c :: _ =>
      if c.isDigit then
        (word? (first ++ ' ' :: second.takeWhile isInside)).map
          (fun value => (value, second.dropWhile isInside))
      else alone
    | [] => alone
  | _, _ => alone

/-- Reads a string behind its first quote, and the rest. -/
def readText? (quote : Char) (cs : List Char) : Option (Toml × List Char) :=
  let found :=
    match cs with
    | a :: b :: rest =>
      if a = quote ∧ b = quote then
        let rest := skipFirstBreak rest
        multiline? quote (rest.length + 1) rest
      else if quote = '"' then basic? (cs.length + 1) cs
      else literal? cs
    | _ => if quote = '"' then basic? (cs.length + 1) cs else literal? cs
  found.map (fun (chars, rest) => (.text (String.ofList chars), rest))

/-- How many brackets a value may nest. -/
def greatestNesting : Nat := 80

mutual

/-- Reads a value that nests at most so deep, and the rest.  The fuel bounds the
recursion. -/
def readValue? : Nat → Nat → List Char → Option (Toml × List Char)
  | 0, _, _ => none
  | fuel + 1, room, cs =>
    match cs, room with
    | '"' :: rest, _ => readText? '"' rest
    | '\'' :: rest, _ => readText? '\'' rest
    | '[' :: rest, room + 1 =>
      (readItems? fuel room rest).map (fun (items, rest) => (.array items, rest))
    | '\x7b' :: rest, room + 1 =>
      (readMembers? fuel room [] rest).map (fun (members, rest) => (.table .inline members, rest))
    | _, _ => readWord? cs

/-- Reads the items of a list up to its closing bracket. -/
def readItems? : Nat → Nat → List Char → Option (List Toml × List Char)
  | 0, _, _ => none
  | fuel + 1, room, cs => do
    match ← skipLines? (cs.length + 1) cs with
    | ']' :: rest => pure ([], rest)
    | cs =>
      let (item, rest) ← readValue? fuel room cs
      match ← skipLines? (rest.length + 1) rest with
      | ',' :: rest =>
        let (items, rest) ← readItems? fuel room rest
        pure (item :: items, rest)
      | ']' :: rest => pure ([item], rest)
      | _ => none

/-- Reads the members of an inline table up to its closing brace. -/
def readMembers? : Nat → Nat → Members → List Char → Option (Members × List Char)
  | 0, _, _, _ => none
  | fuel + 1, room, members, cs => do
    match ← skipLines? (cs.length + 1) cs with
    | '\x7d' :: rest => pure (members, rest)
    | cs =>
      let (path, key, rest) ← key? (cs.length + 1) cs
      match rest with
      | '=' :: rest =>
        let rest ← skipLines? (rest.length + 1) rest
        let (value, rest) ← readValue? fuel room rest
        let (_, members) ← addValue path key value .inline members
        match ← skipLines? (rest.length + 1) rest with
        | ',' :: rest => readMembers? fuel room members rest
        | '\x7d' :: rest => pure (members, rest)
        | _ => none
      | _ => none

end

/-- The tables so far, and the path to the one that is being filled. -/
structure Filling where
  root : Members
  current : List String

/-- Changes a table of those so far. -/
def Filling.edit (filling : Filling) (path : List String)
    (change : TableKind → Members → Option (TableKind × Members)) : Option Members :=
  (editAt false change path .header filling.root).map Prod.snd

/-- Reads one line that is not blank, and the lines its value takes. -/
def line? (filling : Filling) (cs : List Char) : Option (Filling × List Char) :=
  match cs with
  | '[' :: '[' :: rest => do
    let (path, key, rest) ← key? (rest.length + 1) rest
    match rest with
    | ']' :: ']' :: rest =>
      let root ← filling.edit path (openListed key)
      pure (⟨root, path ++ [key]⟩, rest)
    | _ => none
  | '[' :: rest => do
    let (path, key, rest) ← key? (rest.length + 1) rest
    match rest with
    | ']' :: rest =>
      let root ← filling.edit path (openTable key)
      pure (⟨root, path ++ [key]⟩, rest)
    | _ => none
  | _ => do
    let (path, key, rest) ← key? (cs.length + 1) cs
    match rest with
    | '=' :: rest =>
      let (value, rest) ← readValue? (rest.length + 1) greatestNesting (skipSpaces rest)
      let root ← filling.edit filling.current (addValue path key value)
      pure ({ filling with root := root }, rest)
    | _ => none

/-- Reads lines to the end of the text. -/
def lines? : Nat → Filling → List Char → Option Members
  | 0, _, _ => none
  | fuel + 1, filling, cs =>
    match skipSpaces cs with
    | [] => some filling.root
    | '\n' :: rest => lines? fuel filling rest
    | '\r' :: '\n' :: rest => lines? fuel filling rest
    | '#' :: rest => (afterLine? ('#' :: rest)).bind (lines? fuel filling)
    | cs => do
      let (filling, rest) ← line? filling cs
      let rest ← afterLine? rest
      lines? fuel filling rest

/-- Reads a whole text, behind a byte order mark if there is one. -/
def read? (source : String) : Option Toml :=
  let cs := match source.toList with
    | '\ufeff' :: rest => rest
    | cs => cs
  (lines? (cs.length + 1) ⟨[], []⟩ cs).map (Toml.table .header)

end Toml

/-- The document that a TOML text means. -/
def Document.readToml? (source : String) : Option Document :=
  (Toml.read? source).map Toml.document

end SegmentPaths
