/-
TOML strings, numbers and dates.
-/
import SegmentPaths.Toml.Value

namespace SegmentPaths

namespace Toml

/-- The control characters that no string and no comment may hold. -/
def isControl (c : Char) : Bool := (c.toNat < 0x20 && c != '\t') || c.toNat == 0x7f

def isSpace (c : Char) : Bool := c == ' ' || c == '\t'

/-- The character with a code, if there is one. -/
def charOfCode? (code : Nat) : Option Char :=
  if code < 0xd800 ∨ (0xdfff < code ∧ code < 0x110000) then some (Char.ofNat code) else none

/-- The number of hexadecimal digits. -/
def hexNumber? (digits : List Char) : Option Nat :=
  digits.foldl (fun number digit => do
    let number ← number
    let value ← Document.hexValue? digit
    pure (number * 16 + value)) (some 0)

/-- The character of exactly so many hexadecimal digits, and the rest. -/
def hexChar? (count : Nat) (cs : List Char) : Option (Char × List Char) :=
  if (cs.take count).length = count then
    ((hexNumber? (cs.take count)).bind charOfCode?).map (fun c => (c, cs.drop count))
  else none

/-- The character of an escape behind its backslash, and the rest. -/
def escape? : List Char → Option (Char × List Char)
  | 'b' :: rest => some ('\x08', rest)
  | 't' :: rest => some ('\t', rest)
  | 'n' :: rest => some ('\n', rest)
  | 'f' :: rest => some ('\x0c', rest)
  | 'r' :: rest => some ('\r', rest)
  | 'e' :: rest => some ('\x1b', rest)
  | '"' :: rest => some ('"', rest)
  | '\\' :: rest => some ('\\', rest)
  | 'x' :: rest => hexChar? 2 rest
  | 'u' :: rest => hexChar? 4 rest
  | 'U' :: rest => hexChar? 8 rest
  | _ => none

/-- Reads a string on one line behind its opening quote, and the rest. -/
def basic? : Nat → List Char → Option (List Char × List Char)
  | 0, _ => none
  | _, [] => none
  | _, '"' :: rest => some ([], rest)
  | fuel + 1, '\\' :: rest => do
    let (c, rest) ← escape? rest
    let (found, rest) ← basic? fuel rest
    pure (c :: found, rest)
  | fuel + 1, c :: rest =>
    if isControl c then none
    else (basic? fuel rest).map (fun (found, rest) => (c :: found, rest))

/-- Reads a string without escapes on one line behind its opening quote, and the
rest. -/
def literal? : List Char → Option (List Char × List Char)
  | [] => none
  | '\'' :: rest => some ([], rest)
  | c :: rest =>
    if isControl c then none
    else (literal? rest).map (fun (found, rest) => (c :: found, rest))

/-- A text without the line break it starts with. -/
def skipFirstBreak : List Char → List Char
  | '\n' :: rest => rest
  | '\r' :: '\n' :: rest => rest
  | cs => cs

/-- The blanks and line breaks behind a backslash that ends a line, taken away. -/
def skipFolded : List Char → Option (List Char)
  | [] => some []
  | '\r' :: '\n' :: rest => skipFolded rest
  | '\r' :: _ => none
  | c :: rest => if c = '\n' ∨ isSpace c then skipFolded rest else some (c :: rest)

/-- Whether a backslash in front of a text ends its line. -/
def endsLine (cs : List Char) : Bool :=
  match cs.dropWhile isSpace with
  | '\n' :: _ => true
  | '\r' :: '\n' :: _ => true
  | _ => false

/-- The quotes at the end of a string of several lines: up to two more than the
three that close it belong to it. -/
def closing? (quote : Char) (cs : List Char) : Option (List Char × List Char) :=
  let found := (cs.takeWhile (· == quote)).length
  if found < 3 then none
  else
    let kept := min (found - 3) 2
    some (List.replicate kept quote, cs.drop (kept + 3))

/-- Reads a string of several lines behind its opening quotes, and the rest. -/
def multiline? (quote : Char) : Nat → List Char → Option (List Char × List Char)
  | 0, _ => none
  | _, [] => none
  | fuel + 1, c :: rest =>
    if c = quote then
      match closing? quote (c :: rest) with
      | some closed => some closed
      | none => (multiline? quote fuel rest).map (fun (found, rest) => (c :: found, rest))
    else if c = '\\' ∧ quote = '"' then
      if endsLine rest then do
        let rest ← skipFolded rest
        multiline? quote fuel rest
      else do
        let (c, rest) ← escape? rest
        let (found, rest) ← multiline? quote fuel rest
        pure (c :: found, rest)
    else if c = '\r' then
      match rest with
      | '\n' :: rest =>
        (multiline? quote fuel rest).map (fun (found, rest) => ('\r' :: '\n' :: found, rest))
      | _ => none
    else if c = '\n' ∨ isControl c = false then
      (multiline? quote fuel rest).map (fun (found, rest) => (c :: found, rest))
    else none

/-- Digits of a kind with single underscores between them, without the
underscores. -/
def separated? (isDigit : Char → Bool) : List Char → Option (List Char)
  | [] => none
  | [c] => if isDigit c then some [c] else none
  | c :: '_' :: rest =>
    if isDigit c then (separated? isDigit rest).map (c :: ·) else none
  | c :: next :: rest =>
    if isDigit c then (separated? isDigit (next :: rest)).map (c :: ·) else none

/-- Decimal digits without a leading zero. -/
def wholeDigits? (cs : List Char) : Option (List Char) := do
  let digits ← separated? Char.isDigit cs
  if 1 < digits.length ∧ digits.head? = some '0' then none else pure digits

/-- A number in a base, behind its mark. -/
def based? (base : Nat) (isDigit : Char → Bool) (cs : List Char) : Option Int :=
  (separated? isDigit cs).map (fun digits =>
    Int.ofNat (digits.foldl (fun number digit =>
      number * base + (Document.hexValue? digit).getD 0) 0))

def isHexDigit (c : Char) : Bool := (Document.hexValue? c).isSome

def integer? : List Char → Option Int
  | '0' :: 'x' :: rest => based? 16 isHexDigit rest
  | '0' :: 'o' :: rest => based? 8 (fun c => '0' ≤ c && c ≤ '7') rest
  | '0' :: 'b' :: rest => based? 2 (fun c => c == '0' || c == '1') rest
  | '+' :: rest => (wholeDigits? rest).map (fun digits => Int.ofNat (Nat.ofDigitChars 10 digits 0))
  | '-' :: rest =>
    (wholeDigits? rest).map (fun digits => -Int.ofNat (Nat.ofDigitChars 10 digits 0))
  | cs => (wholeDigits? cs).map (fun digits => Int.ofNat (Nat.ofDigitChars 10 digits 0))

/-- A text without a sign in front. -/
def unsigned : List Char → List Char
  | '+' :: rest => rest
  | '-' :: rest => rest
  | cs => cs

/-- A text before and behind the first character of a kind; the second part
starts with that character. -/
def splitAtChar (isMark : Char → Bool) (cs : List Char) : List Char × List Char :=
  (cs.takeWhile (fun c => !isMark c), cs.dropWhile (fun c => !isMark c))

def isFraction (cs : List Char) : Bool :=
  match cs with
  | '.' :: digits => (separated? Char.isDigit digits).isSome
  | _ => false

def isExponent (cs : List Char) : Bool :=
  match cs with
  | _ :: digits => (separated? Char.isDigit (unsigned digits)).isSome
  | [] => false

/-- Whether a text is a number with a fraction or an exponent, or none at all. -/
def isFractional (cs : List Char) : Bool :=
  let cs := unsigned cs
  if cs = ['i', 'n', 'f'] ∨ cs = ['n', 'a', 'n'] then true
  else
    let (front, exponent) := splitAtChar (fun c => c == 'e' || c == 'E') cs
    let (whole, fraction) := splitAtChar (· == '.') front
    (wholeDigits? whole).isSome &&
      (match fraction, exponent with
        | [], [] => false
        | [], _ => isExponent exponent
        | _, [] => isFraction fraction
        | _, _ => isFraction fraction && isExponent exponent)

/-- The number of exactly so many digits at the front of a text, and the rest. -/
def fixedDigits? (count : Nat) (cs : List Char) : Option (Nat × List Char) :=
  let digits := cs.take count
  if digits.length = count ∧ digits.all Char.isDigit = true then
    some (Nat.ofDigitChars 10 digits 0, cs.drop count)
  else none

/-- The number of days in a month. -/
def daysIn (year month : Nat) : Nat :=
  if month = 2 then
    if year % 4 = 0 ∧ (year % 100 ≠ 0 ∨ year % 400 = 0) then 29 else 28
  else if month = 4 ∨ month = 6 ∨ month = 9 ∨ month = 11 then 30
  else 31

/-- A date at the front of a text taken away. -/
def afterDate? (cs : List Char) : Option (List Char) := do
  let (year, cs) ← fixedDigits? 4 cs
  let (month, cs) ← match cs with
    | '-' :: cs => fixedDigits? 2 cs
    | _ => none
  let (day, cs) ← match cs with
    | '-' :: cs => fixedDigits? 2 cs
    | _ => none
  if 1 ≤ month ∧ month ≤ 12 ∧ 1 ≤ day ∧ day ≤ daysIn year month then pure cs else none

/-- The fraction of a second at the front of a text taken away. -/
def afterSubsecond? (cs : List Char) : Option (List Char) :=
  match cs with
  | '.' :: rest => if (rest.takeWhile Char.isDigit).isEmpty then none
    else some (rest.dropWhile Char.isDigit)
  | _ => some cs

/-- A time at the front of a text taken away; the seconds may be missing. -/
def afterTime? (cs : List Char) : Option (List Char) := do
  let (hour, cs) ← fixedDigits? 2 cs
  let (minute, cs) ← match cs with
    | ':' :: cs => fixedDigits? 2 cs
    | _ => none
  if 23 < hour ∨ 59 < minute then none
  else
    match cs with
    | ':' :: cs => do
      let (second, cs) ← fixedDigits? 2 cs
      if 60 < second then none else afterSubsecond? cs
    | _ => pure cs

/-- Whether a text is nothing or an offset from universal time. -/
def isOffset (cs : List Char) : Bool :=
  match cs with
  | [] => true
  | ['Z'] => true
  | ['z'] => true
  | sign :: rest =>
    if sign = '+' ∨ sign = '-' then
      match fixedDigits? 2 rest with
      | some (hour, ':' :: rest) =>
        match fixedDigits? 2 rest with
        | some (minute, []) => hour ≤ 23 && minute ≤ 59
        | _ => false
      | _ => false
    else false

/-- Whether a text is a date, a time, or both. -/
def isDatetime (cs : List Char) : Bool :=
  match afterDate? cs with
  | some [] => true
  | some (mark :: rest) =>
    if mark = 'T' ∨ mark = 't' ∨ mark = ' ' then
      match afterTime? rest with
      | some rest => isOffset rest
      | none => false
    else false
  | none => afterTime? cs == some []

/-- The value that a word without quotes means. -/
def word? (cs : List Char) : Option Toml :=
  if cs = ['t', 'r', 'u', 'e'] then some (.bool true)
  else if cs = ['f', 'a', 'l', 's', 'e'] then some (.bool false)
  else
    match integer? cs with
    | some value => some (.int value)
    | none =>
      if isFractional cs then some .fractional
      else if isDatetime cs then some .datetime
      else none

end Toml

end SegmentPaths
