import CrawlGraph.Text.Digits

/-!
# Writing flat JSON objects

A row is an object whose values are texts and integers. It is written without white space, or over
several lines with two spaces for each level. Only the quote, the backslash and the control
characters are escaped.

1. Strings and numbers.
2. Rows, and lists of rows.
-/

namespace CrawlGraph.Json

open CrawlGraph.Text

/-- A value of a row. -/
inductive Atom where
  | text (s : String)
  | integer (n : Int)
  deriving DecidableEq, Repr

/-- The members of a flat object, in the order in which they are written. -/
abbrev Row := List (String × Atom)

/-! ## 1. Strings and numbers -/

/-- A character inside a string. -/
def escapedChar (c : Char) : List Char :=
  match c with
  | '"' => ['\\', '"']
  | '\\' => ['\\', '\\']
  | '\x08' => ['\\', 'b']
  | '\x0c' => ['\\', 'f']
  | '\n' => ['\\', 'n']
  | '\r' => ['\\', 'r']
  | '\t' => ['\\', 't']
  | c =>
    if c.toNat < 0x20 then ['\\', 'u', '0', '0', hexDigit (c.toNat / 16), hexDigit (c.toNat % 16)]
    else [c]

/-- A text inside a string. -/
def escaped (cs : List Char) : List Char := cs.flatMap escapedChar

/-- A text as a string. -/
def stringText (s : String) : List Char := '"' :: escaped s.toList ++ ['"']

/-- An integer as a numeral. -/
def integerText (n : Int) : List Char :=
  if n < 0 then '-' :: decimal n.natAbs else decimal n.natAbs

/-- A value of a row as JSON. -/
def Atom.json : Atom → List Char
  | .text s => stringText s
  | .integer n => integerText n

/-! ## 2. Rows -/

/-- A row without white space. -/
def compact (row : Row) : List Char :=
  '\x7b' :: [','].intercalate (row.map fun m => stringText m.1 ++ ':' :: m.2.json) ++ ['\x7d']

/-- The beginning of a line at a level. -/
def lineStart (level : Nat) : List Char := '\n' :: List.replicate (2 * level) ' '

/-- A row over several lines, when it stands at a level. -/
def prettyAt (level : Nat) (row : Row) : List Char :=
  '\x7b' :: [','].intercalate (row.map fun m =>
      lineStart (level + 1) ++ stringText m.1 ++ ':' :: ' ' :: m.2.json) ++
    lineStart level ++ ['\x7d']

/-- A row over several lines. -/
def pretty (row : Row) : List Char := prettyAt 0 row

/-- A list of rows over several lines. -/
def prettyList (rows : List Row) : List Char :=
  if rows.isEmpty then ['[', ']']
  else '[' :: [','].intercalate (rows.map fun r => lineStart 1 ++ prettyAt 1 r) ++
    lineStart 0 ++ [']']

end CrawlGraph.Json
