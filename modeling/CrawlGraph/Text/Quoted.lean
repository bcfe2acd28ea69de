import CrawlGraph.Text.PrintableTable

/-!
# Quoted text in messages

A message that names a text which may hold anything puts it between double quotes and escapes
what would not show: the quote and the backslash, NUL, tab, line feed and carriage return by a
letter, and other hidden or attached characters by their code point in hexadecimal.
-/

namespace CrawlGraph.Text

/-- The hexadecimal digits of a number, without leading zeros. -/
def hexDigits (n : Nat) : List Char := Nat.toDigits 16 n

/-- Whether the character is written as it is inside quotes, the named escapes apart. -/
def isPrintable (c : Char) : Bool :=
  if c.toNat < 0x7F then 0x20 ≤ c.toNat else !attachedTable.contains c && !hiddenTable.contains c

/-- One character inside quotes. -/
def quoteChar (c : Char) : List Char :=
  match c with
  | '\x00' => ['\\', '0']
  | '\t' => ['\\', 't']
  | '\n' => ['\\', 'n']
  | '\r' => ['\\', 'r']
  | '"' => ['\\', '"']
  | '\\' => ['\\', '\\']
  | c => if isPrintable c then [c] else ['\\', 'u', '\x7b'] ++ hexDigits c.toNat ++ ['\x7d']

/-- The text in quotes, with escapes. -/
def quoted (s : String) : String :=
  String.ofList ('"' :: s.toList.flatMap quoteChar ++ ['"'])

end CrawlGraph.Text
