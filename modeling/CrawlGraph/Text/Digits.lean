/-!
# Digits

Decimal and hexadecimal digits over lists of characters.

* `decimal` and `decimalValue?` write and read natural numbers in base ten;
* `hexDigit`, `hexDigitUpper` and `hexValue?` write and read one hexadecimal digit, and
  `hexNumber?` reads a row of them.

Main statements: reading gives back what was written (`decimalValue?_decimal`,
`hexValue?_hexDigit`).
-/

namespace CrawlGraph.Text

/-! ## 1. Decimal numbers -/

/-- The decimal digits of a number, without leading zeros. -/
def decimal (n : Nat) : List Char := Nat.toDigits 10 n

/-- The number that a non-empty row of decimal digits stands for; leading zeros are allowed. -/
def decimalValue? (cs : List Char) : Option Nat :=
  if cs ≠ [] ∧ cs.all Char.isDigit then some (Nat.ofDigitChars 10 cs 0) else none

theorem decimal_ne_nil (n : Nat) : decimal n ≠ [] := by
  intro h
  have := @Nat.length_toDigits_pos 10 n
  simp_all [decimal]

theorem isDigit_of_mem_decimal {n : Nat} {c : Char} (h : c ∈ decimal n) : c.isDigit = true :=
  Nat.isDigit_of_mem_toDigits (by decide) (by decide) h

/-- **A written number reads back.** -/
theorem decimalValue?_decimal (n : Nat) : decimalValue? (decimal n) = some n := by
  have hall : (decimal n).all Char.isDigit = true :=
    List.all_eq_true.mpr fun _ h => isDigit_of_mem_decimal h
  simp only [decimalValue?, decimal_ne_nil, hall, ne_eq, not_false_eq_true, and_self, if_true]
  exact congrArg some (Nat.ofDigitChars_toDigits (by decide) (by decide))

/-! ## 2. Hexadecimal digits -/

/-- The hexadecimal digit of a number below sixteen, in lower case. -/
def hexDigit (n : Nat) : Char := Char.ofNat (if n < 10 then 48 + n else 87 + n)

/-- The hexadecimal digit of a number below sixteen, in upper case. -/
def hexDigitUpper (n : Nat) : Char := Char.ofNat (if n < 10 then 48 + n else 55 + n)

/-- The value of a hexadecimal digit of either letter case. -/
def hexValue? (c : Char) : Option Nat :=
  let n := c.toNat
  if 48 ≤ n ∧ n ≤ 57 then some (n - 48)
  else if 97 ≤ n ∧ n ≤ 102 then some (n - 87)
  else if 65 ≤ n ∧ n ≤ 70 then some (n - 55)
  else none

/-- Whether the character is a hexadecimal digit of either letter case. -/
def isHexDigit (c : Char) : Bool := (hexValue? c).isSome

/-- **A written hexadecimal digit reads back.** -/
theorem hexValue?_hexDigit : ∀ n < 16, hexValue? (hexDigit n) = some n := by decide

theorem hexValue?_lt {c : Char} {n : Nat} (h : hexValue? c = some n) : n < 16 := by
  simp only [hexValue?] at h
  repeat' split at h
  all_goals simp only [Option.some.injEq, reduceCtorEq] at h
  all_goals omega

/-- The number that a row of hexadecimal digits stands for, the first digit weighing most. -/
def hexNumber? (cs : List Char) : Option Nat :=
  cs.foldlM (fun n c => (hexValue? c).map (16 * n + ·)) 0

end CrawlGraph.Text
