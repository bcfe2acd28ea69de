import CrawlGraph.Text.Bytes
import CrawlGraph.Text.Digits

/-!
# Percent encoding

A part of a URL is written in ASCII without the characters that would end it. Such a character is
written as the bytes of its UTF-8 form, each as a percent sign and two hexadecimal digits. Which
characters a part escapes is given as a predicate; all of them escape what is not ASCII.

1. The characters that the parts of a URL escape.
2. `percentEncode` and `percentDecode?`.

Main statements: what is written holds no character to escape where no percent sign is escaped
(`clean_percentEncode`), and a text without percent signs reads as itself
(`percentDecode?_of_notMem`).
-/

namespace CrawlGraph.Url

open CrawlGraph.Text

/-! ## 1. What is escaped -/

/-- Escaped everywhere: control characters and all that is not ASCII. -/
def escapedAlways (c : Char) : Bool := c.toNat < 0x20 || 0x7F ≤ c.toNat

/-- Escaped in a fragment. -/
def escapedInFragment (c : Char) : Bool := escapedAlways c || " \"<>\x60".toList.contains c

/-- Escaped in a query. -/
def escapedInQuery (c : Char) : Bool := escapedAlways c || " \"#<>'".toList.contains c

/-- Escaped in a path. -/
def escapedInPath (c : Char) : Bool := escapedInFragment c || "#?\x7b\x7d".toList.contains c

/-- Escaped in a user name and in a password. -/
def escapedInUserInfo (c : Char) : Bool := escapedInPath c || "/:;=@[\\]^|".toList.contains c

/-! ## 2. Writing and reading -/

/-- A byte as a percent sign and two digits. -/
def percentByte (b : UInt8) : List Char :=
  ['%', hexDigitUpper (b.toNat / 16), hexDigitUpper (b.toNat % 16)]

/-- A character in a part that escapes the given ones. -/
def percentEncodeChar (escaped : Char → Bool) (c : Char) : List Char :=
  if escaped c then (String.utf8EncodeChar c).flatMap percentByte else [c]

/-- A text in a part that escapes the given characters. -/
def percentEncode (escaped : Char → Bool) (cs : List Char) : List Char :=
  cs.flatMap (percentEncodeChar escaped)

/-- The bytes of a text in which a percent sign and two digits stand for one byte. -/
def percentBytes : List Char → List UInt8
  | '%' :: a :: b :: rest =>
    match hexValue? a, hexValue? b with
    | some x, some y => UInt8.ofNat (16 * x + y) :: percentBytes rest
    | _, _ => String.utf8EncodeChar '%' ++ percentBytes (a :: b :: rest)
  | c :: rest => String.utf8EncodeChar c ++ percentBytes rest
  | [] => []

/-- The text that a percent-encoded text stands for, if its bytes are one. -/
def percentDecode? (cs : List Char) : Option (List Char) :=
  if '%' ∈ cs then (Text.ofBytes? (percentBytes cs)).map String.toList else some cs

@[simp] theorem percentDecode?_of_notMem {cs : List Char} (h : '%' ∉ cs) :
    percentDecode? cs = some cs := if_neg h

/-- A text without characters to escape is written as it is. -/
theorem percentEncode_of_clean {escaped : Char → Bool} {cs : List Char}
    (h : ∀ c ∈ cs, escaped c = false) : percentEncode escaped cs = cs := by
  induction cs with
  | nil => rfl
  | cons c cs ih =>
    have hc : percentEncodeChar escaped c = [c] := by
      simp [percentEncodeChar, h c List.mem_cons_self]
    have hcs := ih fun d hd => h d (List.mem_cons_of_mem _ hd)
    simp only [percentEncode] at hcs
    simp [percentEncode, hc, hcs]

theorem escapedInUserInfo_hexDigitUpper :
    ∀ n < 16, escapedInUserInfo (hexDigitUpper n) = false := by decide

/-- **What is written holds no character to escape**, given that the percent sign and the
    hexadecimal digits are none. -/
theorem clean_percentEncode {escaped : Char → Bool} (hp : escaped '%' = false)
    (hd : ∀ n < 16, escaped (hexDigitUpper n) = false) (cs : List Char) :
    ∀ c ∈ percentEncode escaped cs, escaped c = false := by
  intro c hc
  obtain ⟨d, -, hc⟩ := List.mem_flatMap.mp hc
  unfold percentEncodeChar at hc
  split at hc
  · obtain ⟨b, -, hc⟩ := List.mem_flatMap.mp hc
    have hb : b.toNat < 256 := b.toNat_lt
    simp only [percentByte, List.mem_cons, List.not_mem_nil, or_false] at hc
    rcases hc with rfl | rfl | rfl
    · exact hp
    · exact hd _ (by omega)
    · exact hd _ (by omega)
  · rename_i h
    simp only [List.mem_singleton] at hc
    subst hc
    simpa using h

end CrawlGraph.Url
