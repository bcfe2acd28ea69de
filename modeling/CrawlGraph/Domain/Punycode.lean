/-!
# Punycode

A label of a host name that holds characters outside ASCII travels as ASCII: first its ASCII
characters, then a hyphen if there are any, then a row of numbers that says where each other
character goes. The characters go in by rising code point. A number counts the states that an
enumeration of (code point, position) passes over before the next insertion.

1. Numbers as digits (`numeral`, `readNumeral?`): a digit ends the number when it is below a
   threshold, and the thresholds follow a bias that adapts to the numbers seen before.
2. `encode`.
3. `decode?`.

Main statement: `length_readNumeral?`, a number takes at least one digit, so decoding ends.
-/

namespace CrawlGraph.Domain.Punycode

/-! ## 1. Numbers as digits -/

/-- The digit of a value below 36: the letters, then the decimal digits. -/
def digit (n : Nat) : Char := Char.ofNat (if n < 26 then 97 + n else 22 + n)

/-- The value of a digit in either letter case. -/
def digitValue? (c : Char) : Option Nat :=
  let n := c.toNat
  if 97 ≤ n ∧ n ≤ 122 then some (n - 97)
  else if 65 ≤ n ∧ n ≤ 90 then some (n - 65)
  else if 48 ≤ n ∧ n ≤ 57 then some (n - 22)
  else none

/-- The threshold of the digit with place `k`; the places of a number rise in steps of 36. -/
def threshold (bias k : Nat) : Nat := max 1 (min 26 (k - bias))

theorem threshold_pos (bias k : Nat) : 1 ≤ threshold bias k := Nat.le_max_left _ _

theorem threshold_le (bias k : Nat) : threshold bias k ≤ 26 := by
  unfold threshold; omega

/-- The digits of a number from place `k` on. -/
def numeralFrom (bias k n : Nat) : List Char :=
  let t := threshold bias k
  if _h : n < t then [digit n]
  else digit (t + (n - t) % (36 - t)) :: numeralFrom bias (k + 36) ((n - t) / (36 - t))
termination_by n
decreasing_by
  have h1 := threshold_pos bias k
  have h2 := threshold_le bias k
  have h3 : (n - t) / (36 - t) ≤ n - t := Nat.div_le_self _ _
  simp only [t] at *
  omega

/-- The digits of a number. -/
def numeral (bias n : Nat) : List Char := numeralFrom bias 36 n

/-- Reads a number from place `k` on, where a digit weighs `weight`: gives the sum with `sum`, and
    the characters after the number. -/
def readFrom? (bias : Nat) : Nat → Nat → Nat → List Char → Option (Nat × List Char)
  | _, _, _, [] => none
  | k, weight, sum, c :: cs =>
    match digitValue? c with
    | none => none
    | some d =>
      let t := threshold bias k
      if d < t then some (sum + d * weight, cs)
      else readFrom? bias (k + 36) (weight * (36 - t)) (sum + d * weight) cs

/-- Reads a number. -/
def readNumeral? (bias : Nat) (cs : List Char) : Option (Nat × List Char) :=
  readFrom? bias 36 1 0 cs

theorem length_readFrom? {bias k weight sum n : Nat} {cs rest : List Char}
    (h : readFrom? bias k weight sum cs = some (n, rest)) : rest.length < cs.length := by
  induction cs generalizing k weight sum with
  | nil => simp [readFrom?] at h
  | cons c cs ih =>
    rw [readFrom?] at h
    split at h
    · simp at h
    · simp only at h
      split at h
      · simp only [Option.some.injEq, Prod.mk.injEq] at h
        simp [← h.2]
      · exact Nat.lt_succ_of_lt (ih h)

/-- **A number takes at least one digit.** -/
theorem length_readNumeral? {bias n : Nat} {cs rest : List Char}
    (h : readNumeral? bias cs = some (n, rest)) : rest.length < cs.length :=
  length_readFrom? h

/-- Divides by 35 while the number exceeds 455, counting 36 for each division. -/
def damp (n k : Nat) : Nat :=
  if 455 < n then damp (n / 35) (k + 36) else k + 36 * n / (n + 38)
termination_by n
decreasing_by omega

/-- The bias after a number that inserted a character into a text, which then has `size`
    characters; the first number is damped more strongly. -/
def adapt (n size : Nat) (isFirst : Bool) : Nat :=
  let n := if isFirst then n / 700 else n / 2
  damp (n + n / size) 0

/-- The bias before the first number. -/
def startBias : Nat := 72

/-! ## 2. Encoding -/

/-- Whether the character is ASCII. -/
def isAscii (c : Char) : Bool := c.toNat < 0x80

/-- The state between two insertions: the code point reached, the states passed over since the
    last insertion, the characters written so far, the bias, and the output. -/
structure Encoder where
  code : Nat
  passed : Nat
  written : Nat
  bias : Nat
  output : List Char

/-- Writes the number for one character of the label if it has the code point reached; a character
    with a lower one is passed over. -/
def Encoder.visit (basics : Nat) (e : Encoder) (c : Char) : Encoder :=
  if c.toNat < e.code then { e with passed := e.passed + 1 }
  else if c.toNat = e.code then
    { e with
      passed := 0
      written := e.written + 1
      bias := adapt e.passed (e.written + 1) (e.written == basics)
      output := e.output ++ numeral e.bias e.passed }
  else e

/-- Goes on to a code point of the label and visits all characters. -/
def Encoder.level (label : List Char) (basics : Nat) (e : Encoder) (code : Nat) : Encoder :=
  let e := { e with code, passed := e.passed + (code - e.code) * (e.written + 1) }
  let e := label.foldl (visit basics) e
  { e with code := e.code + 1, passed := e.passed + 1 }

/-- The code points of the label outside ASCII, rising and each once. -/
def levels (label : List Char) : List Nat :=
  (((label.filter fun c => !isAscii c).map Char.toNat).mergeSort (· ≤ ·)).eraseDups

/-- The Punycode form of a label, without the mark in front. -/
def encode (label : List Char) : List Char :=
  let basics := label.filter isAscii
  let start := if basics.isEmpty then [] else basics ++ ['-']
  ((levels label).foldl (Encoder.level label basics.length)
    ⟨0x80, 0, basics.length, startBias, start⟩).output

/-! ## 3. Decoding -/

/-- The character with a code point, unless it has none. -/
def charOf? (n : Nat) : Option Char :=
  if h : n.isValidChar then some (Char.ofNatAux n h) else none

/-- Carries out the insertions that the digits `cs` describe, from the state after code point
    `code` and position `place`. -/
def insertions (output : List Char) (code place bias : Nat) (cs : List Char) :
    Option (List Char) :=
  match _h : cs with
  | [] => some output
  | _ :: _ =>
    match _hn : readNumeral? bias cs with
    | none => none
    | some (n, rest) =>
      let size := output.length + 1
      let isFirst := place == 0
      let code := code + (place + n) / size
      let place := (place + n) % size
      match charOf? code with
      | none => none
      | some c =>
        insertions (output.take place ++ c :: output.drop place) code (place + 1)
          (adapt n size isFirst) rest
termination_by cs.length
decreasing_by
  have := length_readNumeral? _hn
  simp_all

/-- The part before the last hyphen and the part after it. A hyphen in front of everything parts
    nothing. -/
def splitLast (cs : List Char) : List Char × List Char :=
  match (cs.splitOn '-').reverse with
  | [] => ([], cs)
  | last :: init =>
    let basics := ['-'].intercalate init.reverse
    if basics.isEmpty then ([], cs) else (basics, last)

/-- The label of a Punycode form. -/
def decode? (cs : List Char) : Option (List Char) :=
  let (basics, digits) := splitLast cs
  if basics.all isAscii then insertions basics 0x80 0 startBias digits else none

end CrawlGraph.Domain.Punycode
