/-!
# The bytes of a text

Texts are kept as bytes, in the encoding UTF-8; but not all bytes are those of a text.

1. `bytes` and `ofBytes?`, there and back.
2. `fault?`, where bytes that are no text go wrong.
-/

namespace CrawlGraph.Text

/-! ## 1. Texts as bytes -/

/-- The bytes of a text. -/
def bytes (s : String) : List UInt8 := s.toUTF8.data.toList

/-- The text with the given bytes, if there is one. -/
def ofBytes? (bytes : List UInt8) : Option String := String.fromUTF8? ⟨bytes.toArray⟩

/-- **A text is read back from its bytes.** -/
@[simp] theorem ofBytes?_bytes (s : String) : ofBytes? (bytes s) = some s := by
  rw [ofBytes?, bytes, Array.toArray_toList]
  exact dif_pos (String.isValidUTF8 s)

theorem bytes_injective : Function.Injective bytes := by
  intro s t h
  have read : ofBytes? (bytes s) = ofBytes? (bytes t) := congrArg ofBytes? h
  rwa [ofBytes?_bytes, ofBytes?_bytes, Option.some.injEq] at read

/-- Bytes are read as the one text that has them. -/
theorem ofBytes?_eq_some_iff {bs : List UInt8} {s : String} :
    ofBytes? bs = some s ↔ bs = bytes s := by
  constructor
  · intro h
    obtain ⟨valid, h⟩ := Option.dite_none_right_eq_some.mp h
    cases h
    rfl
  · rintro rfl
    exact ofBytes?_bytes s

/-! ## 2. Bytes that are no text -/

/-- Where bytes that are no text go wrong: at which byte, and how many bytes belong together there;
    no number if the bytes end too early. -/
structure ByteFault where
  start : Nat
  size : Option Nat
  deriving DecidableEq, Repr

/-- The wording of a fault. -/
def ByteFault.message (f : ByteFault) : String :=
  match f.size with
  | some n => s!"invalid utf-8 sequence of {n} bytes from index {f.start}"
  | none => s!"incomplete utf-8 byte sequence from index {f.start}"

/-- How many bytes follow the first one of a character; `none` if no character begins with it. -/
def followers? (first : UInt8) : Option Nat :=
  if first < 0x80 then some 0
  else if first < 0xC2 then none
  else if first < 0xE0 then some 1
  else if first < 0xF0 then some 2
  else if first < 0xF5 then some 3
  else none

/-- Whether a byte may be the second one of a character. -/
def maySecond (first second : UInt8) : Bool :=
  (if first = 0xE0 then 0xA0 else if first = 0xF0 then 0x90 else 0x80) ≤ second &&
    second ≤ (if first = 0xED then 0x9F else if first = 0xF4 then 0x8F else 0xBF)

/-- How many of the bytes behind the first one of a character may stand there. -/
def followed (first : UInt8) : List UInt8 → Nat
  | [] => 0
  | second :: rest =>
    if maySecond first second then
      1 + (rest.takeWhile fun b => 0x80 ≤ b && b ≤ 0xBF).length
    else 0

/-- The first fault of bytes, behind as many others as `start` says. -/
def fault? (start : Nat) : List UInt8 → Option ByteFault
  | [] => none
  | first :: rest =>
    match followers? first with
    | none => some ⟨start, some 1⟩
    | some n =>
      let behind := rest.take n
      let k := followed first behind
      if k = n then fault? (start + 1 + n) (rest.drop n)
      else some ⟨start, if k = rest.length then none else some (k + 1)⟩
termination_by bytes => bytes.length
decreasing_by
  simp only [List.length_drop, List.length_cons]
  omega

end CrawlGraph.Text
