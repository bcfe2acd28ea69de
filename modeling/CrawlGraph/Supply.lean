import CrawlGraph.Record

/-!
# Clock and identifiers

What a store takes from outside: readings of a clock and freshly drawn identifiers. A `Supply`
holds both as sequences, together with how many terms of each were used, so that an operation
says exactly how much it consumed.

1. Reading the clock and drawing identifiers.
2. `fresh`: drawing until an identifier can be used, at most a given number of times.
3. `awaitNextSecond`: reading until the clock has moved on.
4. `listed`, sequences that a list gives.
-/

namespace CrawlGraph

/-- A clock and a source of identifiers. The term `clock n` is what the reading after `n` others
    gives, and likewise for identifiers. -/
structure Supply where
  clock : Nat → Stamp
  idents : Nat → Ident
  reads : Nat := 0
  draws : Nat := 0

/-- How many identifiers are drawn for one record before giving up. -/
def maxAttempts : Nat := 8

namespace Supply

/-! ## 1. Single readings and draws -/

/-- What the clock reads now. -/
def now (s : Supply) : Stamp := s.clock s.reads

/-- The supply after one reading of the clock. -/
def afterRead (s : Supply) : Supply := { s with reads := s.reads + 1 }

/-- The identifier that is drawn next. -/
def nextIdent (s : Supply) : Ident := s.idents s.draws

/-- The supply after one draw. -/
def afterDraw (s : Supply) : Supply := { s with draws := s.draws + 1 }

/-! ## 2. Unused identifiers -/

/-- Draws up to `attempts` identifiers until one is neither nil nor taken. -/
def fresh (taken : Ident → Bool) : Nat → Supply → Option Ident × Supply
  | 0, s => (none, s)
  | attempts + 1, s =>
    if s.nextIdent.isNil || taken s.nextIdent then fresh taken attempts s.afterDraw
    else (some s.nextIdent, s.afterDraw)

/-! ## 3. Waiting for the clock -/

/-- Reads until the clock shows more than `start`, at most `patience` times. -/
def awaitLater (start : Stamp) : Nat → Supply → Option Stamp × Supply
  | 0, s => (none, s)
  | patience + 1, s =>
    if start < s.now then (some s.now, s.afterRead) else awaitLater start patience s.afterRead

/-- Reads the clock, and then again until it has moved past the second of the first reading; gives
    the later reading, or `none` when `patience` further readings did not suffice. -/
def awaitNextSecond (patience : Nat) (s : Supply) : Option Stamp × Supply :=
  awaitLater s.now patience s.afterRead

theorem lt_of_awaitLater {start t : Stamp} {patience : Nat} {s s' : Supply}
    (h : awaitLater start patience s = (some t, s')) : start < t := by
  induction patience generalizing s with
  | zero => simp [awaitLater] at h
  | succ n ih =>
    rw [awaitLater] at h
    split at h
    · simp only [Prod.mk.injEq, Option.some.injEq] at h
      rw [← h.1]
      assumption
    · exact ih h

/-- **The reading that ends the wait is later than the one that began it.** -/
theorem lt_of_awaitNextSecond {t : Stamp} {patience : Nat} {s s' : Supply}
    (h : awaitNextSecond patience s = (some t, s')) : s.now < t :=
  lt_of_awaitLater h

/-! ## 4. Sequences -/

/-- The terms of a list, the last of which repeats for ever; `other` if there are none. -/
def listed {α : Type} (other : α) (terms : List α) (n : Nat) : α :=
  (terms[n]?).getD (terms.getLast?.getD other)

end Supply

end CrawlGraph
