import Std.Data.TreeMap

/-!
# Identifiers

A record of the store is named by a 128-bit number. Identifiers are ordered as numbers, and the
number zero, `Ident.nil`, is never given to a stored record. This module holds

* the type `Ident` with its order, and the lawful comparison that ordered maps ask for;
* the two ends of the identifier space, `Ident.nil` and `Ident.max`;
* randomly drawn identifiers (`Ident.ofRandom`).
-/

namespace CrawlGraph

/-- A 128-bit identifier: a number below two to the 128th. -/
@[ext] structure Ident where
  toNat : Nat
  isLt : toNat < 0x100000000000000000000000000000000
  deriving DecidableEq

namespace Ident

/-! ## 1. Order -/

instance : LT Ident := ⟨fun a b => a.toNat < b.toNat⟩

instance : LE Ident := ⟨fun a b => a.toNat ≤ b.toNat⟩

theorem lt_def {a b : Ident} : a < b ↔ a.toNat < b.toNat := Iff.rfl

theorem le_def {a b : Ident} : a ≤ b ↔ a.toNat ≤ b.toNat := Iff.rfl

instance (a b : Ident) : Decidable (a < b) := inferInstanceAs (Decidable (a.toNat < b.toNat))

instance (a b : Ident) : Decidable (a ≤ b) := inferInstanceAs (Decidable (a.toNat ≤ b.toNat))

instance : Ord Ident := ⟨compareOn toNat⟩

theorem compare_def (a b : Ident) : compare a b = compare a.toNat b.toNat := rfl

instance : Std.TransOrd Ident := inferInstanceAs (Std.TransCmp (compareOn toNat))

instance : Std.LawfulEqOrd Ident where
  eq_of_compare h := Ident.ext (Std.LawfulEqOrd.eq_of_compare (compare_def _ _ ▸ h))

/-! ## 2. Numbers as identifiers -/

/-- The identifier of a number, taken modulo the size of the identifier space. -/
def ofNat (n : Nat) : Ident := ⟨n % 0x100000000000000000000000000000000, Nat.mod_lt _ (by decide)⟩

@[simp] theorem toNat_ofNat (n : Nat) :
    (ofNat n).toNat = n % 0x100000000000000000000000000000000 := rfl

theorem ofNat_toNat (id : Ident) : ofNat id.toNat = id :=
  Ident.ext (Nat.mod_eq_of_lt id.isLt)

/-- The lowest identifier, which marks a record that has not been stored yet. -/
def nil : Ident := ⟨0, by decide⟩

/-- The highest identifier. -/
def max : Ident := ⟨0xffffffffffffffffffffffffffffffff, by decide⟩

/-- Whether the identifier marks an unstored record. -/
def isNil (id : Ident) : Bool := id.toNat == 0

theorem isNil_iff {id : Ident} : id.isNil = true ↔ id = nil := by
  simp [isNil, nil, Ident.ext_iff]

instance : Inhabited Ident := ⟨nil⟩

/-! ## 3. Randomly drawn identifiers -/

/-- The version-4 identifier of a random number: four of its bits become the version number and
    two the variant mark `10`; the other 122 bits stay as drawn. -/
def ofRandom (n : Nat) : Ident :=
  let high := (n >>> 80) % 0x1000000000000
  let middle := (n >>> 64) % 0x1000
  let low := n % 0x4000000000000000
  ofNat (high <<< 80 + 4 <<< 76 + middle <<< 64 + 2 <<< 62 + low)

end Ident

end CrawlGraph
