/-!
# Binary floating-point numbers of a column

A column may hold numbers that are not integers. They are kept exactly, as `mantissa * 2 ^ exponent`
with a mantissa of at most 53 bits, or as infinite. `Binary64.isBelow` compares them with an
integer.
-/

namespace CrawlGraph

/-- A floating-point number. -/
inductive Binary64 where
  | finite (mantissa exponent : Int)
  | infinite (negative : Bool)
  deriving DecidableEq, Repr

/-- Whether the number is less than an integer. -/
def Binary64.isBelow (r : Binary64) (n : Int) : Bool :=
  match r with
  | .finite m e => if 0 ≤ e then m <<< e.toNat < n else m < n <<< (-e).toNat
  | .infinite negative => negative

end CrawlGraph
