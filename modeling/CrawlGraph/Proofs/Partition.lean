import CrawlGraph.Partition
import Mathlib

/-!
# The extents of a partition

A range that can be cut is cut into extents of one width, with the remainder in the last. The list
of the extents, the extent of an index and the search for an identifier all speak of the same
extents.

1. The numbers of the bounds, none of which wraps around (`toNat_bound`).
2. `Cuts`: the bounds of a partition rise from the lower end of the range to the upper one.
3. The extents as a list and one by one.
4. `CutOutcome`, how cutting a range ends (`cutOutcome_ofRange`).
5. Searching by halves (`firstFailing_eq`), and the extent that holds an identifier.
6. `Views`, what the three views have in common (`views_of_partition`).
-/

namespace CrawlGraph.Partition

variable {start stop : Ident} {count : Nat} {p : Partition}

/-! ## 1. Bounds as numbers -/

/-- The width of every extent but the last. -/
def evenWidth (start stop : Ident) (count : Nat) : Nat := (stop.toNat - start.toNat) / count

/-- What the last extent is wider than the others. -/
def remainder (start stop : Ident) (count : Nat) : Nat := (stop.toNat - start.toNat) % count

theorem evenWidth_mul_add (start stop : Ident) (count : Nat) :
    evenWidth start stop count * count + remainder start stop count =
      stop.toNat - start.toNat :=
  Nat.div_add_mod' _ _

/-- What an inner bound is computed as lies within the range. -/
theorem inner_le (range : start < stop) {i : Nat} (hi : i ≤ count) :
    start.toNat + evenWidth start stop count * i ≤ stop.toNat := by
  have total := evenWidth_mul_add start stop count
  have inner := Nat.mul_le_mul_left (evenWidth start stop count) hi
  have := Ident.lt_def.mp range
  omega

/-- A range is cut if it is at least as wide as there are extents. -/
theorem ofRange_eq_ok (h : ofRange start stop count = .ok p) :
    0 < count ∧ start < stop ∧ count ≤ stop.toNat - start.toNat ∧
      p = ⟨start, stop, (List.range (count - 1)).map (fun i =>
        Ident.ofNat (start.toNat + evenWidth start stop count * (i + 1))) ++ [stop]⟩ := by
  unfold ofRange at h
  split at h
  · cases h
  rename_i hcount
  split at h
  · cases h
  rename_i hrange
  dsimp only at h
  split at h
  · cases h
  rename_i hwidth
  cases h
  have pos := Nat.pos_of_ne_zero hcount
  refine ⟨pos, Nat.lt_of_not_le hrange, Nat.le_of_not_lt fun narrow => hwidth ?_, rfl⟩
  exact Nat.div_eq_of_lt narrow

/-- **The bounds are the multiples of the width, counted from the start of the range**, and its end
    as the last one. -/
theorem toNat_bound (h : ofRange start stop count = .ok p) {i : Nat} {bound : Ident}
    (hb : p.bounds[i]? = some bound) : i < count ∧ bound.toNat =
      if i + 1 < count then start.toNat + evenWidth start stop count * (i + 1)
      else stop.toNat := by
  obtain ⟨pos, range, -, rfl⟩ := ofRange_eq_ok h
  by_cases hi : i < count - 1
  · have hinner : i + 1 < count := by omega
    rw [List.getElem?_append_left (by simpa using hi), List.getElem?_map,
      List.getElem?_range hi] at hb
    cases hb
    have small := Nat.lt_of_le_of_lt (inner_le range hinner.le) stop.isLt
    refine ⟨by omega, ?_⟩
    rw [if_pos hinner, Ident.toNat_ofNat, Nat.mod_eq_of_lt small]
  · rw [List.getElem?_append_right (by simpa using hi), List.getElem?_singleton] at hb
    simp only [List.length_map, List.length_range] at hb
    split at hb
    · cases hb
      exact ⟨by omega, (if_neg (by omega)).symm⟩
    · cases hb

/-- The start of the range stands before the bounds, at the multiple zero. -/
theorem toNat_place (h : ofRange start stop count = .ok p) {i : Nat} {bound : Ident}
    (hb : (p.start :: p.bounds)[i]? = some bound) : i ≤ count ∧ bound.toNat =
      if i < count then start.toNat + evenWidth start stop count * i else stop.toNat := by
  cases i with
  | zero =>
    obtain ⟨pos, -, -, rfl⟩ := ofRange_eq_ok h
    have hstart : start = bound := Option.some.inj hb
    exact ⟨count.zero_le, by rw [if_pos pos, hstart, Nat.mul_zero, Nat.add_zero]⟩
  | succ i => exact toNat_bound h hb

/-! ## 2. Bounds in their order -/

/-- **The partition cuts the range from `start` to `stop` into `count` extents**: its bounds rise,
    and the last one is the end of the range. -/
structure Cuts (p : Partition) (start stop : Ident) (count : Nat) : Prop where
  start_eq : p.start = start
  count_eq : p.count = count
  last : p.bounds.getLast? = some stop
  rising : (start :: p.bounds).Pairwise (· < ·)

theorem cuts_of_ofRange (h : ofRange start stop count = .ok p) : p.Cuts start stop count := by
  have place := @toNat_place _ _ _ _ h
  obtain ⟨pos, range, wide, rfl⟩ := ofRange_eq_ok h
  have width_pos : 0 < evenWidth start stop count := Nat.div_pos wide pos
  refine ⟨rfl, ?_, List.getLast?_concat, List.pairwise_iff_getElem.mpr fun i j hi hj hij => ?_⟩
  · simp only [Partition.count, List.length_append, List.length_map, List.length_range,
      List.length_singleton]
    omega
  · obtain ⟨-, hfirst⟩ := place (List.getElem?_eq_getElem hi)
    obtain ⟨hj', hsecond⟩ := place (List.getElem?_eq_getElem hj)
    rw [if_pos (Nat.lt_of_lt_of_le hij hj')] at hfirst
    rw [Ident.lt_def, hfirst, hsecond]
    have step := Nat.mul_lt_mul_of_pos_left hij width_pos
    split
    · exact Nat.add_lt_add_left step _
    · exact Nat.lt_of_lt_of_le (Nat.add_lt_add_left step _) (inner_le range hj')

/-- Bounds rise with their places. -/
theorem Cuts.lt_of_getElem? (h : p.Cuts start stop count) {i j : Nat} {a b : Ident} (hij : i < j)
    (ha : (p.start :: p.bounds)[i]? = some a) (hb : (p.start :: p.bounds)[j]? = some b) :
    a < b := by
  obtain ⟨hi, rfl⟩ := List.getElem?_eq_some_iff.mp ha
  obtain ⟨hj, rfl⟩ := List.getElem?_eq_some_iff.mp hb
  have rising := h.rising
  rw [← h.start_eq] at rising
  exact List.pairwise_iff_getElem.mp rising i j hi hj hij

/-- A range that is at least as wide as there are extents is cut. -/
theorem exists_ofRange (pos : 0 < count) (range : start < stop)
    (wide : count ≤ stop.toNat - start.toNat) : ∃ p, ofRange start stop count = .ok p := by
  have hwidth : (stop.toNat - start.toNat) / count ≠ 0 := (Nat.div_pos wide pos).ne'
  have nonempty : ¬stop ≤ start := Nat.not_le_of_lt range
  rw [ofRange, if_neg pos.ne', if_neg nonempty]
  dsimp only
  rw [if_neg hwidth]
  exact ⟨_, rfl⟩

/-- The whole identifier space can be cut into any number of extents that a machine word counts. -/
theorem exists_whole (pos : 0 < count) (small : count < UInt64.size) :
    ∃ p, whole count = .ok p := by
  have hsize : UInt64.size = 0x10000000000000000 := rfl
  have hmax : Ident.max.toNat - Ident.nil.toNat = 0xffffffffffffffffffffffffffffffff := rfl
  exact exists_ofRange pos (by decide) (by omega)

/-! ## 3. Extents -/

@[simp] theorem length_extents (p : Partition) : p.extents.length = p.count := by
  simp [extents, Partition.count]

/-- **The extent with an index is the entry of the list with that index.** -/
theorem extent_eq_ok_iff {index : Nat} {e : Ident × Ident} :
    p.extent index = .ok e ↔ p.extents[index]? = some e := by
  rw [extents, List.getElem?_zip_eq_some, extent]
  cases hupper : p.bounds[index]? with
  | none => simp
  | some upper =>
    -- the lower bound is there, since it stands before the upper one
    have hlower : (p.start :: p.bounds)[index]? =
        some (if index = 0 then p.start else (p.bounds[index - 1]?).getD p.start) := by
      cases index with
      | zero => rfl
      | succ i =>
        have hi := (List.getElem?_eq_some_iff.mp hupper).1
        rw [List.getElem?_cons_succ, if_neg i.succ_ne_zero, Nat.add_sub_cancel,
          List.getElem?_eq_getElem (Nat.lt_of_succ_lt hi), Option.getD_some]
    rw [hlower]
    simp only [Except.ok.injEq, Option.some.injEq, Prod.ext_iff]

/-- The extent of an index lies between the bound before it and its own. -/
theorem extents_getElem? {i : Nat} {e : Ident × Ident} : p.extents[i]? = some e ↔
    (p.start :: p.bounds)[i]? = some e.1 ∧ p.bounds[i]? = some e.2 :=
  List.getElem?_zip_eq_some

/-! ## 4. Cutting a range -/

/-- **An even cut** of the range from `start` to `stop` into `count` extents. -/
structure Even (p : Partition) (start stop : Ident) (count : Nat) : Prop where
  /-- There are `count` bounds, which rise from `start` to `stop`. -/
  cuts : p.Cuts start stop count
  stop_eq : p.stop = stop
  /-- No number on the way to an inner bound is too large for an identifier, so nothing wraps
      around. -/
  exact : ∀ i, i + 1 < count →
    evenWidth start stop count * (i + 1) < 2 ^ 128 ∧
      start.toNat + evenWidth start stop count * (i + 1) < 2 ^ 128 ∧
      ∃ bound, p.bounds[i]? = some bound ∧
        bound.toNat = start.toNat + evenWidth start stop count * (i + 1)
  nonempty : ∀ e ∈ p.extents, e.1 < e.2
  /-- An extent begins where the one before it ends. -/
  adjacent : ∀ (i : Nat) (e e' : Ident × Ident), p.extents[i]? = some e →
    p.extents[i + 1]? = some e' → e'.1 = e.2
  /-- All extents are equally wide, but for the last, which takes up the remainder. -/
  width : ∀ (i : Nat) (e : Ident × Ident), p.extents[i]? = some e →
    e.2.toNat - e.1.toNat = if i + 1 < count then evenWidth start stop count
      else evenWidth start stop count + remainder start stop count

/-- **How cutting a range ends.** -/
inductive CutOutcome (start stop : Ident) (count : Nat) :
    Except PartitionError Partition → Prop where
  | noParts (zero : count = 0) : CutOutcome start stop count (.error .noParts)
  | emptyRange (pos : 0 < count) (empty : stop ≤ start) :
    CutOutcome start stop count (.error (.emptyRange start stop))
  | tooManyParts (pos : 0 < count) (range : start < stop)
    (narrow : stop.toNat - start.toNat < count) :
    CutOutcome start stop count (.error (.tooManyParts count))
  | cut {p : Partition} (pos : 0 < count) (range : start < stop)
    (wide : count ≤ stop.toNat - start.toNat) (even : p.Even start stop count) :
    CutOutcome start stop count (.ok p)

theorem even_of_ofRange (h : ofRange start stop count = .ok p) : p.Even start stop count := by
  have cuts := cuts_of_ofRange h
  obtain ⟨pos, range, -, hp⟩ := ofRange_eq_ok h
  constructor
  case cuts => exact cuts
  case stop_eq => rw [hp]
  case exact =>
    intro i hi
    have small := Nat.lt_of_le_of_lt (inner_le range hi.le) stop.isLt
    have held : i < p.bounds.length := by
      have : p.bounds.length = count := cuts.count_eq
      omega
    have hbound := List.getElem?_eq_getElem held
    refine ⟨by omega, by omega, _, hbound, ?_⟩
    rw [(toNat_bound h hbound).2, if_pos hi]
  case adjacent =>
    intro i e e' he he'
    have hlower := (extents_getElem?.mp he').1
    rw [List.getElem?_cons_succ, (extents_getElem?.mp he).2] at hlower
    exact (Option.some.inj hlower).symm
  case nonempty =>
    intro e he
    obtain ⟨i, hi⟩ := List.mem_iff_getElem?.mp he
    obtain ⟨hlower, hupper⟩ := extents_getElem?.mp hi
    exact cuts.lt_of_getElem? i.lt_succ_self hlower hupper
  case width =>
    intro i e he
    obtain ⟨hlower, hupper⟩ := extents_getElem?.mp he
    obtain ⟨hi, hupper⟩ := toNat_bound h hupper
    rw [(toNat_place h hlower).2, if_pos hi, hupper]
    split
    · rw [Nat.mul_succ]
      omega
    · have total := evenWidth_mul_add start stop count
      have last : count = i + 1 := by omega
      rw [last, Nat.mul_succ] at total
      rw [last]
      omega

/-- **Cutting a range** is refused without a count, then for an empty range, then for one that is
    narrower than the count; any other range is cut evenly. -/
theorem cutOutcome_ofRange (start stop : Ident) (count : Nat) :
    CutOutcome start stop count (ofRange start stop count) := by
  rcases Nat.eq_zero_or_pos count with hzero | pos
  · rw [ofRange, if_pos hzero]
    exact .noParts hzero
  by_cases empty : stop ≤ start
  · rw [ofRange, if_neg pos.ne', if_pos empty]
    exact .emptyRange pos empty
  have range : start < stop := Nat.lt_of_not_le empty
  by_cases narrow : stop.toNat - start.toNat < count
  · have hwidth : (stop.toNat - start.toNat) / count = 0 := Nat.div_eq_of_lt narrow
    rw [ofRange, if_neg pos.ne', if_neg empty]
    dsimp only
    rw [if_pos hwidth]
    exact .tooManyParts pos range narrow
  · have wide : count ≤ stop.toNat - start.toNat := Nat.le_of_not_lt narrow
    obtain ⟨p, hp⟩ := exists_ofRange pos range wide
    rw [hp]
    exact .cut pos range wide (even_of_ofRange hp)

/-! ## 5. Searching -/

/-- **Halving finds where a test begins to fail**, if it fails from there on. -/
theorem firstFailing_eq {test : Nat → Bool} {low high n : Nat} (hlow : low ≤ n) (hhigh : n ≤ high)
    (passes_iff : ∀ i, low ≤ i → i < high → (test i = true ↔ i < n)) :
    firstFailing test low high = n := by
  fun_induction firstFailing test low high with
  | case1 low high hlt middle htest ih =>
    have hmiddle : middle < n := (passes_iff middle (by omega) (by omega)).mp htest
    exact ih hmiddle hhigh fun i hi => passes_iff i (by omega)
  | case2 low high hlt middle htest ih =>
    have hmiddle : n ≤ middle := Nat.le_of_not_lt fun h =>
      htest ((passes_iff middle (by omega) (by omega)).mpr h)
    exact ih hlow hmiddle fun i hi hi' => passes_iff i hi (by omega)
  | case3 low high hle => omega

/-- The extent with an index holds an identifier. -/
def Holds (p : Partition) (i : Nat) (id : Ident) : Prop :=
  ∃ lower upper, p.extent i = .ok (lower, upper) ∧ lower ≤ id ∧ id < upper

theorem Holds.lt_count {i : Nat} {id : Ident} (holds : p.Holds i id) : i < p.count := by
  obtain ⟨lower, upper, he, -⟩ := holds
  exact lt_length_of_extent he

theorem endsBy_iff {id : Ident} {i : Nat} :
    p.endsBy id i = true ↔ ∃ bound, p.bounds[i]? = some bound ∧ bound ≤ id := by
  unfold endsBy
  cases p.bounds[i]? with
  | none => simp
  | some upper => simp

namespace Cuts

variable {i j : Nat} {a b id : Ident}

theorem le_of_getElem? (h : p.Cuts start stop count) (hij : i ≤ j)
    (ha : (p.start :: p.bounds)[i]? = some a) (hb : (p.start :: p.bounds)[j]? = some b) :
    a ≤ b := by
  rcases Nat.eq_or_lt_of_le hij with rfl | hlt
  · exact Nat.le_of_eq (congrArg Ident.toNat (Option.some.inj (ha.symm.trans hb)))
  · exact Nat.le_of_lt (h.lt_of_getElem? hlt ha hb)

theorem last_bound (h : p.Cuts start stop count) :
    p.bounds[p.bounds.length - 1]? = some stop :=
  List.getLast?_eq_getElem?.symm.trans h.last

/-- An extent that holds an identifier lies within the range. -/
theorem range_of_holds (h : p.Cuts start stop count) (holds : p.Holds i id) :
    start ≤ id ∧ id < stop := by
  obtain ⟨lower, upper, he, hlower, hupper⟩ := holds
  obtain ⟨hfirst, hsecond⟩ := extents_getElem?.mp (extent_eq_ok_iff.mp he)
  have hi : i < p.bounds.length := (List.getElem?_eq_some_iff.mp hsecond).1
  have hstart : (p.start :: p.bounds)[0]? = some start := congrArg some h.start_eq
  have below := h.le_of_getElem? i.zero_le hstart hfirst
  have above : upper ≤ stop :=
    h.le_of_getElem? (i := i + 1) (j := p.bounds.length - 1 + 1) (by omega) hsecond h.last_bound
  exact ⟨Nat.le_trans below hlower, Nat.lt_of_lt_of_le hupper above⟩

/-- The extents that end before an identifier are those before the one that holds it. -/
theorem endsBy_iff_lt (h : p.Cuts start stop count) (holds : p.Holds i id) (hj : j < p.count) :
    p.endsBy id j = true ↔ j < i := by
  obtain ⟨lower, upper, he, hlower, hupper⟩ := holds
  obtain ⟨hfirst, hsecond⟩ := extents_getElem?.mp (extent_eq_ok_iff.mp he)
  have hbound : p.bounds[j]? = some p.bounds[j] := List.getElem?_eq_getElem hj
  rw [endsBy_iff]
  constructor
  · rintro ⟨bound, hb, hle⟩
    refine Nat.lt_of_not_le fun hij => ?_
    have above : upper ≤ bound :=
      h.le_of_getElem? (Nat.add_le_add_right hij 1) hsecond hb
    exact Nat.not_lt_of_le (Nat.le_trans above hle) hupper
  · intro hji
    have below : p.bounds[j] ≤ lower := h.le_of_getElem? (i := j + 1) hji hbound hfirst
    exact ⟨_, hbound, Nat.le_trans below hlower⟩

/-- **Some extent holds each identifier of the range**: the first that does not end before it. -/
theorem exists_holds (h : p.Cuts start stop count) (hstart : start ≤ id) (hstop : id < stop) :
    ∃ i, p.Holds i id := by
  have beyond : ∃ i, ∃ bound, p.bounds[i]? = some bound ∧ id < bound :=
    ⟨_, _, h.last_bound, hstop⟩
  classical
  obtain ⟨upper, hupper, hlt⟩ := Nat.find_spec beyond
  refine ⟨Nat.find beyond, ?_⟩
  have hi := (List.getElem?_eq_some_iff.mp hupper).1
  obtain ⟨lower, hlower⟩ : ∃ lower, (p.start :: p.bounds)[Nat.find beyond]? = some lower :=
    ⟨_, List.getElem?_eq_getElem (Nat.lt_succ_of_lt hi)⟩
  refine ⟨lower, upper, extent_eq_ok_iff.mpr (extents_getElem?.mpr ⟨hlower, hupper⟩), ?_, hlt⟩
  rcases hcase : Nat.find beyond with _ | i
  · rw [hcase] at hlower
    have hfirst : p.start = lower := Option.some.inj hlower
    rw [← hfirst, h.start_eq]
    exact hstart
  · rw [hcase] at hlower
    refine Nat.le_of_not_lt fun hbelow => ?_
    exact Nat.find_min beyond (m := i) (by omega) ⟨lower, hlower, hbelow⟩

end Cuts

namespace Even

variable {i : Nat} {id : Ident}

/-- **The search finds the extent that holds the identifier.** -/
theorem indexOf_eq (h : p.Even start stop count) (holds : p.Holds i id) : p.indexOf id = .ok i := by
  obtain ⟨hstart, hstop⟩ := h.cuts.range_of_holds holds
  rw [← h.cuts.start_eq] at hstart
  rw [← h.stop_eq] at hstop
  have range : ¬(id < p.start ∨ p.stop ≤ id) :=
    not_or.mpr ⟨Nat.not_lt_of_le hstart, Nat.not_le_of_lt hstop⟩
  have hi := holds.lt_count
  rw [indexOf, if_neg range, firstFailing_eq i.zero_le hi.le fun j _ hj =>
    h.cuts.endsBy_iff_lt holds hj]

theorem indexOf_eq_ok_iff (h : p.Even start stop count) :
    p.indexOf id = .ok i ↔ p.Holds i id := by
  refine ⟨fun hfound => ?_, h.indexOf_eq⟩
  have inside : ¬(id < p.start ∨ p.stop ≤ id) := fun outside => by
    rw [indexOf, if_pos outside] at hfound
    cases hfound
  have hstart : start ≤ id := h.cuts.start_eq ▸ Nat.le_of_not_lt (not_or.mp inside).1
  have hstop : id < stop := h.stop_eq ▸ Nat.lt_of_not_le (not_or.mp inside).2
  obtain ⟨j, holds⟩ := h.cuts.exists_holds hstart hstop
  rw [h.indexOf_eq holds] at hfound
  cases hfound
  exact holds

end Even

/-! ## 6. Three views of one partition -/

/-- An index is refused if the count does not go beyond it. -/
theorem extent_eq_error_iff {index : Nat} {e : PartitionError} :
    p.extent index = .error e ↔ e = .indexOutOfBounds index p.count ∧ p.count ≤ index := by
  unfold extent
  cases hbound : p.bounds[index]? with
  | none => simp [Partition.count, List.getElem?_eq_none_iff.mp hbound, eq_comm]
  | some upper =>
    have := (List.getElem?_eq_some_iff.mp hbound).1
    simp [Partition.count, this]

/-- The search fails outside the range only. -/
theorem indexOf_eq_error_iff {id : Ident} {e : PartitionError} :
    p.indexOf id = .error e ↔ e = .outOfRange id ∧ (id < p.start ∨ p.stop ≤ id) := by
  unfold indexOf
  split
  · rename_i outside
    rw [Except.error.injEq, eq_comm, and_iff_left outside]
  · rename_i inside
    simp [inside]

/-- The extents in their order are those of the indices below the count. -/
theorem map_extents (p : Partition) :
    p.extents.map .ok = (List.range p.count).map p.extent := by
  refine List.ext_getElem? fun i => ?_
  rw [List.getElem?_map, List.getElem?_map]
  cases he : p.extents[i]? with
  | none =>
    have beyond : p.count ≤ i := p.length_extents ▸ List.getElem?_eq_none_iff.mp he
    rw [List.getElem?_eq_none (by simpa using beyond)]
    rfl
  | some e =>
    have hi : i < p.count := p.length_extents ▸ (List.getElem?_eq_some_iff.mp he).1
    rw [List.getElem?_range hi, Option.map_some, Option.map_some, extent_eq_ok_iff.mpr he]

/-- **The three views of a partition agree.** -/
structure Views (p : Partition) : Prop where
  /-- The list has the extents of the indices below the count, in order. -/
  listed : p.extents.map .ok = (List.range p.count).map p.extent
  extent_error : ∀ (index : Nat) (e : PartitionError),
    p.extent index = .error e ↔ e = .indexOutOfBounds index p.count ∧ p.count ≤ index
  /-- The search answers with an index just if the extent of that index holds the identifier. -/
  found : ∀ (id : Ident) (i : Nat), p.indexOf id = .ok i ↔
    i < p.count ∧ ∃ lower upper, p.extent i = .ok (lower, upper) ∧ lower ≤ id ∧ id < upper
  /-- Exactly one extent holds an identifier of the range, and the search finds it. -/
  once : ∀ id : Ident, p.start ≤ id → id < p.stop →
    ∃ i, p.indexOf id = .ok i ∧ ∀ j, p.Holds j id ↔ j = i
  outOfRange : ∀ (id : Ident) (e : PartitionError),
    p.indexOf id = .error e ↔ e = .outOfRange id ∧ (id < p.start ∨ p.stop ≤ id)

/-- **A partition shows the same extents in its list, by their indices and to a search.** -/
theorem views_of_partition
    (h : ofRange start stop count = .ok p ∨ whole count = .ok p) : p.Views := by
  obtain ⟨start, stop, hp⟩ : ∃ start stop, ofRange start stop count = .ok p := by
    rcases h with h | h
    · exact ⟨start, stop, h⟩
    · exact ⟨.nil, .max, h⟩
  have even := even_of_ofRange hp
  constructor
  case listed => exact p.map_extents
  case extent_error => exact fun _ _ => extent_eq_error_iff
  case found =>
    intro id i
    rw [even.indexOf_eq_ok_iff]
    exact (and_iff_right_of_imp Holds.lt_count).symm
  case once =>
    intro id hstart hstop
    rw [even.cuts.start_eq] at hstart
    rw [even.stop_eq] at hstop
    obtain ⟨i, holds⟩ := even.cuts.exists_holds hstart hstop
    refine ⟨i, even.indexOf_eq holds, fun j => ⟨fun other => ?_, fun hji => hji ▸ holds⟩⟩
    exact Except.ok.inj ((even.indexOf_eq other).symm.trans (even.indexOf_eq holds))
  case outOfRange => exact fun _ _ => indexOf_eq_error_iff

/-- A bound belongs to the extent that it begins, and the last extent is the widest. -/
theorem views_of_four_extents : ∃ p, ofRange (.ofNat 100) (.ofNat 203) 4 = .ok p ∧ p.Views ∧
    p.indexOf (.ofNat 150) = .ok 2 ∧ p.extent 3 = .ok (.ofNat 175, .ofNat 203) ∧
    p.extent 4 = .error (.indexOutOfBounds 4 4) := by
  have hcut : ofRange (.ofNat 100) (.ofNat 203) 4 = .ok _ := rfl
  have views := views_of_partition (.inl hcut)
  have hheld : Ident.ofNat 150 ≤ .ofNat 150 ∧ Ident.ofNat 150 < .ofNat 175 := by decide
  exact ⟨_, rfl, views, (views.found _ 2).mpr ⟨by decide, _, _, rfl, hheld⟩, rfl, rfl⟩

end CrawlGraph.Partition
