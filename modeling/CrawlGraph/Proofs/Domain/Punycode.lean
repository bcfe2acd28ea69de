import CrawlGraph.Domain.Punycode
import Mathlib

/-!
# Punycode reads back

Writing a label in Punycode walks through its characters once for each code point outside ASCII, by
rising code point, and counts what it passes. Reading carries out the insertions that the counts
describe. After each step of the writer, a reader of the output so far holds the characters that the
writer has put in place, and its own position and the count that is not written yet add up to the
position of the writer.

1. A number reads back (`readNumeral?_numeral`).
2. The code points of a label, rising and each once.
3. `Agrees`: a writer and the reader of its output.
4. One character, one level and all levels.
5. `decode?_encode`.
-/

namespace CrawlGraph.Domain.Punycode

/-! ## 1. Numbers -/

theorem digitValue?_digit : ∀ n < 36, digitValue? (digit n) = some n := by decide

theorem digit_ne_hyphen : ∀ n < 36, digit n ≠ '-' := by decide

theorem isAscii_digit : ∀ n < 36, isAscii (digit n) = true := by decide

/-- Where a number goes on after its digit at place `k`, the digit and the rest make it up. -/
theorem next_digit {bias k n : Nat} (h : ¬n < threshold bias k) :
    threshold bias k + (n - threshold bias k) % (36 - threshold bias k) < 36 ∧
      (n - threshold bias k) / (36 - threshold bias k) < n ∧
      threshold bias k + (n - threshold bias k) % (36 - threshold bias k) +
        (n - threshold bias k) / (36 - threshold bias k) * (36 - threshold bias k) = n := by
  have pos := threshold_pos bias k
  have le := threshold_le bias k
  have hmod : (n - threshold bias k) % (36 - threshold bias k) < 36 - threshold bias k :=
    Nat.mod_lt _ (by omega)
  have hdiv : (n - threshold bias k) / (36 - threshold bias k) ≤ n - threshold bias k :=
    Nat.div_le_self _ _
  have hsum := Nat.mod_add_div' (n - threshold bias k) (36 - threshold bias k)
  omega

theorem exists_digit_of_mem_numeralFrom {bias k n : Nat} {c : Char}
    (h : c ∈ numeralFrom bias k n) : ∃ d < 36, digit d = c := by
  induction n using Nat.strong_induction_on generalizing k with
  | _ n ih =>
    have le := threshold_le bias k
    rw [numeralFrom] at h
    split at h
    · rename_i hn
      exact ⟨n, by omega, (List.mem_singleton.mp h).symm⟩
    · rename_i hn
      obtain ⟨small, less, -⟩ := next_digit hn
      rcases List.mem_cons.mp h with rfl | h
      · exact ⟨_, small, rfl⟩
      · exact ih _ less h

theorem numeralFrom_ne_nil (bias k n : Nat) : numeralFrom bias k n ≠ [] := by
  rw [numeralFrom]
  split <;> simp

theorem readFrom?_numeralFrom (bias k weight sum n : Nat) (rest : List Char) :
    readFrom? bias k weight sum (numeralFrom bias k n ++ rest) = some (sum + n * weight, rest) := by
  induction n using Nat.strong_induction_on generalizing k weight sum with
  | _ n ih =>
    have le := threshold_le bias k
    rw [numeralFrom]
    split
    · rename_i hn
      rw [List.cons_append, readFrom?, digitValue?_digit n (by omega)]
      simp [hn]
    · rename_i hn
      obtain ⟨small, less, total⟩ := next_digit hn
      have goesOn : ¬threshold bias k + (n - threshold bias k) % (36 - threshold bias k) <
          threshold bias k := by omega
      rw [List.cons_append, readFrom?, digitValue?_digit _ small]
      simp only [goesOn, if_false]
      rw [ih _ less]
      generalize threshold bias k + (n - threshold bias k) % (36 - threshold bias k) = d at total
      generalize (n - threshold bias k) / (36 - threshold bias k) = q at total
      congr 2
      rw [← total]
      ring

/-- **A number reads back**, whatever follows it. -/
theorem readNumeral?_numeral (bias n : Nat) (rest : List Char) :
    readNumeral? bias (numeral bias n ++ rest) = some (n, rest) := by
  rw [readNumeral?, numeral, readFrom?_numeralFrom]
  simp

theorem charOf?_toNat (c : Char) : charOf? c.toNat = some c := by
  have valid : c.toNat.isValidChar := c.valid
  rw [charOf?, dif_pos valid]
  rfl

/-! ## 2. The code points of a label -/

theorem pairwise_eraseDups {l : List Nat} (h : l.Pairwise (· ≤ ·)) :
    l.eraseDups.Pairwise (· < ·) := by
  induction hn : l.length using Nat.strong_induction_on generalizing l with
  | _ n ih =>
    cases l with
    | nil => exact .nil
    | cons a l =>
      obtain ⟨low, rest⟩ := List.pairwise_cons.mp h
      have shorter : (l.filter fun b => !b == a).length < n :=
        hn ▸ Nat.lt_succ_of_le (List.length_filter_le _ l)
      rw [List.eraseDups_cons]
      refine List.pairwise_cons.mpr ⟨fun b hb => ?_, ih _ shorter (rest.filter _) rfl⟩
      obtain ⟨hb, hne⟩ := List.mem_filter.mp (List.mem_eraseDups.mp hb)
      have := low b hb
      simp only [Bool.not_eq_true', beq_eq_false_iff_ne] at hne
      omega

/-- The levels rise. -/
theorem pairwise_levels (label : List Char) : (levels label).Pairwise (· < ·) := by
  have sorted := List.pairwise_mergeSort' (r := fun a b : Nat => a ≤ b)
    ((label.filter fun c => !isAscii c).map Char.toNat)
  exact pairwise_eraseDups sorted

theorem mem_levels {label : List Char} {n : Nat} :
    n ∈ levels label ↔ ∃ c ∈ label, isAscii c = false ∧ c.toNat = n := by
  simp only [levels, List.mem_eraseDups, List.mem_mergeSort, List.mem_map, List.mem_filter,
    Bool.not_eq_true', and_assoc]

/-! ## 3. The writer and the reader -/

/-- What is written before the numbers: the ASCII characters and a hyphen, if there are any. -/
def opening (basics : List Char) : List Char := if basics.isEmpty then [] else basics ++ ['-']

/-- **A writer agrees with a reader of its output.** The reader has put together `text`, whose
    length is the count of written characters. It stands after the code point `code` and before the
    position `place`. The writer stands before the position `next` of its own code point, and the
    states from there to here are those that it has passed and not yet written. -/
structure Agrees (basics : List Char) (e : Encoder) (next : Nat) (text digits : List Char)
    (code place : Nat) : Prop where
  output : e.output = opening basics ++ digits
  reads : ∀ rest, insertions basics 0x80 0 startBias (digits ++ rest) =
    insertions text code place e.bias rest
  written : e.written = text.length
  grown : basics.length ≤ e.written
  first : e.written = basics.length ↔ place = 0
  passed : code * (text.length + 1) + (place + e.passed) = e.code * (text.length + 1) + next
  inside : next ≤ text.length
  digits : ∀ c ∈ digits, ∃ d < 36, digit d = c

/-- The next insertion, which is where the writer stands. -/
theorem insertion_eq {size code x m next : Nat} (h : code * size + x = m * size + next)
    (inside : next < size) : code + x / size = m ∧ x % size = next := by
  have pos : 0 < size := by omega
  have quotient := congrArg (· / size) h
  have remainder := congrArg (· % size) h
  simp only [Nat.mul_comm _ size, Nat.mul_add_div pos, Nat.div_eq_of_lt inside, Nat.mul_add_mod,
    Nat.mod_eq_of_lt inside, Nat.add_zero] at quotient remainder
  exact ⟨quotient, remainder⟩

/-- Reading a number puts its character in. -/
theorem insertions_numeral {text : List Char} {code place bias n next : Nat} {c : Char}
    (rest : List Char) (hcode : code + (place + n) / (text.length + 1) = c.toNat)
    (hplace : (place + n) % (text.length + 1) = next) :
    insertions text code place bias (numeral bias n ++ rest) =
      insertions (text.take next ++ c :: text.drop next) c.toNat (next + 1)
        (adapt n (text.length + 1) (place == 0)) rest := by
  have hread := readNumeral?_numeral bias n rest
  obtain ⟨d, ds, hds⟩ := List.exists_cons_of_ne_nil (numeralFrom_ne_nil bias 36 n)
  rw [numeral, hds, List.cons_append] at hread ⊢
  rw [insertions]
  split
  · rename_i hnone
    rw [hread] at hnone
    cases hnone
  · rename_i n' rest' hsome
    rw [hread] at hsome
    cases hsome
    simp only [hcode, hplace, charOf?_toNat]

/-- **The writer comes to a character of its code point.** It writes the count, and the reader puts
    the character in where the writer stands. -/
theorem Agrees.insert {basics : List Char} {e : Encoder} {next : Nat} {text digits : List Char}
    {code place : Nat} (h : Agrees basics e next text digits code place) {c : Char}
    (hc : c.toNat = e.code) :
    Agrees basics (e.visit basics.length c) (next + 1) (text.take next ++ c :: text.drop next)
      (digits ++ numeral e.bias e.passed) e.code (next + 1) := by
  have inside := h.inside
  have grown := h.grown
  have longer : (text.take next ++ c :: text.drop next).length = text.length + 1 := by
    simp only [List.length_append, List.length_take, List.length_cons, List.length_drop]
    omega
  have hvisit : e.visit basics.length c = { e with
      passed := 0
      written := e.written + 1
      bias := adapt e.passed (e.written + 1) (e.written == basics.length)
      output := e.output ++ numeral e.bias e.passed } := by
    rw [Encoder.visit, if_neg (by omega), if_pos hc]
  rw [hvisit]
  constructor
  case output => simp only [h.output, List.append_assoc]
  case reads =>
    intro rest
    obtain ⟨hcode, hplace⟩ := insertion_eq h.passed (by omega)
    have hfirst : (e.written == basics.length) = (place == 0) := by
      rw [Bool.eq_iff_iff, beq_iff_eq, beq_iff_eq]
      exact h.first
    rw [List.append_assoc, h.reads, insertions_numeral rest (hcode.trans hc.symm) hplace, hc,
      hfirst, h.written]
  case written => rw [longer, h.written]
  case grown => exact Nat.le_succ_of_le grown
  case first => simp only; omega
  case passed => simp only [longer]
  case inside => omega
  case digits =>
    intro d hd
    rcases List.mem_append.mp hd with hd | hd
    · exact h.digits d hd
    · exact exists_digit_of_mem_numeralFrom hd

/-! ## 4. Levels -/

/-- The characters that are in place when a writer on the level `m` has visited `past` and has
    `ahead` before it. -/
def placed (m : Nat) (past ahead : List Char) : List Char :=
  past.filter (·.toNat ≤ m) ++ ahead.filter (·.toNat < m)

/-- How many of them stand behind the writer. -/
def position (m : Nat) (past : List Char) : Nat := (past.filter (·.toNat ≤ m)).length

/-- Some reader agrees with the writer, when it has visited `past` and has `ahead` before it. -/
def Halfway (basics : List Char) (e : Encoder) (past ahead : List Char) : Prop :=
  ∃ digits code place,
    Agrees basics e (position e.code past) (placed e.code past ahead) digits code place

theorem Halfway.visit {basics : List Char} {e : Encoder} {past ahead : List Char} {c : Char}
    (h : Halfway basics e past (c :: ahead)) :
    Halfway basics (e.visit basics.length c) (past ++ [c]) ahead ∧
      (e.visit basics.length c).code = e.code := by
  obtain ⟨digits, code, place, agrees⟩ := h
  rcases Nat.lt_trichotomy c.toNat e.code with hlt | heq | hgt
  · -- the character is in place already, and the writer only moves behind it
    have hvisit : e.visit basics.length c = { e with passed := e.passed + 1 } := by
      rw [Encoder.visit, if_pos hlt]
    have same : placed e.code (past ++ [c]) ahead = placed e.code past (c :: ahead) := by
      simp [placed, hlt, hlt.le]
    have moved : position e.code (past ++ [c]) = position e.code past + 1 := by
      simp [position, hlt.le]
    have room : position e.code past + 1 ≤ (placed e.code past (c :: ahead)).length := by
      simp [position, placed, hlt]
    have hpassed := agrees.passed
    rw [hvisit]
    refine ⟨⟨digits, code, place, ?_⟩, rfl⟩
    simp only [same, moved]
    exact { agrees with passed := by simp only; omega, inside := room }
  · have hput : (placed e.code past (c :: ahead)).take (position e.code past) ++
        c :: (placed e.code past (c :: ahead)).drop (position e.code past) =
        placed e.code (past ++ [c]) ahead := by
      simp [placed, position, heq]
    have moved : position e.code (past ++ [c]) = position e.code past + 1 := by
      simp [position, heq]
    have hcode : (e.visit basics.length c).code = e.code := by
      rw [Encoder.visit, if_neg (by omega), if_pos heq]
    refine ⟨⟨digits ++ numeral e.bias e.passed, e.code, position e.code past + 1, ?_⟩, hcode⟩
    rw [hcode, moved, ← hput]
    exact agrees.insert heq
  · have hvisit : e.visit basics.length c = e := by
      rw [Encoder.visit, if_neg (by omega), if_neg (by omega)]
    have same : placed e.code (past ++ [c]) ahead = placed e.code past (c :: ahead) := by
      simp [placed, hgt, hgt.le]
    have stays : position e.code (past ++ [c]) = position e.code past := by
      simp [position, hgt]
    rw [hvisit]
    refine ⟨⟨digits, code, place, ?_⟩, rfl⟩
    rw [same, stays]
    exact agrees

theorem Halfway.visits {basics : List Char} {e : Encoder} {past ahead : List Char}
    (h : Halfway basics e past ahead) :
    Halfway basics (ahead.foldl (Encoder.visit basics.length) e) (past ++ ahead) [] ∧
      (ahead.foldl (Encoder.visit basics.length) e).code = e.code := by
  induction ahead generalizing e past with
  | nil => exact ⟨by rwa [List.append_nil], rfl⟩
  | cons c ahead ih =>
    obtain ⟨next, hcode⟩ := h.visit
    obtain ⟨last, hcode'⟩ := ih next
    rw [List.append_assoc, List.singleton_append] at last
    exact ⟨last, hcode'.trans hcode⟩

/-- **One level.** The writer goes on to the code point `m` and visits the whole label; no character
    of the label lies between. -/
theorem Halfway.level {basics label : List Char} {e : Encoder} (h : Halfway basics e [] label)
    {m : Nat} (rises : e.code ≤ m) (gap : ∀ c ∈ label, e.code ≤ c.toNat → m ≤ c.toNat) :
    Halfway basics (Encoder.level label basics.length e m) [] label ∧
      (Encoder.level label basics.length e m).code = m + 1 := by
  have same : placed m [] label = placed e.code [] label := by
    refine congrArg _ (List.filter_congr fun c hc => decide_eq_decide.mpr ?_)
    have := gap c hc
    omega
  -- before the visits the writer jumps to the start of the level
  let e' : Encoder := { e with code := m, passed := e.passed + (m - e.code) * (e.written + 1) }
  have start : Halfway basics e' [] label := by
    obtain ⟨digits, code, place, agrees⟩ := h
    refine ⟨digits, code, place, ?_⟩
    have hpassed := agrees.passed
    have jump : m * ((placed e.code [] label).length + 1) =
        e.code * ((placed e.code [] label).length + 1) +
          (m - e.code) * ((placed e.code [] label).length + 1) := by
      rw [← Nat.add_mul, Nat.add_sub_cancel' rises]
    have hzero : ∀ n, position n [] = 0 := fun _ => rfl
    rw [hzero] at agrees hpassed ⊢
    simp only [e', same]
    exact { agrees with passed := by simp only [agrees.written]; omega }
  obtain ⟨⟨digits, code, place, agrees⟩, hcode⟩ := start.visits
  have hlevel : Encoder.level label basics.length e m =
      { label.foldl (Encoder.visit basics.length) e' with
        code := (label.foldl (Encoder.visit basics.length) e').code + 1
        passed := (label.foldl (Encoder.visit basics.length) e').passed + 1 } := rfl
  rw [hlevel]
  generalize label.foldl (Encoder.visit basics.length) e' = last at agrees hcode ⊢
  change last.code = m at hcode
  refine ⟨⟨digits, code, place, ?_⟩, congrArg (· + 1) hcode⟩
  -- after the visits it stands behind all characters, which is the start of the next level
  have below : placed (m + 1) [] label = placed m ([] ++ label) [] := by
    simp [placed]
  have behind : position m ([] ++ label) = (placed m ([] ++ label) []).length := by
    simp [placed, position]
  have hpassed := agrees.passed
  have hzero : position (m + 1) [] = 0 := rfl
  simp only [hcode, behind] at agrees hpassed
  simp only [hcode, below, hzero]
  exact { agrees with
    passed := by simp only [Nat.add_mul]; omega
    inside := Nat.zero_le _ }

theorem Halfway.levels {basics label : List Char} {ms : List Nat} {e : Encoder}
    (h : Halfway basics e [] label) (rising : ms.Pairwise (· < ·)) (low : ∀ m ∈ ms, e.code ≤ m)
    (all : ∀ c ∈ label, e.code ≤ c.toNat → c.toNat ∈ ms) :
    Halfway basics (ms.foldl (Encoder.level label basics.length) e) [] label ∧
      ∀ c ∈ label, c.toNat < (ms.foldl (Encoder.level label basics.length) e).code := by
  induction ms generalizing e with
  | nil =>
    refine ⟨h, fun c hc => ?_⟩
    by_contra hle
    exact List.not_mem_nil (all c hc (Nat.le_of_not_lt hle))
  | cons m ms ih =>
    obtain ⟨above, rising⟩ := List.pairwise_cons.mp rising
    have gap : ∀ c ∈ label, e.code ≤ c.toNat → m ≤ c.toNat := by
      intro c hc hle
      rcases List.mem_cons.mp (all c hc hle) with heq | hmem
      · exact heq.ge
      · exact (above _ hmem).le
    obtain ⟨next, hcode⟩ := h.level (low m List.mem_cons_self) gap
    refine ih next rising (fun n hn => hcode ▸ above n hn) fun c hc hle => ?_
    rw [hcode] at hle
    have := low m List.mem_cons_self
    exact (List.mem_cons.mp (all c hc (by omega))).resolve_left (by omega)

/-! ## 5. Reading back -/

theorem splitLast_opening {basics digits : List Char} (h : '-' ∉ digits) :
    splitLast (opening basics ++ digits) = (basics, digits) := by
  unfold opening
  split
  · rename_i hempty
    rw [List.isEmpty_iff.mp hempty, List.nil_append, splitLast, List.splitOn_eq_singleton h]
    rfl
  · rename_i hne
    rw [List.append_assoc, List.singleton_append, splitLast, List.splitOn_append_cons_self,
      List.splitOn_eq_singleton h]
    simp [List.intercalate_splitOn, hne]

/-- The state in which a writer begins. -/
def Encoder.start (basics : List Char) : Encoder :=
  ⟨0x80, 0, basics.length, startBias, opening basics⟩

theorem encode_eq (label : List Char) :
    encode label = ((levels label).foldl (Encoder.level label (label.filter isAscii).length)
      (Encoder.start (label.filter isAscii))).output := rfl

theorem halfway_start (label : List Char) :
    Halfway (label.filter isAscii) (Encoder.start (label.filter isAscii)) [] label := by
  have ascii : placed 0x80 [] label = label.filter isAscii := rfl
  refine ⟨[], 0x80, 0, ?_⟩
  simp only [Encoder.start, ascii]
  constructor <;> simp [position]

/-- What `encode` writes: the ASCII characters, and digits that insert the other ones. -/
theorem exists_digits (label : List Char) :
    ∃ digits, encode label = opening (label.filter isAscii) ++ digits ∧
      (∀ c ∈ digits, ∃ d < 36, digit d = c) ∧
      insertions (label.filter isAscii) 0x80 0 startBias digits = some label := by
  have high : ∀ m ∈ levels label, 0x80 ≤ m := by
    intro m hm
    obtain ⟨c, -, hc, rfl⟩ := mem_levels.mp hm
    simpa [isAscii] using hc
  have all : ∀ c ∈ label, 0x80 ≤ c.toNat → c.toNat ∈ levels label := fun c hc hle =>
    mem_levels.mpr ⟨c, hc, by simpa [isAscii] using hle, rfl⟩
  obtain ⟨⟨digits, code, place, agrees⟩, below⟩ :=
    (halfway_start label).levels (pairwise_levels label) high all
  have whole : ∀ m, (∀ c ∈ label, c.toNat < m) → placed m [] label = label := fun m hm => by
    simpa [placed] using hm
  rw [whole _ below] at agrees
  refine ⟨digits, (encode_eq label).trans agrees.output, agrees.digits, ?_⟩
  have read := agrees.reads []
  rw [List.append_nil] at read
  rw [read, insertions]

/-- **A Punycode form reads back as its label.** -/
theorem decode?_encode (label : List Char) : decode? (encode label) = some label := by
  obtain ⟨digits, hencode, hdigits, hread⟩ := exists_digits label
  have hyphenless : '-' ∉ digits := fun hm => by
    obtain ⟨d, hd, he⟩ := hdigits _ hm
    exact digit_ne_hyphen d hd he
  have ascii : (label.filter isAscii).all isAscii = true :=
    List.all_eq_true.mpr fun c hc => (List.mem_filter.mp hc).2
  rw [decode?, hencode, splitLast_opening hyphenless]
  simp only [ascii, if_true, hread]

theorem encode_injective : Function.Injective encode := fun a b h =>
  Option.some.inj ((decode?_encode a).symm.trans (h ▸ decode?_encode b))

/-- The characters of a Punycode form. -/
theorem mem_encode {label : List Char} {c : Char} (h : c ∈ encode label) :
    (c ∈ label ∧ isAscii c = true) ∨ c = '-' ∨ ∃ d < 36, digit d = c := by
  obtain ⟨digits, hencode, hdigits, -⟩ := exists_digits label
  rw [hencode, List.mem_append, opening] at h
  rcases h with h | h
  · split at h
    · cases h
    · rcases List.mem_append.mp h with h | h
      · exact .inl (List.mem_filter.mp h)
      · exact .inr (.inl (List.mem_singleton.mp h))
  · exact .inr (.inr (hdigits c h))

theorem isAscii_of_mem_encode {label : List Char} {c : Char} (h : c ∈ encode label) :
    isAscii c = true := by
  rcases mem_encode h with ⟨-, hc⟩ | rfl | ⟨d, hd, rfl⟩
  · exact hc
  · decide
  · exact isAscii_digit d hd

end CrawlGraph.Domain.Punycode
