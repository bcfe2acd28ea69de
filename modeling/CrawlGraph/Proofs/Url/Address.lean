import CrawlGraph.Url.Address
import CrawlGraph.Proofs.Domain.AsciiForm
import Mathlib

/-!
# Addresses read back

The one form in which an address is written is read as the address.

1. Numbers in base sixteen.
2. `ipv4?_ipv4Text`.
3. `ipv6?_ipv6Text`: pieces without a double colon, and the run of zeros that one stands for.
-/

namespace CrawlGraph.Url

open CrawlGraph.Text

/-! ## 1. Hexadecimal numbers -/

theorem hexValue?_digitChar : ∀ d < 16, hexValue? (Nat.digitChar d) = some d := by decide

theorem hexNumber?_append (cs ds : List Char) :
    hexNumber? (cs ++ ds) = (hexNumber? cs).bind fun n =>
      ds.foldlM (fun n c => (hexValue? c).map (16 * n + ·)) n := by
  simp [hexNumber?, List.foldlM_append]

/-- A number in base sixteen reads back. -/
theorem hexNumber?_toDigits (n : Nat) : hexNumber? (Nat.toDigits 16 n) = some n := by
  induction n using Nat.strong_induction_on with
  | _ n ih =>
    rcases Nat.lt_or_ge n 16 with hn | hn
    · rw [Nat.toDigits_of_lt_base hn]
      simp [hexNumber?, hexValue?_digitChar n hn]
    · have hdigit := hexValue?_digitChar (n % 16) (Nat.mod_lt _ (by decide))
      have hsum := Nat.div_add_mod n 16
      rw [Nat.toDigits_of_base_le (by decide) hn, hexNumber?_append, ih _ (by omega)]
      simp [hdigit, hsum]

/-- The characters of a number in base sixteen. -/
theorem mem_toDigits {n : Nat} {c : Char} (h : c ∈ Nat.toDigits 16 n) :
    ∃ d < 16, Nat.digitChar d = c := by
  induction n using Nat.strong_induction_on with
  | _ n ih =>
    rcases Nat.lt_or_ge n 16 with hn | hn
    · rw [Nat.toDigits_of_lt_base hn] at h
      exact ⟨n, hn, (List.mem_singleton.mp h).symm⟩
    · rw [Nat.toDigits_of_base_le (by decide) hn, List.mem_append] at h
      rcases h with h | h
      · exact ih _ (by omega) h
      · exact ⟨n % 16, Nat.mod_lt _ (by decide), (List.mem_singleton.mp h).symm⟩

/-! ## 2. IPv4 -/

theorem addressNumber?_decimal : ∀ n < 256, addressNumber? (decimal n) = some n := by
  decide +kernel

/-- The four bytes of an address, the first one weighing most. -/
def bytesOf (address : Nat) : List Nat := [24, 16, 8, 0].map fun shift => (address >>> shift) % 256

theorem ipv4Text_eq (address : Nat) :
    ipv4Text address = ['.'].intercalate ((bytesOf address).map decimal) := rfl

theorem stop_notMem_decimal (n : Nat) : '.' ∉ decimal n := by
  intro h
  have := isDigit_of_mem_decimal h
  revert this
  decide

/-- The text of an address is digits and full stops. -/
theorem mem_ipv4Text {address : Nat} {c : Char} (h : c ∈ ipv4Text address) :
    c = '.' ∨ c.isDigit = true := by
  rw [ipv4Text_eq] at h
  rcases mem_intercalate h with h | ⟨part, hpart, h⟩
  · exact .inl (List.mem_singleton.mp h)
  · obtain ⟨n, -, rfl⟩ := List.mem_map.mp hpart
    exact .inr (isDigit_of_mem_decimal h)

/-- The parts of the text of an address. -/
theorem nameParts_ipv4Text (address : Nat) :
    nameParts (ipv4Text address) = (bytesOf address).map decimal := by
  have hsplit : (ipv4Text address).splitOn '.' = (bytesOf address).map decimal := by
    rw [ipv4Text_eq]
    refine List.splitOn_intercalate '.' (fun part hpart => ?_) (List.cons_ne_nil _ _)
    obtain ⟨n, -, rfl⟩ := List.mem_map.mp hpart
    exact stop_notMem_decimal n
  have last : ((bytesOf address).map decimal).getLast? ≠ some [] := by
    simp [bytesOf, decimal_ne_nil]
  simp only [nameParts, hsplit, last, and_false, if_false]

theorem lt_of_mem_bytesOf {address n : Nat} (h : n ∈ bytesOf address) : n < 256 := by
  obtain ⟨shift, -, rfl⟩ := List.mem_map.mp h
  exact Nat.mod_lt _ (by decide)

theorem mapM_bytesOf (address : Nat) :
    ((bytesOf address).map decimal).mapM addressNumber? = some (bytesOf address) := by
  rw [mapM_eq_some_iff, List.map_map]
  exact List.map_congr_left fun n hn => addressNumber?_decimal n (lt_of_mem_bytesOf hn)

/-- The bytes of an address are numbers that spell it. -/
theorem ipv4OfNumbers?_bytesOf {address : Nat} (h : address < 2 ^ 32) :
    ipv4OfNumbers? [address >>> 24 % 256, address >>> 16 % 256, address >>> 8 % 256]
      (address % 256) = some address := by
  have bytes : ∀ n ∈ [address >>> 24 % 256, address >>> 16 % 256, address >>> 8 % 256], n < 256 := by
    intro n hn
    simp only [List.mem_cons, List.not_mem_nil, or_false] at hn
    omega
  have sum : (256 * (256 * (256 * 0 + address >>> 24 % 256) + address >>> 16 % 256) +
      address >>> 8 % 256) * 256 + address % 256 = address := by
    simp only [Nat.shiftRight_eq_div_pow]
    omega
  have last : address % 256 < 256 := Nat.mod_lt _ (by decide)
  simp only [ipv4OfNumbers?, List.length_cons, List.length_nil, List.all_eq_true, decide_eq_true_eq]
  rw [if_pos ⟨by decide, bytes, by simpa using last⟩]
  simp only [List.foldl_cons, List.foldl_nil, Nat.shiftLeft_eq]
  exact congrArg some sum

/-- **The text of an IPv4 address reads back.** -/
theorem ipv4?_ipv4Text {address : Nat} (h : address < 2 ^ 32) :
    ipv4? (ipv4Text address) = some address := by
  rw [ipv4?, nameParts_ipv4Text, mapM_bytesOf]
  exact ipv4OfNumbers?_bytesOf h

theorem endsInNumber_ipv4Text (address : Nat) : endsInNumber (ipv4Text address) = true := by
  have last : ((bytesOf address).map decimal).getLast? = some (decimal (address % 256)) := rfl
  have number := addressNumber?_decimal (address % 256) (Nat.mod_lt _ (by decide))
  simp [endsInNumber, nameParts_ipv4Text, last, number]

theorem foldl_lt (leading : List Nat) (h : ∀ n ∈ leading, n < 256) (start bound : Nat)
    (hstart : start < bound) :
    leading.foldl (256 * · + ·) start < bound * 256 ^ leading.length := by
  induction leading generalizing start bound with
  | nil => simpa using hstart
  | cons n leading ih =>
    have hn := h n List.mem_cons_self
    have hstep : 256 * start + n < bound * 256 := by omega
    have := ih (fun m hm => h m (List.mem_cons_of_mem _ hm)) _ _ hstep
    rwa [Nat.mul_assoc, ← Nat.pow_succ'] at this

/-- An address has 32 bits. -/
theorem lt_of_ipv4? {name : List Char} {address : Nat} (h : ipv4? name = some address) :
    address < 2 ^ 32 := by
  obtain ⟨numbers, -, h⟩ := Option.bind_eq_some_iff.mp h
  obtain ⟨last, -, h⟩ := Option.bind_eq_some_iff.mp h
  unfold ipv4OfNumbers? at h
  dsimp only at h
  split at h
  · rename_i bounds
    obtain ⟨short, bytes, hlast⟩ := bounds
    cases h
    have high := foldl_lt numbers.dropLast (by simpa using bytes) 0 1 Nat.one_pos
    rw [Nat.one_mul] at high
    have room : 256 ^ numbers.dropLast.length * 2 ^ (8 * (4 - numbers.dropLast.length)) =
        2 ^ 32 := by
      rw [show 256 = 2 ^ 8 from rfl, ← Nat.pow_mul, ← Nat.pow_add]
      congr 1
      omega
    rw [Nat.shiftLeft_eq, Nat.one_mul] at hlast
    rw [Nat.shiftLeft_eq, ← room]
    calc _ < numbers.dropLast.foldl (256 * · + ·) 0 * 2 ^ (8 * (4 - numbers.dropLast.length)) +
          2 ^ (8 * (4 - numbers.dropLast.length)) := Nat.add_lt_add_left hlast _
      _ = (numbers.dropLast.foldl (256 * · + ·) 0 + 1) *
          2 ^ (8 * (4 - numbers.dropLast.length)) := (Nat.succ_mul _ _).symm
      _ ≤ _ := Nat.mul_le_mul_right _ high
  · cases h

/-! ## 3. IPv6 -/

theorem hexNumber?_lt {cs : List Char} {n : Nat} (h : hexNumber? cs = some n) :
    n < 16 ^ cs.length := by
  have run : ∀ (cs : List Char) (start bound n : Nat), start < bound →
      cs.foldlM (fun n c => (hexValue? c).map (16 * n + ·)) start = some n →
      n < bound * 16 ^ cs.length := by
    intro cs
    induction cs with
    | nil =>
      intro start bound n hstart h
      cases h
      simpa using hstart
    | cons c cs ih =>
      intro start bound n hstart h
      rw [List.foldlM_cons] at h
      obtain ⟨m, hm, h⟩ := Option.bind_eq_some_iff.mp h
      obtain ⟨d, hd, rfl⟩ := Option.map_eq_some_iff.mp hm
      have hdigit := hexValue?_lt hd
      have := ih (16 * start + d) (bound * 16) n (by omega) h
      rwa [Nat.mul_assoc, ← Nat.pow_succ'] at this
  simpa using run cs 0 1 n Nat.one_pos h

theorem lt_of_piece? {cs : List Char} {p : Nat} (h : piece? cs = some p) : p < 2 ^ 16 := by
  unfold piece? at h
  split at h
  · rename_i bounds
    calc p < 16 ^ cs.length := hexNumber?_lt h
      _ ≤ 16 ^ 4 := Nat.pow_le_pow_right (by decide) bounds.2
  · cases h

theorem lt_of_byte? {cs : List Char} {b : Nat} (h : byte? cs = some b) : b < 256 := by
  unfold byte? at h
  split at h
  · cases h
  · simpa using (Option.filter_eq_some_iff.mp h).2

theorem lt_of_embedded? {cs : List Char} {ps : List Nat} (h : embedded? cs = some ps) :
    ∀ p ∈ ps, p < 2 ^ 16 := by
  obtain ⟨bytes, hbytes, h⟩ := Option.bind_eq_some_iff.mp h
  have small : ∀ b ∈ bytes, b < 256 := by
    intro b hb
    have hmem : some b ∈ (cs.splitOn '.').map byte? := by
      rw [map_eq_of_mapM_eq_some hbytes]
      exact List.mem_map_of_mem hb
    obtain ⟨part, -, hpart⟩ := List.mem_map.mp hmem
    exact lt_of_byte? hpart
  split at h
  · cases h
    simp only [List.forall_mem_cons, List.not_mem_nil, false_imp_iff, implies_true,
      and_true] at small ⊢
    omega
  · cases h

theorem lt_of_mapM_piece? {parts : List (List Char)} {ps : List Nat}
    (h : parts.mapM piece? = some ps) : ∀ p ∈ ps, p < 2 ^ 16 := by
  intro p hp
  have hmem : some p ∈ parts.map piece? := by
    rw [map_eq_of_mapM_eq_some h]
    exact List.mem_map_of_mem hp
  obtain ⟨part, -, hpart⟩ := List.mem_map.mp hmem
  exact lt_of_piece? hpart

theorem lt_of_pieces? {isEnd : Bool} {cs : List Char} {ps : List Nat}
    (h : pieces? isEnd cs = some ps) : ∀ p ∈ ps, p < 2 ^ 16 := by
  unfold pieces? at h
  split at h
  · cases h
    simp
  · dsimp only at h
    split at h
    · rename_i tail htail
      obtain ⟨front, hfront, rfl⟩ := Option.map_eq_some_iff.mp h
      intro p hp
      rcases List.mem_append.mp hp with hp | hp
      · exact lt_of_mapM_piece? hfront p hp
      · split at htail
        · obtain ⟨part, -, hembedded⟩ := Option.bind_eq_some_iff.mp htail
          exact lt_of_embedded? hembedded p hp
        · cases htail
    · exact lt_of_mapM_piece? h

/-- Whether pieces make up an address: eight numbers of 16 bits. -/
def IsAddress (pieces : List Nat) : Prop := pieces.length = 8 ∧ ∀ p ∈ pieces, p < 2 ^ 16

/-- What is read is an address. -/
theorem isAddress_of_ipv6? {cs : List Char} {ps : List Nat} (h : ipv6? cs = some ps) :
    IsAddress ps := by
  unfold ipv6? at h
  split at h
  · obtain ⟨h, hlen⟩ := Option.filter_eq_some_iff.mp h
    exact ⟨of_decide_eq_true hlen, lt_of_pieces? h⟩
  · obtain ⟨left, hleft, h⟩ := Option.bind_eq_some_iff.mp h
    obtain ⟨right, hright, h⟩ := Option.bind_eq_some_iff.mp h
    split at h
    · cases h
      refine ⟨by simp; omega, fun p hp => ?_⟩
      rcases List.mem_append.mp hp with hp | hp
      · rcases List.mem_append.mp hp with hp | hp
        · exact lt_of_pieces? hleft p hp
        · rw [(List.mem_replicate.mp hp).2]
          decide
      · exact lt_of_pieces? hright p hp
    · cases h

theorem piece?_toDigits {p : Nat} (h : p < 2 ^ 16) : piece? (Nat.toDigits 16 p) = some p := by
  have short : (Nat.toDigits 16 p).length ≤ 4 := (Nat.length_toDigits_le_iff (by decide) (by decide)).mpr h
  have some' : Nat.toDigits 16 p ≠ [] := List.ne_nil_of_length_pos Nat.length_toDigits_pos
  rw [piece?, if_pos ⟨some', short⟩, hexNumber?_toDigits]

theorem colon_notMem_toDigits (p : Nat) : ':' ∉ Nat.toDigits 16 p := by
  intro h
  obtain ⟨d, hd, hc⟩ := mem_toDigits h
  revert d
  decide

theorem stop_notMem_toDigits (p : Nat) : '.' ∉ Nat.toDigits 16 p := by
  intro h
  obtain ⟨d, hd, hc⟩ := mem_toDigits h
  revert d
  decide

/-- A piece is no IPv4 address. -/
theorem embedded?_toDigits (p : Nat) : embedded? (Nat.toDigits 16 p) = none := by
  have whole : (Nat.toDigits 16 p).splitOn '.' = [Nat.toDigits 16 p] := by
    rw [List.splitOn_eq_splitOnP]
    refine List.splitOnP_eq_singleton fun c hc => beq_eq_false_iff_ne.mpr ?_
    rintro rfl
    exact stop_notMem_toDigits p hc
  rw [embedded?, whole]
  cases h : byte? (Nat.toDigits 16 p) with
  | none => simp [h]
  | some b => simp [h]

theorem mapM_piece?_toDigits {ps : List Nat} (h : ∀ p ∈ ps, p < 2 ^ 16) :
    (ps.map (Nat.toDigits 16)).mapM piece? = some ps := by
  rw [mapM_eq_some_iff, List.map_map]
  exact List.map_congr_left fun p hp => piece?_toDigits (h p hp)

theorem piecesText_cons_cons (p q : Nat) (ps : List Nat) :
    piecesText (p :: q :: ps) = Nat.toDigits 16 p ++ ':' :: piecesText (q :: ps) := by
  simp [piecesText, List.intercalate_cons_cons]

theorem exists_piecesText_cons (p : Nat) (ps : List Nat) :
    ∃ c cs, piecesText (p :: ps) = c :: cs ∧ c ≠ ':' := by
  have hp : Nat.toDigits 16 p ≠ [] := List.ne_nil_of_length_pos Nat.length_toDigits_pos
  obtain ⟨c, digits, hdigits⟩ := List.exists_cons_of_ne_nil hp
  have hc : c ≠ ':' := by
    rintro rfl
    exact colon_notMem_toDigits p (hdigits ▸ List.mem_cons_self)
  cases ps with
  | nil => exact ⟨c, digits, by simp [piecesText, hdigits], hc⟩
  | cons q ps => exact ⟨c, _, by rw [piecesText_cons_cons, hdigits, List.cons_append], hc⟩

/-- The text of pieces reads back. -/
theorem pieces?_piecesText (isEnd : Bool) {ps : List Nat} (h : ∀ p ∈ ps, p < 2 ^ 16) :
    pieces? isEnd (piecesText ps) = some ps := by
  cases ps with
  | nil => rfl
  | cons p ps =>
    have hsplit : (piecesText (p :: ps)).splitOn ':' = (p :: ps).map (Nat.toDigits 16) := by
      refine List.splitOn_intercalate ':' (fun part hpart => ?_) (by simp)
      obtain ⟨q, -, rfl⟩ := List.mem_map.mp hpart
      exact colon_notMem_toDigits q
    have last : ((p :: ps).map (Nat.toDigits 16)).getLast?.bind embedded? = none := by
      rw [List.getLast?_map, List.getLast?_cons, Option.map_some, Option.bind_some]
      exact embedded?_toDigits _
    have whole : (if isEnd then ((p :: ps).map (Nat.toDigits 16)).getLast?.bind embedded? else none) =
        none := by
      rw [last, ite_self]
    have some' : piecesText (p :: ps) ≠ [] := by
      obtain ⟨c, cs, hcs, -⟩ := exists_piecesText_cons p ps
      exact hcs ▸ List.cons_ne_nil c cs
    rw [pieces?, if_neg some', hsplit]
    simp only [whole]
    exact mapM_piece?_toDigits h

/-- Nothing in front of the first colon counts for the search for a double colon. -/
theorem splitDoubleColon?_append {cs : List Char} (h : ':' ∉ cs) (rest : List Char) :
    splitDoubleColon? (cs ++ rest) =
      (splitDoubleColon? rest).map fun (before, after) => (cs ++ before, after) := by
  induction cs with
  | nil => simp
  | cons c cs ih =>
    have hc : c ≠ ':' := fun e => h (e ▸ List.mem_cons_self)
    have hcs : ':' ∉ cs := fun hm => h (List.mem_cons_of_mem _ hm)
    rw [List.cons_append, splitDoubleColon?, ih hcs, Option.map_map]
    · rfl
    · intro rest' e
      exact (hc e).elim

theorem splitDoubleColon?_colon {c : Char} (h : c ≠ ':') (cs : List Char) :
    splitDoubleColon? (':' :: c :: cs) =
      (splitDoubleColon? (c :: cs)).map fun (before, after) => (':' :: before, after) := by
  rw [splitDoubleColon?]
  intro rest _ e
  exact h (List.cons.inj e).1

/-- A text of pieces has no double colon, and neither does it make one with what follows. -/
theorem splitDoubleColon?_piecesText (ps : List Nat) (rest : List Char) :
    splitDoubleColon? (piecesText ps ++ rest) =
      (splitDoubleColon? rest).map fun (before, after) => (piecesText ps ++ before, after) := by
  induction ps with
  | nil => simp [piecesText]
  | cons p ps ih =>
    cases ps with
    | nil => simpa [piecesText] using splitDoubleColon?_append (colon_notMem_toDigits p) rest
    | cons q ps =>
      obtain ⟨c, cs, hcs, hc⟩ := exists_piecesText_cons q ps
      rw [hcs, List.cons_append] at ih
      rw [piecesText_cons_cons, List.append_assoc,
        splitDoubleColon?_append (colon_notMem_toDigits p), List.cons_append, hcs,
        List.cons_append, splitDoubleColon?_colon hc, ih, Option.map_map, Option.map_map]
      simp [Function.comp_def]

/-- The pieces before and after the run of zeros that is left out. -/
theorem splitZeroRun_append {n : Nat} (hn : 0 < n) {ps : List Nat} (h : longestZeroRun ps = n) :
    (splitZeroRun n ps).1 ++ List.replicate n 0 ++ (splitZeroRun n ps).2 = ps := by
  induction ps with
  | nil => exact absurd h (by simp [longestZeroRun]; omega)
  | cons p ps ih =>
    rw [splitZeroRun]
    split
    · rename_i run
      have zeros : (p :: ps).takeWhile (· = 0) = List.replicate n 0 := by
        refine List.eq_replicate_iff.mpr ⟨run, fun q hq => ?_⟩
        exact of_decide_eq_true (List.all_eq_true.mp List.all_takeWhile q hq)
      have tail : (p :: ps).drop n = (p :: ps).dropWhile (· = 0) := by
        conv_lhs => rw [← List.takeWhile_append_dropWhile (p := (· = 0)) (l := p :: ps), zeros]
        simp
      rw [tail, List.nil_append, ← zeros, List.takeWhile_append_dropWhile]
    · rename_i run
      rw [longestZeroRun] at h
      have later : longestZeroRun ps = n := by omega
      simpa using ih later

/-- **The text of an IPv6 address reads back.** -/
theorem ipv6?_ipv6Text {ps : List Nat} (h : IsAddress ps) : ipv6? (ipv6Text ps) = some ps := by
  obtain ⟨hlen, hlt⟩ := h
  unfold ipv6Text
  dsimp only
  split
  · have none' : splitDoubleColon? (piecesText ps) = none := by
      simpa [splitDoubleColon?] using splitDoubleColon?_piecesText ps []
    rw [ipv6?, none']
    simp [pieces?_piecesText true hlt, hlen]
  · rename_i run
    have joined := splitZeroRun_append (by omega) (rfl : longestZeroRun ps = _)
    generalize hsplit : splitZeroRun (longestZeroRun ps) ps = parts at joined
    obtain ⟨before, after⟩ := parts
    have found : splitDoubleColon? (piecesText before ++ ':' :: ':' :: piecesText after) =
        some (piecesText before, piecesText after) := by
      simpa [splitDoubleColon?] using splitDoubleColon?_piecesText before (':' :: ':' :: _)
    have left : pieces? false (piecesText before) = some before :=
      pieces?_piecesText false fun p hp => hlt p (joined ▸ by simp [hp])
    have right : pieces? true (piecesText after) = some after :=
      pieces?_piecesText true fun p hp => hlt p (joined ▸ by simp [hp])
    have room : before.length + longestZeroRun ps + after.length = 8 := by
      rw [← hlen]
      conv_rhs => rw [← joined]
      simp [Nat.add_assoc]
    rw [ipv6?, found]
    simp only [left, right, Option.bind_eq_bind, Option.bind_some]
    rw [if_pos (by omega), show 8 - before.length - after.length = longestZeroRun ps by omega]
    exact congrArg some joined

/-- The text of an address is digits and colons. -/
theorem mem_ipv6Text {ps : List Nat} {c : Char} (h : c ∈ ipv6Text ps) :
    c = ':' ∨ ∃ d < 16, Nat.digitChar d = c := by
  have inPieces : ∀ {qs : List Nat}, c ∈ piecesText qs → c = ':' ∨ ∃ d < 16, Nat.digitChar d = c := by
    intro qs hc
    rcases mem_intercalate hc with hc | ⟨part, hpart, hc⟩
    · exact .inl (List.mem_singleton.mp hc)
    · obtain ⟨q, -, rfl⟩ := List.mem_map.mp hpart
      exact .inr (mem_toDigits hc)
  unfold ipv6Text at h
  dsimp only at h
  split at h
  · exact inPieces h
  · rcases List.mem_append.mp h with h | h
    · exact inPieces h
    · simp only [List.mem_cons] at h
      rcases h with h | h | h
      · exact .inl h
      · exact .inl h
      · exact inPieces h

end CrawlGraph.Url
