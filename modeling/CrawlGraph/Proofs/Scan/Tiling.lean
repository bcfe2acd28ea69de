import CrawlGraph.Proofs.Backends
import CrawlGraph.Proofs.Partition

/-!
# A scan misses nothing and counts nothing twice

However the identifier space is cut, the extents together hold what the whole space holds. This is
so for every store in memory, valid or not, and for tables with any rows.

1. `Tiled`, a reading that may be cut into ranges, and its parts over a partition.
2. Both kinds of store read in that way.
3. What a scan answers, in terms of what it reads in the extents.
4. `scan_independent_of_count`.
-/

namespace CrawlGraph.Scan

variable {α : Type}

/-! ## 1. Readings in parts -/

/-- **A reading of ranges that may be cut anywhere**: it succeeds where it succeeds on both sides of
    the cut, and gives what both sides give. -/
def Tiled (read : Ident → Ident → Option (List α)) : Prop :=
  ∀ a b c : Ident, a ≤ b → b ≤ c →
    read a c = (read a b).bind fun front => (read b c).map fun rest => front ++ rest

/-- A range may be read in all the extents that rising bounds cut it into. -/
theorem Tiled.read_bounds {read : Ident → Ident → Option (List α)} (h : Tiled read) {stop : Ident}
    (bounds : List Ident) (start : Ident) (last : bounds.getLast? = some stop)
    (rising : (start :: bounds).Pairwise (· < ·)) :
    read start stop =
      (((start :: bounds).zip bounds).mapM fun e => read e.1 e.2).map List.flatten := by
  induction bounds generalizing start with
  | nil => cases last
  | cons b bounds ih =>
    have first : ((start :: b :: bounds).zip (b :: bounds)).mapM (fun e => read e.1 e.2) =
        (read start b).bind fun front =>
          (((b :: bounds).zip bounds).mapM fun e => read e.1 e.2).map (front :: ·) := by
      rw [List.zip_cons_cons, List.mapM_cons]
      simp only [Option.map_eq_bind]
      rfl
    rw [first]
    cases bounds with
    | nil =>
      have hb : b = stop := Option.some.inj last
      subst hb
      cases read start b <;> simp
    | cons b' bounds =>
      have last : (b' :: bounds).getLast? = some stop := by
        rwa [List.getLast?_cons_cons] at last
      obtain ⟨hstart, hrising⟩ := List.pairwise_cons.mp rising
      have hb : b ≤ stop := Nat.le_of_lt ((List.pairwise_cons.mp hrising).1 stop
        (List.mem_of_getLast? last))
      rw [h start b stop (Nat.le_of_lt (hstart b List.mem_cons_self)) hb, ih b last hrising]
      cases read start b with
      | none => rfl
      | some front =>
        rw [Option.bind_some, Option.bind_some, Option.map_map, Option.map_map]
        rfl

theorem Tiled.read_partition {read : Ident → Ident → Option (List α)} (h : Tiled read)
    {p : Partition} {start stop : Ident} {count : Nat} (cuts : p.Cuts start stop count) :
    read start stop = (p.extents.mapM fun e => read e.1 e.2).map List.flatten := by
  rw [h.read_bounds p.bounds start cuts.last cuts.rising, ← cuts.start_eq, Partition.extents]

/-! ## 2. Both kinds of store -/

/-- A reading that never fails may be cut if its lists are joined at the cut. -/
theorem tiled_of_append {list : Ident → Ident → List α}
    (append : ∀ {a b c : Ident}, a ≤ b → b ≤ c → list a c = list a b ++ list b c) :
    Tiled fun start stop => some (list start stop) := by
  intro a b c hab hbc
  simp only [append hab hbc]
  rfl

/-- A reading of the rows of a table may be cut if the rows are joined at the cut: a row that is no
    record makes the reading fail in one of the parts too. -/
theorem tiled_of_rows {ρ : Type} {rowsIn : List ρ → Ident → Ident → List ρ}
    (append : ∀ (rows : List ρ) {a b c : Ident}, a ≤ b → b ≤ c →
      rowsIn rows a c = rowsIn rows a b ++ rowsIn rows b c)
    (record? : ρ → Option α) (table : Option (List ρ)) :
    Tiled fun start stop => table.bind fun rows => (rowsIn rows start stop).mapM record? := by
  intro a b c hab hbc
  cases table with
  | none => rfl
  | some rows =>
    simp only [Option.bind_some, append rows hab hbc, List.mapM_append, Option.map_eq_bind]
    rfl

theorem tiled_linksIn {b : Backend} (store : b.Store) (before : Stamp) :
    Tiled fun start stop => (linksIn store start stop before).toOption := by
  cases b with
  | memory =>
    simp only [Memory.linksIn_eq]
    exact tiled_of_append fun hab hbc => Memory.linkList_append store hab hbc before
  | tables =>
    simp only [Tables.toOption_linksIn]
    exact tiled_of_rows (fun rows _ _ _ hab hbc => Tables.linkRows_append rows hab hbc before) _ _

theorem tiled_edgesIn {b : Backend} (store : b.Store) (before : Stamp) :
    Tiled fun start stop => (edgesIn store start stop before).toOption := by
  cases b with
  | memory =>
    simp only [Memory.edgesIn_eq]
    exact tiled_of_append fun hab hbc => Memory.edgeList_append store hab hbc before
  | tables =>
    simp only [Tables.toOption_edgesIn]
    exact tiled_of_rows (fun rows _ _ _ hab hbc => Tables.edgeRows_append rows hab hbc before) _ _

/-! ## 3. Extents one after another -/

section

variable {σ : Type} [LinkStore σ] {store : σ} {before : Stamp} {index : Nat}
  {extent : Ident × Ident}

theorem scanExtent_eq_ok {stats : ExtentStats}
    (h : scanExtent store before index extent = .ok stats) :
    ∃ links edges, linksIn store extent.1 extent.2 before = .ok links ∧
      edgesIn store extent.1 extent.2 before = .ok edges ∧
      stats = ⟨index, extent.1, extent.2, links.length, edges.length⟩ := by
  unfold scanExtent at h
  cases hl : linksIn store extent.1 extent.2 before with
  | error e =>
    rw [hl] at h
    cases h
  | ok links =>
    cases he : edgesIn store extent.1 extent.2 before with
    | error e =>
      rw [hl, he] at h
      cases h
    | ok edges =>
      rw [hl, he] at h
      cases h
      exact ⟨links, edges, rfl, rfl, rfl⟩

/-- Links are read before edges, so their error is the one that counts. -/
theorem scanExtent_eq_error {e : StoreError}
    (h : scanExtent store before index extent = .error e) :
    linksIn store extent.1 extent.2 before = .error e ∨
      (∃ links, linksIn store extent.1 extent.2 before = .ok links) ∧
        edgesIn store extent.1 extent.2 before = .error e := by
  unfold scanExtent at h
  cases hl : linksIn store extent.1 extent.2 before with
  | error e' =>
    rw [hl] at h
    cases h
    exact .inl rfl
  | ok links =>
    cases he : edgesIn store extent.1 extent.2 before with
    | error e' =>
      rw [hl, he] at h
      cases h
      exact .inr ⟨⟨links, rfl⟩, rfl⟩
    | ok edges =>
      rw [hl, he] at h
      cases h

/-- **What a scan reports that succeeds**: one entry for each extent, with the numbers of what was
    read there. What is read in the extents, one after the other, is what the whole space holds. -/
structure Reported (store : σ) (before : Stamp) (p : Partition) (stats : List ExtentStats)
    (links : List (List Link)) (edges : List (List Edge)) : Prop where
  stats_length : stats.length = p.count
  links_length : links.length = p.count
  edges_length : edges.length = p.count
  entry : ∀ i < p.count, ∃ extent here leaving, p.extent i = .ok extent ∧
    links[i]? = some here ∧ edges[i]? = some leaving ∧
    linksIn store extent.1 extent.2 before = .ok here ∧
    edgesIn store extent.1 extent.2 before = .ok leaving ∧
    stats[i]? = some ⟨i, extent.1, extent.2, here.length, leaving.length⟩
  links_flatten : linksIn store .nil .max before = .ok links.flatten
  edges_flatten : edgesIn store .nil .max before = .ok edges.flatten
  links_sum : (stats.map (·.links)).sum = links.flatten.length
  edges_sum : (stats.map (·.edges)).sum = edges.flatten.length

/-- **Why a scan fails**: an extent cannot be read, and all those before it can. -/
structure FirstFault (store : σ) (before : Stamp) (p : Partition) (e : StoreError) (index : Nat) :
    Prop where
  earlier : ∀ i < index, ∃ extent links edges, p.extent i = .ok extent ∧
    linksIn store extent.1 extent.2 before = .ok links ∧
    edgesIn store extent.1 extent.2 before = .ok edges
  fault : ∃ extent, p.extent index = .ok extent ∧
    (linksIn store extent.1 extent.2 before = .error e ∨
      (∃ links, linksIn store extent.1 extent.2 before = .ok links) ∧
        edgesIn store extent.1 extent.2 before = .error e)

variable {p : Partition} {count : Nat}

/-- What is read in every extent, one after the other. -/
theorem exists_parts {read : Ident → Ident → Except StoreError (List α)}
    (tiled : Tiled fun start stop => (read start stop).toOption) (cuts : p.Cuts .nil .max count)
    (h : ∀ e ∈ p.extents, ∃ part, read e.1 e.2 = .ok part) :
    ∃ parts, p.extents.mapM (fun e => read e.1 e.2) = .ok parts ∧
      read .nil .max = .ok parts.flatten := by
  obtain ⟨parts, hparts⟩ := exists_mapM_of_forall h
  refine ⟨parts, hparts, eq_ok_of_toOption ?_⟩
  rw [tiled.read_partition cuts, ← toOption_mapM, hparts]
  rfl

/-- If the whole space can be read, then each extent can. -/
theorem exists_part_of_whole {read : Ident → Ident → Except StoreError (List α)}
    (tiled : Tiled fun start stop => (read start stop).toOption) (cuts : p.Cuts .nil .max count)
    {all : List α} (h : read .nil .max = .ok all) :
    ∀ e ∈ p.extents, ∃ part, read e.1 e.2 = .ok part := by
  have hall := tiled.read_partition cuts
  rw [h, ← toOption_mapM] at hall
  obtain ⟨parts, hparts, -⟩ := Option.map_eq_some_iff.mp hall.symm
  have hparts := forall₂_of_mapM_eq_ok (eq_ok_of_toOption hparts)
  intro e he
  obtain ⟨i, hi⟩ := List.getElem?_of_mem he
  obtain ⟨part, -, hpart⟩ := exists_of_forall₂ hparts hi
  exact ⟨part, hpart⟩

theorem scanPartition_entry {stats : List ExtentStats}
    (h : scanPartition store before p = .ok stats) (hi : p.extents[index]? = some extent) :
    ∃ entry, stats[index]? = some entry ∧ scanExtent store before index extent = .ok entry := by
  exact exists_of_forall₂ (forall₂_of_mapM_eq_ok h) (a := (extent, index))
    (getElem?_zipIdx_iff.mpr ⟨hi, rfl⟩)

/-- A partition is scanned if each of its extents can be read. -/
theorem exists_scanPartition
    (links : ∀ e ∈ p.extents, ∃ part, linksIn store e.1 e.2 before = .ok part)
    (edges : ∀ e ∈ p.extents, ∃ part, edgesIn store e.1 e.2 before = .ok part) :
    ∃ stats, scanPartition store before p = .ok stats := by
  refine exists_mapM_of_forall fun ⟨e, i⟩ he => ?_
  have he : e ∈ p.extents := by
    rw [← List.zipIdx_map_fst 0 p.extents]
    exact List.mem_map_of_mem he
  obtain ⟨here, hl⟩ := links e he
  obtain ⟨leaving, hk⟩ := edges e he
  refine ⟨⟨i, e.1, e.2, here.length, leaving.length⟩, ?_⟩
  simp only [scanExtent, hl, hk]
  rfl

theorem parts_of_scanPartition {stats : List ExtentStats}
    (h : scanPartition store before p = .ok stats) :
    ∀ e ∈ p.extents, (∃ part, linksIn store e.1 e.2 before = .ok part) ∧
      ∃ part, edgesIn store e.1 e.2 before = .ok part := by
  intro e he
  obtain ⟨i, hi⟩ := List.getElem?_of_mem he
  obtain ⟨entry, -, hentry⟩ := scanPartition_entry h hi
  obtain ⟨here, leaving, hl, hk, -⟩ := scanExtent_eq_ok hentry
  exact ⟨⟨here, hl⟩, ⟨leaving, hk⟩⟩

theorem firstFault_of_scanPartition {e : StoreError}
    (h : scanPartition store before p = .error e) :
    ∃ i < p.count, FirstFault store before p e i := by
  obtain ⟨i, ⟨extent, index⟩, hi, hfault, hearlier⟩ := exists_of_mapM_eq_error h
  obtain ⟨hextent, rfl⟩ := getElem?_zipIdx_iff.mp hi
  have hlt : i < p.count := by
    rw [← Partition.length_extents]
    exact (List.getElem?_eq_some_iff.mp hextent).1
  refine ⟨i, hlt, fun j hj => ?_, extent, Partition.extent_eq_ok_iff.mpr hextent,
    scanExtent_eq_error hfault⟩
  have hextent' := List.getElem?_eq_getElem (p.length_extents.symm ▸ Nat.lt_trans hj hlt)
  obtain ⟨entry, hentry⟩ := hearlier j hj (_, j) (getElem?_zipIdx_iff.mpr ⟨hextent', rfl⟩)
  obtain ⟨links, edges, hl, hk, -⟩ := scanExtent_eq_ok hentry
  exact ⟨_, links, edges, Partition.extent_eq_ok_iff.mpr hextent', hl, hk⟩

variable (linksTiled : Tiled fun start stop => (linksIn store start stop before).toOption)
  (edgesTiled : Tiled fun start stop => (edgesIn store start stop before).toOption)
  (cuts : p.Cuts .nil .max count)

include linksTiled edgesTiled cuts

theorem scanPartition_succeeds_iff :
    (∃ stats, scanPartition store before p = .ok stats) ↔
      (∃ links, linksIn store .nil .max before = .ok links) ∧
        ∃ edges, edgesIn store .nil .max before = .ok edges := by
  constructor
  · intro h
    obtain ⟨stats, h⟩ := h
    have parts := parts_of_scanPartition h
    obtain ⟨links, -, hlinks⟩ := exists_parts linksTiled cuts fun e he => (parts e he).1
    obtain ⟨edges, -, hedges⟩ := exists_parts edgesTiled cuts fun e he => (parts e he).2
    exact ⟨⟨_, hlinks⟩, ⟨_, hedges⟩⟩
  · intro h
    obtain ⟨⟨links, hlinks⟩, ⟨edges, hedges⟩⟩ := h
    exact exists_scanPartition (exists_part_of_whole linksTiled cuts hlinks)
      (exists_part_of_whole edgesTiled cuts hedges)

theorem reported_of_scanPartition {stats : List ExtentStats}
    (h : scanPartition store before p = .ok stats) :
    ∃ links edges, Reported store before p stats links edges := by
  have parts := parts_of_scanPartition h
  obtain ⟨links, hlinks, hall⟩ := exists_parts linksTiled cuts fun e he => (parts e he).1
  obtain ⟨edges, hedges, kall⟩ := exists_parts edgesTiled cuts fun e he => (parts e he).2
  have hlinks := forall₂_of_mapM_eq_ok hlinks
  have hedges := forall₂_of_mapM_eq_ok hedges
  have hstats : stats.length = p.count := by
    have := (forall₂_of_mapM_eq_ok h).length_eq
    simpa using this.symm
  have hentry : ∀ i < p.count, ∃ extent here leaving, p.extent i = .ok extent ∧
      links[i]? = some here ∧ edges[i]? = some leaving ∧
      linksIn store extent.1 extent.2 before = .ok here ∧
      edgesIn store extent.1 extent.2 before = .ok leaving ∧
      stats[i]? = some ⟨i, extent.1, extent.2, here.length, leaving.length⟩ := by
    intro i hi
    have hextent := List.getElem?_eq_getElem (p.length_extents.symm ▸ hi)
    obtain ⟨here, hhere, hl⟩ := exists_of_forall₂ hlinks hextent
    obtain ⟨leaving, hleaving, hk⟩ := exists_of_forall₂ hedges hextent
    obtain ⟨entry, hstat, hentry⟩ := scanPartition_entry h hextent
    obtain ⟨here', leaving', hl', hk', rfl⟩ := scanExtent_eq_ok hentry
    cases hl.symm.trans hl'
    cases hk.symm.trans hk'
    exact ⟨_, here, leaving, Partition.extent_eq_ok_iff.mpr hextent, hhere, hleaving, hl, hk,
      hstat⟩
  have llength : links.length = p.count := by rw [← hlinks.length_eq, Partition.length_extents]
  have klength : edges.length = p.count := by rw [← hedges.length_eq, Partition.length_extents]
  refine ⟨links, edges, hstats, llength, klength, hentry, hall, kall, ?_, ?_⟩
  · rw [List.length_flatten]
    refine congrArg List.sum (map_eq_map_of_getElem? (hstats.trans llength.symm) fun i hi => ?_)
    obtain ⟨_, here, _, _, hhere, _, _, _, hstat⟩ := hentry i (hstats ▸ hi)
    exact ⟨_, here, hstat, hhere, rfl⟩
  · rw [List.length_flatten]
    refine congrArg List.sum (map_eq_map_of_getElem? (hstats.trans klength.symm) fun i hi => ?_)
    obtain ⟨_, _, leaving, _, _, hleaving, _, _, hstat⟩ := hentry i (hstats ▸ hi)
    exact ⟨_, leaving, hstat, hleaving, rfl⟩

end

/-! ## 4. The whole space -/

theorem scan_eq {σ : Type} [LinkStore σ] (store : σ) (before : Stamp) {p : Partition} {count : Nat}
    (h : Partition.whole count = .ok p) :
    scan store count before = (scanPartition store before p).mapError .store := by
  rw [scan, h]

/-- **The outcome of a scan does not depend on the number of extents.** It succeeds just if all
    links and all edges can be read at once, and then its entries account for all of them;
    otherwise it gives the first error on the way through the extents. -/
theorem scan_independent_of_count (b : Backend) (store : b.Store) (before : Stamp) (count : Nat)
    (pos : 0 < count) (small : count < UInt64.size) :
    ∃ p, Partition.whole count = .ok p ∧ p.count = count ∧
      ((∃ stats, scan store count before = .ok stats) ↔
        (∃ links, linksIn store .nil .max before = .ok links) ∧
          ∃ edges, edgesIn store .nil .max before = .ok edges) ∧
      (∀ stats, scan store count before = .ok stats →
        ∃ links edges, Reported store before p stats links edges) ∧
      ∀ e, scan store count before = .error e →
        ∃ fault, e = .store fault ∧ ∃ i < count, FirstFault store before p fault i := by
  obtain ⟨p, hp⟩ := Partition.exists_whole pos small
  have cuts := Partition.cuts_of_ofRange hp
  have linksTiled := tiled_linksIn store before
  have edgesTiled := tiled_edgesIn store before
  rw [scan_eq store before hp]
  refine ⟨p, hp, cuts.count_eq, ?_⟩
  cases hscan : scanPartition store before p with
  | ok stats =>
    refine ⟨?_, ?_, ?_⟩
    · rw [← scanPartition_succeeds_iff linksTiled edgesTiled cuts, hscan]
      exact ⟨fun _ => ⟨_, rfl⟩, fun _ => ⟨_, rfl⟩⟩
    · intro _ h
      cases h
      exact reported_of_scanPartition linksTiled edgesTiled cuts hscan
    · intro _ h
      cases h
  | error e =>
    refine ⟨?_, ?_, ?_⟩
    · rw [← scanPartition_succeeds_iff linksTiled edgesTiled cuts, hscan]
      constructor <;> rintro ⟨_, ⟨⟩⟩
    · intro _ h
      cases h
    · intro _ h
      cases h
      obtain ⟨i, hi, hfault⟩ := firstFault_of_scanPartition hscan
      exact ⟨e, rfl, i, cuts.count_eq ▸ hi, hfault⟩

/-- A link whose identifier is none, and an edge without any: a scan in three extents fails, as the
    reading of all links does. -/
theorem scan_independent_of_count_undecodable :
    let store : Tables := ⟨some [⟨"5-is-no-identifier", "http://a/", .int 0⟩],
      some [⟨1, .null, (Ident.ofNat 1).text, (Ident.ofNat 2).text, .int 0⟩]⟩
    (¬∃ stats, scan store 3 9 = .ok stats) ∧
      ∃ p, Partition.whole 3 = .ok p ∧ p.count = 3 ∧
        ∀ e, scan store 3 9 = .error e →
          ∃ fault, e = .store fault ∧ ∃ i < 3, FirstFault store 9 p fault i := by
  intro store
  obtain ⟨p, hp, hcount, hiff, -, hfault⟩ :=
    scan_independent_of_count .tables store 9 3 (by decide) (by decide)
  refine ⟨?_, p, hp, hcount, hfault⟩
  rw [hiff]
  intro h
  obtain ⟨⟨links, h⟩, -⟩ := h
  have hnone : (linksIn store .nil .max 9).toOption = none := by decide +kernel
  rw [show linksIn store .nil .max 9 = .ok links from h] at hnone
  cases hnone

end CrawlGraph.Scan
