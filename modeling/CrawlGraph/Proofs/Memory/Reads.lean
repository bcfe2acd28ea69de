import CrawlGraph.Proofs.Contract.Ledger
import CrawlGraph.Proofs.Memory.Lawful

/-!
# What reading the store in memory gives

The store in memory answers from indices that were changed piece by piece. This module compares it
with the ledger of all that happened to it.

1. Sizes: an index has as many entries as there are records.
2. `read_back_of_course`: after any calls from the empty graph, reading gives what the ledger says,
   and the two counts are those of the ledger.
-/

namespace CrawlGraph.Memory

/-! ## 1. Sizes -/

/-- The records of an index in which each one stands under its own identifier are distinct. -/
theorem nodup_values {β : Type} {t : Std.TreeMap Ident β} {key : β → Ident}
    (h : ∀ (id : Ident) (b : β), t[id]? = some b → key b = id) : (t.toList.map (·.2)).Nodup := by
  rw [List.Nodup, List.pairwise_map]
  refine Std.TreeMap.ordered_keys_toList.imp_of_mem fun {a b} ha hb hlt he => ?_
  have hab : a.1 < b.1 := ident_lt_of_compare hlt
  rw [← h _ _ (Std.TreeMap.mem_toList_iff_getElem?_eq_some.mp ha),
    ← h _ _ (Std.TreeMap.mem_toList_iff_getElem?_eq_some.mp hb), he] at hab
  exact Nat.lt_irrefl _ hab

/-- An index has as many entries as a list that holds the same records once each. -/
theorem size_eq_length {β : Type} {t : Std.TreeMap Ident β} {key : β → Ident} {records : List β}
    (h : ∀ (id : Ident) (b : β), t[id]? = some b → key b = id) (nodup : records.Nodup)
    (mem : ∀ b, b ∈ records ↔ ∃ id : Ident, t[id]? = some b) : t.size = records.length := by
  have hperm : (t.toList.map (·.2)).Perm records := by
    refine (List.perm_ext_iff_of_nodup (nodup_values h) nodup).mpr fun b => ?_
    rw [mem, List.mem_map]
    constructor
    · intro hb
      obtain ⟨e, he, rfl⟩ := hb
      exact ⟨e.1, Std.TreeMap.mem_toList_iff_getElem?_eq_some.mp he⟩
    · intro hb
      obtain ⟨id, hid⟩ := hb
      exact ⟨(id, b), Std.TreeMap.mem_toList_iff_getElem?_eq_some.mpr hid, rfl⟩
  rw [← Std.TreeMap.length_toList, ← hperm.length_eq, List.length_map]

variable {m : Memory} {l : Ledger}

theorem linkCount_eq_length (hv : m.Valid) (h : l.Tells m.content) :
    m.linkCount = l.links.length := by
  refine size_eq_length (fun id link hl => (hv.link_key id link hl).2) h.link_ids.of_map
    fun link => ?_
  rw [← Ledger.mem_links, h.content]
  exact mem_content_links

theorem edgeCount_eq_length (hv : m.Valid) (h : l.Tells m.content) :
    m.edgeCount = l.edges.length := by
  refine size_eq_length (fun id edge he => (hv.edge_key id edge he).2) h.edge_ids.of_map
    fun edge => ?_
  have hmem : edge ∈ l.edges ↔ edge ∈ m.content.edgesFrom edge.src := by
    rw [← h.content, Ledger.mem_edgesFrom]
    simp only [and_true]
  rw [hmem, mem_content_edges hv]
  constructor
  · intro he
    exact ⟨edge.id, he.1⟩
  · intro he
    obtain ⟨id, he⟩ := he
    exact ⟨by rwa [(hv.edge_key _ _ he).2], rfl⟩

/-! ## 2. Every past -/

/-- **Reading tells the whole past.** After any calls from the empty graph, reading gives what the
    ledger of these calls says, and the graph counts the links and edges of the ledger. -/
theorem read_back_of_course (supply : Supply) (past : List (Moment Memory)) (s : Session Memory)
    (h : Session.Course ⟨empty, supply⟩ past s) :
    (Ledger.ofPast past).ReadBack s ∧
      s.store.linkCount = (Ledger.ofPast past).links.length ∧
      s.store.edgeCount = (Ledger.ofPast past).edges.length := by
  have hv : LawfulStore.Valid s.store := LawfulStore.valid_of_reached h.reached
  have tells : (Ledger.ofPast past).Tells s.store.content := Ledger.tells_of_course h
  exact ⟨Ledger.Tells.readBack hv tells, linkCount_eq_length hv tells, edgeCount_eq_length hv tells⟩

/-- A page is stored again with an earlier time, and a hyperlink is pruned and comes back: it is
    the last one that was created then, and bears another identifier. -/
theorem read_back_of_recreated :
    let first : Session Memory := ⟨empty, .counting⟩
    let a : Ident := .ofNat 1
    let b : Ident := .ofNat 2
    let calls : List Call := [.upsertLink (.unstored "http://a/" 3),
      .upsertLink (.unstored "http://b/" 0), .upsertEdge (.unstored a b),
      .upsertEdge (.unstored b a), .removeStaleEdges a 1, .upsertEdge (.unstored a b),
      .upsertLink (.unstored "http://a/" 1)]
    let past := first.moments calls
    let s := first.afterAll calls
    first.Course past s ∧
      Ledger.ofPast past = ⟨[⟨a, "http://a/", 3⟩, ⟨b, "http://b/", 0⟩],
        [⟨.ofNat 4, b, a, 1⟩, ⟨.ofNat 5, a, b, 2⟩]⟩ ∧
      (Ledger.ofPast past).ReadBack s ∧
      s.answer (.edges .nil .max 9) =
        .ok (.edges [⟨.ofNat 5, a, b, 2⟩, ⟨.ofNat 4, b, a, 1⟩]) := by
  intro first a b calls past s
  have course : first.Course past s := Session.course_moments first calls
  have hledger : Ledger.ofPast past = ⟨[⟨a, "http://a/", 3⟩, ⟨b, "http://b/", 0⟩],
      [⟨.ofNat 4, b, a, 1⟩, ⟨.ofNat 5, a, b, 2⟩]⟩ := by
    decide +kernel
  have hedges : (s.answer (.edges .nil .max 9)).toOption =
      some (.edges [⟨.ofNat 5, a, b, 2⟩, ⟨.ofNat 4, b, a, 1⟩]) := by
    decide +kernel
  exact ⟨course, hledger, (read_back_of_course .counting past s course).1,
    eq_ok_of_toOption hedges⟩

end CrawlGraph.Memory
