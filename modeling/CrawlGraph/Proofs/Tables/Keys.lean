import CrawlGraph.Proofs.Results
import CrawlGraph.Proofs.Tables.Ending

/-!
# The keys of tables

Tables may hold any rows, but no identifier, URL or pair stands in two rows of one table: the tables
themselves refuse such a row, wherever it comes from. Only rows without any identifier may be many.
This module proves it of everything that can be done to tables.

1. `Keyed`, and that the statements of upserts keep it.
2. `keyed_of_reached`, the same for all calls.
-/

namespace CrawlGraph

namespace Tables

variable {t : Tables}

/-! ## 1. Keys -/

/-- Whether no two values are the same, other than those that stand for none. -/
def Unique (keys : List Stored) : Prop := keys.Pairwise fun a b => a = b → a = .null

instance (keys : List Stored) : Decidable (Unique keys) :=
  inferInstanceAs (Decidable (keys.Pairwise _))

/-- **What the tables themselves see to**: no identifier, URL or pair stands in two rows. -/
structure Keyed (t : Tables) : Prop where
  link_ids : Unique ((t.links.getD []).map (·.id))
  urls : ((t.links.getD []).map (·.url)).Nodup
  edge_ids : Unique ((t.edges.getD []).map (·.id))
  pairs : ((t.edges.getD []).map fun row => (row.src, row.dst)).Nodup

/-- Identifiers stay unique with one more row that has an identifier of its own. -/
theorem unique_append {ρ : Type} {key : ρ → Stored} {rows : List ρ} {row : ρ}
    (h : Unique (rows.map key)) (new : ∀ r ∈ rows, key r ≠ key row) :
    Unique ((rows ++ [row]).map key) := by
  rw [List.map_append, List.map_singleton, Unique, List.pairwise_append]
  refine ⟨h, List.pairwise_singleton _ _, fun a ha b hb same => ?_⟩
  obtain ⟨r, hr, rfl⟩ := List.mem_map.mp ha
  rw [List.mem_singleton.mp hb] at same
  exact absurd same (new r hr)

/-- Keys stay unique with one more row that has a key of its own. -/
theorem nodup_map_append {ρ κ : Type} {key : ρ → κ} {rows : List ρ} {row : ρ}
    (h : (rows.map key).Nodup) (new : ∀ r ∈ rows, key r ≠ key row) :
    ((rows ++ [row]).map key).Nodup := by
  rw [List.map_append, List.map_singleton, List.nodup_append]
  refine ⟨h, List.nodup_singleton _, fun a ha b hb => ?_⟩
  obtain ⟨r, hr, rfl⟩ := List.mem_map.mp ha
  rw [List.mem_singleton.mp hb]
  exact new r hr

/-- A new time leaves the keys of rows as they are. -/
theorem map_setRetrieved {κ : Type} {key : LinkRow → κ}
    (hkey : ∀ row time, key { row with retrievedAt := time } = key row) (rows : List LinkRow)
    (url : String) (time : Stored) : (setRetrieved rows url time).map key = rows.map key :=
  map_replace key fun row _ _ => hkey row time

theorem map_setUpdated {κ : Type} {key : EdgeRow → κ}
    (hkey : ∀ row time, key { row with updatedAt := time } = key row) (rows : List EdgeRow)
    (src dst : String) (time : Stored) : (setUpdated rows src dst time).map key = rows.map key :=
  map_replace key fun row _ _ => hkey row time

theorem Keyed.writeLink (h : t.Keyed) {link : Link} {id : Ident}
    (free : ¬blocksLink link t id = true) {t' : Tables} {row : Stored × Stored}
    (hw : t.writeLink id link = .ok (t', row)) : t'.Keyed := by
  obtain ⟨links, edges⟩ := t
  obtain ⟨link_ids, urls, edge_ids, pairs⟩ := h
  cases links with
  | none => cases hw
  | some rows =>
    simp only [Tables.writeLink] at hw
    split at hw
    · cases hw
      refine ⟨?_, ?_, edge_ids, pairs⟩
      · exact (congrArg Unique (map_setRetrieved (fun _ _ => rfl) ..)).mpr link_ids
      · exact (congrArg List.Nodup (map_setRetrieved (fun _ _ => rfl) ..)).mpr urls
    · rename_i hfind
      cases hw
      have new : ∀ row ∈ rows, row.url ≠ .ofString link.url := by
        simpa using List.find?_eq_none.mp hfind
      -- A taken identifier is let through only for a known URL, and then no row comes in.
      have unused : (∀ row ∈ rows, row.url ≠ .ofString link.url) →
          ∀ row ∈ rows, row.id ≠ .ofString id.text := by
        simpa [blocksLink, knowsUrl, hasLink] using free
      exact ⟨unique_append link_ids (unused new), nodup_map_append urls new, edge_ids, pairs⟩

theorem Keyed.writeEdge (h : t.Keyed) {edge : Edge} {id : Ident} {now : Stamp}
    (free : ¬blocksEdge edge t id = true) {t' : Tables} {row : Stored × Stored}
    (hw : t.writeEdge id now edge = .ok (t', row)) : t'.Keyed := by
  obtain ⟨links, edges⟩ := t
  obtain ⟨link_ids, urls, edge_ids, pairs⟩ := h
  cases edges with
  | none => cases hw
  | some rows =>
    simp only [Tables.writeEdge] at hw
    split at hw
    · cases hw
    · rename_i present
      split at hw
      · cases hw
        refine ⟨link_ids, urls, ?_, ?_⟩
        · exact (congrArg Unique (map_setUpdated (fun _ _ => rfl) ..)).mpr edge_ids
        · exact (congrArg List.Nodup (map_setUpdated (fun _ _ => rfl) ..)).mpr pairs
      · rename_i hfind
        split at hw
        · cases hw
          have new : ∀ row ∈ rows, row.src = .ofString edge.src.text →
              row.dst ≠ .ofString edge.dst.text := by
            simpa using List.find?_eq_none.mp hfind
          -- Without a table of links a taken identifier is let through, but no row comes in.
          have unused : links.isSome = true →
              (∀ row ∈ rows, row.src = .ofString edge.src.text →
                row.dst ≠ .ofString edge.dst.text) →
              ∀ row ∈ rows, row.id ≠ .ofString id.text := by
            simpa [blocksEdge, knowsPair, hasEdge] using free
          have held : links.isSome = true := by
            simpa [Option.isSome_iff_ne_none] using present
          exact ⟨link_ids, urls, unique_append edge_ids (unused held new),
            nodup_map_append pairs fun row hrow he =>
              new row hrow (congrArg Prod.fst he) (congrArg Prod.snd he)⟩
        · cases hw

theorem Keyed.removeStaleEdges (h : t.Keyed) {src : Ident} {before : Stamp} {t' : Tables}
    (ht : t.removeStaleEdges src before = .ok t') : t'.Keyed := by
  obtain ⟨links, edges⟩ := t
  obtain ⟨link_ids, urls, edge_ids, pairs⟩ := h
  cases edges with
  | none => cases ht
  | some rows =>
    simp only [Tables.removeStaleEdges] at ht
    split at ht
    · cases ht
    · cases ht
      exact ⟨link_ids, urls, List.Pairwise.sublist (List.filter_sublist.map _) edge_ids,
        pairs.sublist (List.filter_sublist.map _)⟩

/-! ## 2. Calls -/

/-- An upsert leaves no key in two rows if its statement does not. -/
theorem Ending.keyed {ρ : Type} {w : RowWriter ρ} {given record : ρ} {answer : Except StoreError ρ}
    {t' : Tables} (h : Ending w given t answer t' record) (ht : t.Keyed)
    (keeps : ∀ id t' row, ¬w.blocks given t id = true →
      w.write given id t = .ok (t', row) → t'.Keyed) : t'.Keyed := by
  cases h with
  | exhausted => exact ht
  | refused free _ => exact ht
  | unread free hw _ => exact keeps _ _ _ free hw
  | read free hw _ => exact keeps _ _ _ free hw

/-- **A call leaves no key in two rows**, also when it fails. -/
theorem Keyed.after {s : Session Tables} (h : s.store.Keyed) (call : Call) :
    (s.after call).store.Keyed := by
  cases call with
  | upsertLink link =>
    rw [Session.after_upsertLink]
    exact (ending_upsertLink link s).keyed h fun _ _ _ free hw => h.writeLink free hw
  | upsertEdge edge =>
    rw [Session.after_upsertEdge]
    exact (ending_upsertEdge edge s).keyed h fun _ _ _ free hw => h.writeEdge free hw
  | removeStaleEdges src before =>
    cases hr : LinkStore.removeStaleEdges s.store src before with
    | ok t' =>
      rw [Session.after_removeStaleEdges hr]
      exact h.removeStaleEdges hr
    | error e =>
      have unchanged : s.after (.removeStaleEdges src before) = s := by
        refine (Action.after_map _ _ _).trans ?_
        simp only [Action.after, Action.change, hr]
      rw [unchanged]
      exact h
  | findLink id =>
    rw [Session.after_findLink]
    exact h
  | links start stop before =>
    rw [Session.after_links]
    exact h
  | edges start stop before =>
    rw [Session.after_edges]
    exact h

/-- **Calls never put a key into two rows**, whatever rows they start from. -/
theorem keyed_of_reached {first s : Session Tables} (h : first.store.Keyed)
    (reached : first.Reached s) : s.store.Keyed := by
  induction reached with
  | start => exact h
  | call c _ ih => exact ih.after c
  | elapse _ _ ih => exact ih

end Tables

end CrawlGraph
