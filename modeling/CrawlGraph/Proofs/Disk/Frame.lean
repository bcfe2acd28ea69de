import CrawlGraph.Disk.Tree
import CrawlGraph.Proofs.Results

/-!
# What operations leave alone

An operation on a tree changes what stands at one place. So a run of operations keeps every file
but those at the places that it names.

1. What stands where after an operation (`of_write`, `of_remove`, `of_makeDirectory`).
2. `Keeps`, the frame of a run.
3. Paths: where directories stay, a path leads to the same place (`locate_of_keeps`).
-/

namespace CrawlGraph.Disk.Tree

variable {t t' t'' : Tree} {here place : Place} {path : String} {bytes : List UInt8}

/-! ## 1. Operations -/

theorem node?_root : t.node? [] = some .directory := if_pos rfl

theorem node?_insert (t : Tree) {place : Place} (h : place ≠ []) (n : Node) (p : Place) :
    node? ⟨t.nodes.insert place n⟩ p = if place = p then some n else t.node? p := by
  by_cases root : p = []
  · subst root
    rw [node?_root, if_neg h, node?_root]
  · rw [node?, node?, if_neg root, if_neg root, Std.TreeMap.getElem?_insert]
    simp only [Std.LawfulEqCmp.compare_eq_iff_eq]

theorem node?_erase (t : Tree) {place : Place} (h : place ≠ []) (p : Place) :
    node? ⟨t.nodes.erase place⟩ p = if place = p then none else t.node? p := by
  by_cases root : p = []
  · subst root
    rw [node?_root, if_neg h, node?_root]
  · rw [node?, node?, if_neg root, if_neg root, Std.TreeMap.getElem?_erase]
    simp only [Std.LawfulEqCmp.compare_eq_iff_eq]

theorem ne_root (h : t.node? place ≠ some .directory) : place ≠ [] := by
  rintro rfl
  exact h node?_root

/-- **A file that was written** stands at the end of its path, and nothing else has changed. -/
theorem of_write (h : t.write here path bytes = .ok t') :
    ∃ place, t.locate here path = .ok place ∧ t.node? place ≠ some .directory ∧
      ∀ p, t'.node? p = if place = p then some (.file bytes) else t.node? p := by
  obtain ⟨place, hplace, h⟩ := bind_eq_ok_iff.mp h
  refine ⟨place, hplace, ?_⟩
  split at h
  case h_1 => cases h
  case h_2 free =>
    cases h
    exact ⟨free, node?_insert t (ne_root free) _⟩

/-- **A file that was removed** stood at the end of its path, and nothing else has changed. -/
theorem of_remove (h : t.remove here path = .ok t') :
    ∃ place bytes, t.locate here path = .ok place ∧ t.node? place = some (.file bytes) ∧
      ∀ p, t'.node? p = if place = p then none else t.node? p := by
  obtain ⟨place, hplace, h⟩ := bind_eq_ok_iff.mp h
  split at h
  case h_1 bytes there =>
    cases h
    have noDirectory : t.node? place ≠ some .directory := by
      rw [there]
      exact nofun
    exact ⟨place, bytes, hplace, there, node?_erase t (ne_root noDirectory)⟩
  case h_2 => cases h
  case h_3 => cases h

/-- **A directory that was made** stands where nothing stood, and nothing else has changed. -/
theorem of_makeDirectory (h : t.makeDirectory here path = .ok t') :
    ∃ place, t.locate here path = .ok place ∧ t.node? place = none ∧
      ∀ p, t'.node? p = if place = p then some .directory else t.node? p := by
  obtain ⟨place, hplace, h⟩ := bind_eq_ok_iff.mp h
  split at h
  case h_1 => cases h
  case h_2 free =>
    cases h
    have noDirectory : t.node? place ≠ some .directory := by
      rw [free]
      exact nofun
    exact ⟨place, hplace, free, node?_insert t (ne_root noDirectory) _⟩

/-- A file can be written where no directory stands. -/
theorem exists_write (located : t.locate here path = .ok place)
    (noDirectory : t.node? place ≠ some .directory) (bytes : List UInt8) :
    ∃ t', t.write here path bytes = .ok t' := by
  refine ⟨⟨t.nodes.insert place (.file bytes)⟩, bind_eq_ok_iff.mpr ⟨place, located, ?_⟩⟩
  split
  case h_1 there => exact absurd there noDirectory
  case h_2 => rfl

/-- A file that is there can be removed. -/
theorem exists_remove (located : t.locate here path = .ok place)
    (there : t.node? place = some (.file bytes)) : ∃ t', t.remove here path = .ok t' := by
  refine ⟨⟨t.nodes.erase place⟩, bind_eq_ok_iff.mpr ⟨place, located, ?_⟩⟩
  rw [there]

/-- What is read at a place where nothing, a directory or a file stands. -/
theorem read_of_node? (located : t.locate here path = .ok place) :
    (t.node? place = none → t.read here path = .error .notFound) ∧
      (t.node? place = some .directory → t.read here path = .error .isDirectory) ∧
      ∀ bytes, t.node? place = some (.file bytes) → t.read here path = .ok bytes := by
  rw [read, located]
  refine ⟨fun h => ?_, fun h => ?_, fun bytes h => ?_⟩ <;> simp only [bind, Except.bind, h]

/-- **A file that was read** is there. -/
theorem of_read (h : t.read here path = .ok bytes) :
    ∃ place, t.locate here path = .ok place ∧ t.node? place = some (.file bytes) := by
  obtain ⟨place, located, h⟩ := bind_eq_ok_iff.mp h
  refine ⟨place, located, ?_⟩
  split at h
  case h_1 old there =>
    cases h
    exact there
  case h_2 => cases h
  case h_3 => cases h

theorem contains_of_file (located : t.locate here path = .ok place)
    (there : t.node? place = some (.file bytes)) : t.contains here path = true := by
  rw [contains, located]
  simp only [there, Option.isSome_some]

/-- What is not there cannot be removed. -/
theorem remove_of_none (located : t.locate here path = .ok place) (h : t.node? place = none) :
    t.remove here path = .error .notFound := by
  rw [remove, located]
  simp only [bind, Except.bind, h]

/-! ## 2. Frames -/

/-- **A run keeps what it does not own**: directories stay, and so does every file apart from those
    at the given places. -/
structure Keeps (own : Place → Prop) (t t' : Tree) : Prop where
  directories : ∀ p, t.node? p = some .directory → t'.node? p = some .directory
  files : ∀ p, ¬own p → ∀ bytes, t'.node? p = some (.file bytes) ↔ t.node? p = some (.file bytes)

theorem Keeps.refl (own : Place → Prop) (t : Tree) : Keeps own t t :=
  ⟨fun _ h => h, fun _ _ _ => Iff.rfl⟩

theorem Keeps.trans {own : Place → Prop} (h : Keeps own t t') (h' : Keeps own t' t'') :
    Keeps own t t'' :=
  ⟨fun p hp => h'.directories p (h.directories p hp),
    fun p hp bytes => (h'.files p hp bytes).trans (h.files p hp bytes)⟩

/-- What changes one place that is owned and no directory keeps the rest. -/
theorem keeps_of_change {own : Place → Prop} {n : Option Node} (owned : own place)
    (noDirectory : t.node? place ≠ some .directory)
    (change : ∀ p, t'.node? p = if place = p then n else t.node? p) : Keeps own t t' where
  directories p hp := by
    rw [change, if_neg, hp]
    rintro rfl
    exact noDirectory hp
  files p hp bytes := by
    rw [change, if_neg]
    rintro rfl
    exact hp owned

/-- Making directories changes no file. -/
theorem keeps_of_makeDirectory (own : Place → Prop) (h : t.makeDirectory here path = .ok t') :
    Keeps own t t' := by
  obtain ⟨place, -, free, change⟩ := of_makeDirectory h
  constructor
  case directories =>
    intro p hp
    rw [change]
    split <;> [rfl; exact hp]
  case files =>
    intro p _ bytes
    rw [change]
    split
    · rename_i same
      rw [← same, free]
      exact ⟨nofun, nofun⟩
    · rfl

/-! ## 3. Paths -/

theorem follow_append (t : Tree) (place : Place) (names more : List String) :
    t.follow place (names ++ more) = (t.follow place names >>= fun p => t.follow p more) := by
  induction names generalizing place with
  | nil => rfl
  | cons name names ih =>
    rw [List.cons_append, follow, follow, bind_assoc]
    simp only [ih]

theorem enter_eq_ok_iff : t.enter place = .ok () ↔ t.node? place = some .directory := by
  unfold enter
  split <;> rename_i h <;> simp [h]

/-- Where directories stay, a path leads to the same place. -/
theorem follow_of_keeps {own : Place → Prop} (h : Keeps own t t') {names : List String} {p : Place}
    (found : t.follow place names = .ok p) : t'.follow place names = .ok p := by
  induction names generalizing place with
  | nil => exact found
  | cons name names ih =>
    obtain ⟨⟨⟩, there, found⟩ := bind_eq_ok_iff.mp found
    rw [enter_eq_ok_iff] at there
    exact bind_eq_ok_iff.mpr ⟨(), enter_eq_ok_iff.mpr (h.directories _ there), ih found⟩

theorem locate_of_keeps {own : Place → Prop} (h : Keeps own t t') {p : Place}
    (found : t.locate here path = .ok p) : t'.locate here path = .ok p := by
  unfold locate at found ⊢
  split at found
  · cases found
  · rw [if_neg ‹_›]
    exact follow_of_keeps h found

/-- The names of files: a text without slashes that does not stand for a directory. -/
structure IsFileName (name : List Char) : Prop where
  ne_nil : name ≠ []
  noSlash : '/' ∉ name
  noDot : name ≠ ['.']
  noDots : name ≠ ['.', '.']

end CrawlGraph.Disk.Tree
