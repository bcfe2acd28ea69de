import CrawlGraph.Proofs.Console.Runs

/-!
# The files of a store on a bench

What opening, closing and removing a store do to the files of a machine, whatever the form is in
which its engine keeps tables (`StoreForm.Lawful`).

1. Reading files as far as they are there.
2. Removing them, and removing a store.
3. Opening and closing: `Holds`, what a store that is closed leaves behind.
-/

namespace CrawlGraph

/-- What is asked of the form of an engine: a file without any bytes holds two empty tables unless
    a log lies beside it, and what was written of both tables reads back. -/
structure StoreForm.Lawful [StoreForm] : Prop where
  fresh : ∀ journal, StoreForm.read? [] ⟨journal, none, none⟩ = some Tables.empty
  back : ∀ t : Tables, t.completed = t →
    StoreForm.read? (StoreForm.write t) ⟨none, none, none⟩ = some t

end CrawlGraph

namespace CrawlGraph.Console

open Disk (Place Tree)

variable {b b' : Bench} {path : String} {place : String → Place}

/-! ## 1. Reading -/

/-- What reading gives, by what stands at a place. -/
def bytesOf : Option Disk.Node → Except OsError (Option (List UInt8))
  | none => .ok none
  | some (.file bytes) => .ok (some bytes)
  | some .directory => .error .isDirectory

theorem succeeds_contents {p : String} {q : Place} (located : b.tree.locate b.here p = .ok q)
    {r : Except OsError (Option (List UInt8))} :
    Succeeds (StoreFile.contents p) b r b' ↔ r = bytesOf (b.tree.node? q) ∧ b' = b := by
  obtain ⟨none', directory, file⟩ := Tree.read_of_node? located
  simp only [StoreFile.contents, succeeds_bind, succeeds_readFile, and_assoc]
  cases hn : b.tree.node? q with
  | none => simp [none' hn, succeeds_pure, bytesOf]
  | some n =>
    cases n with
    | directory =>
      simp [directory hn, succeeds_pure, bytesOf, OsError.isDirectory, OsError.notFound]
    | file bytes => simp [file bytes hn, succeeds_pure, bytesOf]

theorem bytesOf_of_noFile {p : Place} (h : NoFile b p) {found : Option (List UInt8)}
    (ok : bytesOf (b.tree.node? p) = .ok found) : found = none ∧ b.tree.node? p = none := by
  cases hn : b.tree.node? p with
  | none =>
    rw [hn] at ok
    cases ok
    exact ⟨rfl, rfl⟩
  | some n =>
    cases n with
    | directory =>
      rw [hn] at ok
      cases ok
    | file bytes => exact absurd hn (h bytes)

/-- Files that are read one by one are read where opening goes on. -/
theorem of_contentsOf {ends : List String} (lies : Lies b path place)
    (own : ∀ e ∈ ends, e ∈ ownEnds) (noFile : ∀ e ∈ ends, NoFile b (place e))
    {found : List (Option (List UInt8))}
    (h : Succeeds (StoreFile.contentsOf (ends.map (path ++ ·))) b (.ok found) b') :
    found = ends.map (fun _ => none) ∧ b' = b ∧ ∀ e ∈ ends, b.tree.node? (place e) = none := by
  induction ends generalizing found b' with
  | nil =>
    obtain ⟨hfound, rfl⟩ := succeeds_pure.mp h
    cases hfound
    exact ⟨rfl, rfl, nofun⟩
  | cons e ends ih =>
    rw [List.map_cons, StoreFile.contentsOf] at h
    obtain ⟨first, b₁, hfirst, h₁⟩ := exists_ok_of_bind h fun _ _ => not_succeeds_error
    obtain ⟨hfirst, rfl⟩ :=
      (succeeds_contents (lies.located e (own e List.mem_cons_self))).mp hfirst
    obtain ⟨more, b₂, hmore, h₂⟩ := exists_ok_of_bind h₁ fun _ _ => not_succeeds_error
    obtain ⟨hfound, rfl⟩ := succeeds_pure.mp h₂
    cases hfound
    obtain ⟨rfl, rfl, absent⟩ := ih (fun e he => own e (List.mem_cons_of_mem _ he))
      (fun e he => noFile e (List.mem_cons_of_mem _ he)) hmore
    obtain ⟨rfl, none'⟩ := bytesOf_of_noFile (noFile e List.mem_cons_self) hfirst.symm
    exact ⟨rfl, rfl, List.forall_mem_cons.mpr ⟨none', absent⟩⟩

/-- Files that are not there read as none. -/
theorem succeeds_contentsOf {ends : List String} (lies : Lies b path place)
    (own : ∀ e ∈ ends, e ∈ ownEnds) (absent : ∀ e ∈ ends, b.tree.node? (place e) = none) :
    Succeeds (StoreFile.contentsOf (ends.map (path ++ ·))) b
      (.ok (ends.map fun _ => none)) b := by
  induction ends with
  | nil => exact succeeds_pure.mpr ⟨rfl, rfl⟩
  | cons e ends ih =>
    have first : Succeeds (StoreFile.contents (path ++ e)) b (.ok none) b := by
      rw [succeeds_contents (lies.located e (own e List.mem_cons_self)),
        absent e List.mem_cons_self]
      exact ⟨rfl, rfl⟩
    have rest := ih (fun e he => own e (List.mem_cons_of_mem _ he))
      (fun e he => absent e (List.mem_cons_of_mem _ he))
    rw [List.map_cons, StoreFile.contentsOf]
    exact succeeds_bind.mpr ⟨_, b, first,
      succeeds_bind.mpr ⟨_, b, rest, succeeds_pure.mpr ⟨rfl, rfl⟩⟩⟩

/-! ## 2. Removing -/

/-- Removing files that are not there changes nothing. -/
theorem eq_of_removeFiles {ends : List String} (lies : Lies b path place)
    (own : ∀ e ∈ ends, e ∈ ownEnds) (absent : ∀ e ∈ ends, b.tree.node? (place e) = none)
    (h : Succeeds ((ends.map (path ++ ·)).forM fun p => discard <| Machine.removeFile p) b () b') :
    b' = b := by
  induction ends with
  | nil => exact (succeeds_pure.mp h).2
  | cons e ends ih =>
    rw [List.map_cons, List.forM] at h
    obtain ⟨u, b₁, hfirst, rest⟩ := succeeds_bind.mp h
    obtain ⟨r, hremove⟩ := succeeds_discard.mp hfirst
    have missing := Tree.remove_of_none (lies.located e (own e List.mem_cons_self))
      (absent e List.mem_cons_self)
    rcases succeeds_change.mp hremove with ⟨tree, ht, -, -⟩ | ⟨-, -, -, rfl⟩
    · rw [missing] at ht
      cases ht
    · exact ih (fun e he => own e (List.mem_cons_of_mem _ he))
        (fun e he => absent e (List.mem_cons_of_mem _ he)) rest

/-- Files are removed as far as that is possible, and nothing else is asked. -/
theorem exists_removeFiles (b : Bench) (paths : List String) :
    ∃ b', Succeeds (paths.forM fun p => discard <| Machine.removeFile p) b () b' := by
  induction paths generalizing b with
  | nil => exact ⟨b, succeeds_pure.mpr ⟨rfl, rfl⟩⟩
  | cons p paths ih =>
    obtain ⟨_, b₁, removed⟩ := exists_lift (Machine.removeFile p) b
    obtain ⟨b', rest⟩ := ih b₁
    rw [List.forM]
    exact ⟨b', succeeds_bind.mpr ⟨(), b₁, succeeds_discard.mpr ⟨_, removed⟩, rest⟩⟩

/-- **What is removed as far as it is there** is not there any more, and nothing is new. -/
theorem of_removePresent {ends : List String} (lies : Lies b path place)
    (own : ∀ e ∈ ends, e ∈ ownEnds)
    (h : Succeeds (StoreFile.removePresent (ends.map (path ++ ·))) b (.ok ()) b') :
    Kept (Own place) b b' ∧ (∀ e ∈ ends, b'.tree.node? (place e) = none) ∧ Thinned b b' := by
  induction ends generalizing b with
  | nil =>
    obtain ⟨-, rfl⟩ := succeeds_pure.mp h
    exact ⟨.refl _ _, nofun, fun _ => .inr rfl⟩
  | cons e ends ih =>
    have he := own e List.mem_cons_self
    have ownRest := fun e he => own e (List.mem_cons_of_mem _ he)
    rw [List.map_cons, StoreFile.removePresent] at h
    obtain ⟨found, b₁, hfound, h₁⟩ := succeeds_bind.mp h
    obtain ⟨hfound, rfl⟩ := succeeds_pathExists.mp hfound
    rw [Tree.contains, lies.located e he] at hfound
    dsimp only at hfound
    cases hn : b₁.tree.node? (place e) with
    | none =>
      rw [hn] at hfound
      subst hfound
      obtain ⟨kept, gone, thinned⟩ := ih lies ownRest h₁
      exact ⟨kept, List.forall_mem_cons.mpr ⟨thinned.none hn, gone⟩, thinned⟩
    | some n =>
      rw [hn] at hfound
      subst hfound
      obtain ⟨u, b₂, removed, h₂⟩ := exists_ok_of_bind h₁ fun _ _ => not_succeeds_error
      have changes := changes_of_removeFile (lies.located e he) removed
      have kept₂ := changes.kept he
      obtain ⟨kept, gone, thinned⟩ := ih (lies.of_kept kept₂) ownRest h₂
      exact ⟨kept₂.trans kept, List.forall_mem_cons.mpr ⟨thinned.none changes.self, gone⟩,
        changes.thinned.trans thinned⟩

theorem exists_removePresent {ends : List String} (lies : Lies b path place)
    (own : ∀ e ∈ ends, e ∈ ownEnds)
    (free : ∀ e ∈ ends, b.tree.node? (place e) ≠ some .directory) :
    ∃ b', Succeeds (StoreFile.removePresent (ends.map (path ++ ·))) b (.ok ()) b' := by
  induction ends generalizing b with
  | nil => exact ⟨b, succeeds_pure.mpr ⟨rfl, rfl⟩⟩
  | cons e ends ih =>
    have he := own e List.mem_cons_self
    have ownRest := fun e he => own e (List.mem_cons_of_mem _ he)
    have freeRest := fun e he => free e (List.mem_cons_of_mem _ he)
    rw [List.map_cons, StoreFile.removePresent]
    have there : b.tree.contains b.here (path ++ e) = (b.tree.node? (place e)).isSome := by
      rw [Tree.contains, lies.located e he]
    cases hn : b.tree.node? (place e) with
    | none =>
      obtain ⟨b', rest⟩ := ih lies ownRest freeRest
      rw [hn] at there
      exact ⟨b', succeeds_bind.mpr ⟨_, b, succeeds_pathExists.mpr ⟨there.symm, rfl⟩, rest⟩⟩
    | some n =>
      cases n with
      | directory => exact absurd hn (free e List.mem_cons_self)
      | file bytes =>
        obtain ⟨b₁, removed⟩ := exists_removeFile (lies.located e he) hn
        have changes := changes_of_removeFile (lies.located e he) removed
        obtain ⟨b', rest⟩ := ih (lies.of_kept (changes.kept he)) ownRest
          fun e he => changes.thinned.free (freeRest e he)
        rw [hn] at there
        exact ⟨b', succeeds_bind.mpr ⟨_, b, succeeds_pathExists.mpr ⟨there.symm, rfl⟩,
          succeeds_bind.mpr ⟨_, b₁, removed, rest⟩⟩⟩

/-- **A store that was removed** has neither its file nor its companions, and nothing is new. -/
theorem of_removeStore (lies : Lies b path place)
    (h : Succeeds (StoreFile.removeStore path) b (.ok ()) b') :
    Kept (Own place) b b' ∧
      (∀ e ∈ "" :: StoreFile.companionEnds, b'.tree.node? (place e) = none) ∧ Thinned b b' := by
  obtain ⟨u, b₁, removed, h₁⟩ := exists_ok_of_bind h fun _ _ => not_succeeds_error
  have changes := changes_of_removeFile lies.file removed
  have kept₁ := changes.kept List.mem_cons_self
  obtain ⟨kept, gone, thinned⟩ := of_removePresent (lies.of_kept kept₁) (fun _ => mem_ownEnds) h₁
  exact ⟨kept₁.trans kept, List.forall_mem_cons.mpr ⟨thinned.none changes.self, gone⟩,
    changes.thinned.trans thinned⟩

/-- A store is removed if no directory stands in the place of a file of it. -/
theorem exists_removeStore (lies : Lies b path place) {bytes : List UInt8}
    (there : b.tree.node? (place "") = some (.file bytes))
    (free : ∀ e ∈ ownEnds, b.tree.node? (place e) ≠ some .directory) :
    ∃ b', Succeeds (StoreFile.removeStore path) b (.ok ()) b' := by
  obtain ⟨b₁, removed⟩ := exists_removeFile lies.file there
  have changes := changes_of_removeFile lies.file removed
  obtain ⟨b', rest⟩ := exists_removePresent (lies.of_kept (changes.kept List.mem_cons_self))
    (fun _ => mem_ownEnds) fun e he => changes.thinned.free (free e (mem_ownEnds he))
  exact ⟨b', succeeds_bind.mpr ⟨_, b₁, removed, rest⟩⟩

/-- **A store that is not there** is not removed, and nothing else is. -/
theorem removeStore_of_none {q : Place} (located : b.tree.locate b.here path = .ok q)
    (h : b.tree.node? q = none) :
    (StoreFile.removeStore path : StateM Bench (Except OsError Unit)) b =
      (.error .notFound, b) := by
  have failed : (Machine.removeFile path : StateM Bench (Except OsError Unit)) b =
      (.error .notFound, b) := by
    show Bench.change (fun tree here => tree.remove here path) b = _
    rw [Bench.change, Tree.remove_of_none located h]
  simp only [StoreFile.removeStore, bind, StateT.bind, failed]
  rfl

/-! ## 3. Opening and closing -/

/-- Where no file stands, one without any bytes is made. -/
theorem of_ensured (lies : Lies b path place) (noFile : NoFile b (place ""))
    {bytes : List UInt8} (h : Succeeds (StoreFile.ensured path) b (.ok bytes) b') :
    bytes = [] ∧ Changes place "" (some (.file [])) b b' := by
  obtain ⟨found, b₁, hfound, h₁⟩ := exists_ok_of_bind h fun _ _ => not_succeeds_error
  obtain ⟨hfound, rfl⟩ := (succeeds_contents lies.file).mp hfound
  obtain ⟨rfl, -⟩ := bytesOf_of_noFile noFile hfound.symm
  obtain ⟨u, b₂, made, h₂⟩ := exists_ok_of_bind h₁ fun _ _ => not_succeeds_error
  obtain ⟨hbytes, rfl⟩ := succeeds_pure.mp h₂
  cases hbytes
  exact ⟨rfl, changes_of_writeFile lies.file made⟩

theorem exists_ensured (lies : Lies b path place) (gone : b.tree.node? (place "") = none) :
    ∃ b', Succeeds (StoreFile.ensured path) b (.ok []) b' := by
  have free : b.tree.node? (place "") ≠ some .directory := by
    rw [gone]
    exact nofun
  obtain ⟨b', made⟩ := exists_writeFile (lies.file) free []
  refine ⟨b', succeeds_bind.mpr ⟨_, b, (succeeds_contents lies.file).mpr ⟨rfl, rfl⟩, ?_⟩⟩
  rw [gone]
  exact succeeds_bind.mpr ⟨_, b', made, succeeds_pure.mpr ⟨rfl, rfl⟩⟩

/-- The journal beside a file without any bytes is cleared away. -/
theorem of_takeJournal (lies : Lies b path place) {journal : Option (List UInt8)}
    (h : Succeeds (StoreFile.takeJournal path []) b (.ok journal) b') :
    Changes place "-journal" none b b' := by
  have located := lies.located "-journal" mem_ownEnds_journal
  obtain ⟨found, b₁, hfound, h₁⟩ := exists_ok_of_bind h fun _ _ => not_succeeds_error
  obtain ⟨hfound, rfl⟩ := (succeeds_contents located).mp hfound
  cases found with
  | none =>
    obtain ⟨-, rfl⟩ := succeeds_pure.mp h₁
    cases hn : b'.tree.node? (place "-journal") with
    | none => exact changes_none hn
    | some n => cases n <;> rw [hn] at hfound <;> cases hfound
  | some bytes =>
    obtain ⟨u, b₂, removed, h₂⟩ := exists_ok_of_bind h₁ fun _ _ => not_succeeds_error
    obtain ⟨-, rfl⟩ := succeeds_pure.mp h₂
    exact changes_of_removeFile located removed

theorem exists_takeJournal (lies : Lies b path place)
    (free : b.tree.node? (place "-journal") ≠ some .directory) :
    ∃ journal b', Succeeds (StoreFile.takeJournal path []) b (.ok journal) b' := by
  have located := lies.located "-journal" mem_ownEnds_journal
  have found := (succeeds_contents located).mpr ⟨rfl, rfl⟩
  cases hn : b.tree.node? (place "-journal") with
  | none =>
    rw [hn] at found
    exact ⟨none, b, succeeds_bind.mpr ⟨_, b, found, succeeds_pure.mpr ⟨rfl, rfl⟩⟩⟩
  | some n =>
    cases n with
    | directory => exact absurd hn free
    | file bytes =>
      rw [hn] at found
      obtain ⟨b', removed⟩ := exists_removeFile located hn
      exact ⟨some bytes, b', succeeds_bind.mpr ⟨_, b, found,
        succeeds_bind.mpr ⟨_, b', removed, succeeds_pure.mpr ⟨rfl, rfl⟩⟩⟩⟩

variable [StoreForm]

/-- **What a store that is closed leaves behind**: its tables in its file, and nothing beside it. -/
structure Holds (place : String → Place) (b : Bench) (t : Tables) : Prop where
  file : b.tree.node? (place "") = some (.file (StoreForm.write t))
  alone : ∀ e ∈ ownEnds, e ≠ "" → b.tree.node? (place e) = none

theorem Holds.contains {t : Tables} (holds : Holds place b t) (lies : Lies b path place) :
    b.tree.contains b.here path = true := Tree.contains_of_file lies.file holds.file

theorem Holds.free {t : Tables} (holds : Holds place b t) :
    b.tree.node? (place "") ≠ some .directory := by
  rw [holds.file]
  exact nofun

theorem Holds.noCompanion {t : Tables} (holds : Holds place b t) :
    ∀ e ∈ StoreFile.companionEnds, b.tree.node? (place e) = none := by
  intro e he
  refine holds.alone e (mem_ownEnds he) ?_
  revert e
  decide

/-- What was read is written to the file. -/
theorem of_decoded (lies : Lies b path place) {bytes : List UInt8} {beside : Beside} {t : Tables}
    (read : StoreForm.read? bytes beside = some t) {tables : Tables}
    (h : Succeeds (StoreFile.decoded path bytes beside) b (.ok tables) b') :
    tables = t.completed ∧ Changes place "" (some (.file (StoreForm.write t.completed))) b b' := by
  rw [StoreFile.decoded, read] at h
  obtain ⟨u, b₁, written, h₁⟩ := exists_ok_of_bind h fun _ _ => not_succeeds_error
  obtain ⟨htables, rfl⟩ := succeeds_pure.mp h₁
  cases htables
  exact ⟨rfl, changes_of_writeFile lies.file written⟩

/-- **A store that is opened where no file of it is** is empty, and its journal is gone. -/
theorem of_openStore (lawful : StoreForm.Lawful) (lies : Lies b path place)
    (noFile : ∀ e ∈ "" :: StoreFile.companionEnds, NoFile b (place e)) {tables : Tables}
    (h : Succeeds (StoreFile.openStore path) b (.ok tables) b') :
    tables = Tables.empty ∧ Kept (Own place) b b' ∧ Holds place b' Tables.empty := by
  obtain ⟨bytes, b₁, ensured, h₁⟩ := exists_ok_of_bind h fun _ _ => not_succeeds_error
  obtain ⟨rfl, made⟩ := of_ensured lies (noFile "" List.mem_cons_self) ensured
  obtain ⟨journal, b₂, taken, h₂⟩ := exists_ok_of_bind h₁ fun _ _ => not_succeeds_error
  have keptMade := made.kept List.mem_cons_self
  have lies₁ := lies.of_kept keptMade
  have cleared := of_takeJournal lies₁ taken
  have keptCleared := cleared.kept mem_ownEnds_journal
  have lies₂ := lies₁.of_kept keptCleared
  have apart : ∀ e ∈ StoreFile.companionEnds, "" ≠ e ∧ "-journal" ≠ e := by decide
  have noFile₂ : ∀ e ∈ StoreFile.companionEnds, NoFile b₂ (place e) := fun e he =>
    cleared.noFile lies₁ (apart e he).2
      (made.noFile lies (apart e he).1 (noFile e (List.mem_cons_of_mem _ he)))
  obtain ⟨found, b₃, companions, h₃⟩ := exists_ok_of_bind h₂ fun _ _ => not_succeeds_error
  obtain ⟨rfl, rfl, absent⟩ := of_contentsOf lies₂ (fun _ => mem_ownEnds) noFile₂ companions
  obtain ⟨rfl, written⟩ := of_decoded lies₂ (lawful.fresh journal) h₃
  refine ⟨rfl, (keptMade.trans keptCleared).trans (written.kept List.mem_cons_self), ?_⟩
  constructor
  case file => exact written.self
  case alone =>
    intro e he ne
    rw [written.other lies₂ ne.symm]
    rcases List.mem_cons.mp he with rfl | he
    · exact absurd rfl ne
    rcases List.mem_cons.mp he with rfl | he
    · exact cleared.self
    · exact absent e he

/-- Opening step by step, with nothing beside the file but a journal. -/
theorem exists_openStore_of_steps {b₁ b₂ : Bench} {bytes : List UInt8}
    {journal : Option (List UInt8)} {t : Tables}
    (ensured : Succeeds (StoreFile.ensured path) b (.ok bytes) b₁)
    (taken : Succeeds (StoreFile.takeJournal path bytes) b₁ (.ok journal) b₂)
    (lies : Lies b₂ path place)
    (alone : ∀ e ∈ StoreFile.companionEnds, b₂.tree.node? (place e) = none)
    (free : b₂.tree.node? (place "") ≠ some .directory)
    (read : StoreForm.read? bytes ⟨journal, none, none⟩ = some t) :
    ∃ b', Succeeds (StoreFile.openStore path) b (.ok t.completed) b' := by
  obtain ⟨b', written⟩ := exists_writeFile lies.file free (StoreForm.write t.completed)
  refine ⟨b', succeeds_bind.mpr ⟨_, b₁, ensured, succeeds_bind.mpr ⟨_, b₂, taken,
    succeeds_bind.mpr ⟨_, b₂, succeeds_contentsOf lies (fun _ => mem_ownEnds) alone, ?_⟩⟩⟩⟩
  show Succeeds (StoreFile.decoded path bytes ⟨journal, none, none⟩) b₂ (.ok t.completed) b'
  rw [StoreFile.decoded, read]
  exact succeeds_bind.mpr ⟨_, b', written, succeeds_pure.mpr ⟨rfl, rfl⟩⟩

/-- **A store is opened where none is**, unless a directory stands in the place of its journal. -/
theorem exists_openStore_of_none (lawful : StoreForm.Lawful) (lies : Lies b path place)
    (gone : ∀ e ∈ "" :: StoreFile.companionEnds, b.tree.node? (place e) = none)
    (free : b.tree.node? (place "-journal") ≠ some .directory) :
    ∃ tables b', Succeeds (StoreFile.openStore path) b (.ok tables) b' := by
  obtain ⟨b₁, ensured⟩ := exists_ensured lies (gone "" List.mem_cons_self)
  obtain ⟨-, made⟩ := of_ensured lies
    (fun bytes there => nomatch (gone "" List.mem_cons_self).symm.trans there) ensured
  have lies₁ := lies.of_kept (made.kept List.mem_cons_self)
  have free₁ : b₁.tree.node? (place "-journal") ≠ some .directory := by
    rwa [made.other lies (by decide)]
  obtain ⟨journal, b₂, taken⟩ := exists_takeJournal lies₁ free₁
  have cleared := of_takeJournal lies₁ taken
  have apart : ∀ e ∈ StoreFile.companionEnds, "" ≠ e ∧ "-journal" ≠ e := by decide
  have alone : ∀ e ∈ StoreFile.companionEnds, b₂.tree.node? (place e) = none := by
    intro e he
    rw [cleared.other lies₁ (apart e he).2, made.other lies (apart e he).1]
    exact gone e (List.mem_cons_of_mem _ he)
  have file : b₂.tree.node? (place "") ≠ some .directory := by
    rw [cleared.other lies₁ (by decide), made.self]
    exact nofun
  obtain ⟨b', opened⟩ := exists_openStore_of_steps ensured taken
    (lies₁.of_kept (cleared.kept mem_ownEnds_journal)) alone file (lawful.fresh journal)
  exact ⟨_, b', opened⟩

/-- **A store that was closed opens again** with the tables that it holds. -/
theorem exists_openStore (lawful : StoreForm.Lawful) (lies : Lies b path place) {t : Tables}
    (holds : Holds place b t) (complete : t.completed = t) :
    ∃ b', Succeeds (StoreFile.openStore path) b (.ok t) b' := by
  have noJournal := holds.alone "-journal" mem_ownEnds_journal (by decide)
  have ensured : Succeeds (StoreFile.ensured path) b (.ok (StoreForm.write t)) b := by
    refine succeeds_bind.mpr ⟨_, b, (succeeds_contents lies.file).mpr ⟨rfl, rfl⟩, ?_⟩
    rw [holds.file]
    exact succeeds_pure.mpr ⟨rfl, rfl⟩
  have taken : Succeeds (StoreFile.takeJournal path (StoreForm.write t)) b (.ok none) b := by
    have located := lies.located "-journal" mem_ownEnds_journal
    refine succeeds_bind.mpr ⟨_, b, (succeeds_contents located).mpr ⟨rfl, rfl⟩, ?_⟩
    rw [noJournal]
    exact succeeds_pure.mpr ⟨rfl, rfl⟩
  have opened := exists_openStore_of_steps ensured taken lies holds.noCompanion holds.free
    (lawful.back t complete)
  rwa [complete] at opened

/-- **Closing a store** leaves its tables in its file. -/
theorem of_closeStore (lies : Lies b path place) {t t' : Tables} (holds : Holds place b t)
    (h : Succeeds (StoreFile.closeStore path t') b () b') :
    Kept (Own place) b b' ∧ Holds place b' t' := by
  obtain ⟨found, b₁, hfound, h₁⟩ := succeeds_bind.mp h
  obtain ⟨rfl, rfl⟩ := succeeds_pathExists.mp hfound
  rw [holds.contains lies] at h₁
  obtain ⟨u, b₂, hwrite, h₂⟩ := succeeds_bind.mp h₁
  obtain ⟨r, hwrite⟩ := succeeds_discard.mp hwrite
  obtain ⟨tree, written⟩ := Tree.exists_write lies.file holds.free (StoreForm.write t')
  have changes : Changes place "" (some (.file (StoreForm.write t'))) b₁ b₂ := by
    rcases succeeds_change.mp hwrite with ⟨-, -, rfl, -⟩ | ⟨e, failed, -, -⟩
    · exact changes_of_writeFile lies.file hwrite
    · rw [written] at failed
      cases failed
  have kept := changes.kept List.mem_cons_self
  have lies₂ := lies.of_kept kept
  have closed : Holds place b₂ t' := by
    refine ⟨changes.self, fun e he ne => ?_⟩
    rw [changes.other lies ne.symm]
    exact holds.alone e he ne
  have same := eq_of_removeFiles lies₂ (fun _ => mem_ownEnds) closed.noCompanion h₂
  subst same
  exact ⟨kept, closed⟩

/-- Closing a store never fails. -/
theorem exists_closeStore (b : Bench) (path : String) (t : Tables) :
    ∃ b', Succeeds (StoreFile.closeStore path t) b () b' := by
  cases found : b.tree.contains b.here path with
  | false =>
    exact ⟨b, succeeds_bind.mpr ⟨_, b, succeeds_pathExists.mpr ⟨found.symm, rfl⟩,
      succeeds_pure.mpr ⟨rfl, rfl⟩⟩⟩
  | true =>
    obtain ⟨_, b₁, written⟩ := exists_lift (Machine.writeFile path (StoreForm.write t)) b
    obtain ⟨b', removed⟩ := exists_removeFiles b₁ (StoreFile.companions path)
    exact ⟨b', succeeds_bind.mpr ⟨_, b, succeeds_pathExists.mpr ⟨found.symm, rfl⟩,
      succeeds_bind.mpr ⟨(), b₁, succeeds_discard.mpr ⟨_, written⟩, removed⟩⟩⟩

end CrawlGraph.Console
