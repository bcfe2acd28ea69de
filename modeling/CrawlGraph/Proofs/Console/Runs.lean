import CrawlGraph.Console.Bench
import CrawlGraph.Console.Run
import CrawlGraph.Proofs.Disk.Frame

/-!
# Runs on a bench

What a command does to the files of a machine is said by rules for a job that runs to its end, and
by the files that it may change.

1. `Succeeds`, which a command that runs to its end is said with.
2. `Lies`, the places of the files of a store, and `Kept`, the frame of a run.
3. One file at a time: `Changes`, and `Thinned` where files are removed alone.
4. Making directories, which changes no file.
-/

namespace CrawlGraph.Console

open Disk (Place Tree)

variable {α β : Type} {b b' b'' : Bench}

/-! ## 1. Jobs on a bench -/

/-- Whether a job succeeds with a result and leaves a machine behind. -/
def Succeeds (x : Job (StateM Bench) α) (b : Bench) (a : α) (b' : Bench) : Prop :=
  x.run b = (.ok a, b')

theorem succeeds_of_fst {x : Job (StateM Bench) α} {a : α} (h : (x.run b).1 = .ok a) :
    Succeeds x b a (x.run b).2 := by
  unfold Succeeds
  generalize x.run b = ran at h ⊢
  obtain ⟨r, b₁⟩ := ran
  cases h
  rfl

theorem succeeds_pure {a c : α} :
    Succeeds (pure a : Job (StateM Bench) α) b c b' ↔ c = a ∧ b' = b := by
  constructor
  · intro h
    cases h
    exact ⟨rfl, rfl⟩
  · rintro ⟨rfl, rfl⟩
    rfl

theorem succeeds_bind {x : Job (StateM Bench) α} {f : α → Job (StateM Bench) β} {c : β} :
    Succeeds (x >>= f) b c b' ↔ ∃ a b₁, Succeeds x b a b₁ ∧ Succeeds (f a) b₁ c b' := by
  unfold Succeeds
  rw [ExceptT.run_bind]
  simp only [bind, StateT.bind]
  rcases h : x.run b with ⟨r, b₁⟩
  cases r with
  | error e =>
    constructor
    · intro h
      cases h
    · rintro ⟨a, b₂, h, -⟩
      cases h
  | ok a =>
    constructor
    · exact fun h => ⟨a, b₁, rfl, h⟩
    · rintro ⟨a, b₂, h, h'⟩
      cases h
      exact h'

/-- What follows a job that succeeds runs on from where that one ended. -/
theorem run_bind_of_succeeds {x : Job (StateM Bench) α} {f : α → Job (StateM Bench) β} {a : α}
    (h : Succeeds x b a b') : (x >>= f).run b = (f a).run b' := by
  unfold Succeeds at h
  rw [ExceptT.run_bind]
  simp only [bind, StateT.bind, h]

/-- Nothing follows a job that fails. -/
theorem run_bind_of_error {x : Job (StateM Bench) α} {f : α → Job (StateM Bench) β} {e : String}
    (h : x.run b = (.error e, b')) : (x >>= f).run b = (.error e, b') := by
  rw [ExceptT.run_bind]
  simp only [bind, StateT.bind, h]
  rfl

/-- A step that has to go well for the rest to go well went well. -/
theorem exists_ok_of_bind {ε γ : Type} {x : Job (StateM Bench) (Except ε α)}
    {f : Except ε α → Job (StateM Bench) γ} {c : γ} (h : Succeeds (x >>= f) b c b')
    (fails : ∀ e b₁, ¬Succeeds (f (.error e)) b₁ c b') :
    ∃ a b₁, Succeeds x b (.ok a) b₁ ∧ Succeeds (f (.ok a)) b₁ c b' := by
  obtain ⟨r, b₁, hx, hf⟩ := succeeds_bind.mp h
  cases r with
  | error e => exact absurd hf (fails e b₁)
  | ok a => exact ⟨a, b₁, hx, hf⟩

/-- An error is no result. -/
theorem not_succeeds_error {ε : Type} {e : ε} {a : α} :
    ¬Succeeds (pure (.error e) : Job (StateM Bench) (Except ε α)) b (.ok a) b' :=
  fun h => nomatch (succeeds_pure.mp h).1

theorem not_succeeds_throw {e : String} {a : α} :
    ¬Succeeds (throw e : Job (StateM Bench) α) b a b' := by
  intro h
  cases h

/-- What cannot fail succeeds. -/
theorem succeeds_lift {x : StateM Bench α} {a : α} :
    Succeeds (ExceptT.lift x) b a b' ↔ a = (x b).1 ∧ b' = (x b).2 := by
  constructor
  · intro h
    cases h
    exact ⟨rfl, rfl⟩
  · rintro ⟨rfl, rfl⟩
    rfl

theorem exists_lift (x : StateM Bench α) (b : Bench) :
    ∃ a b', Succeeds (ExceptT.lift x) b a b' := ⟨_, _, succeeds_lift.mpr ⟨rfl, rfl⟩⟩

theorem discard_eq_bind (x : Job (StateM Bench) α) : discard x = x >>= fun _ => pure () := by
  rw [bind_pure_comp]
  rfl

/-- A step whose result is not asked for succeeds as it does. -/
theorem succeeds_discard {x : Job (StateM Bench) α} {u : Unit} :
    Succeeds (discard x) b u b' ↔ ∃ a, Succeeds x b a b' := by
  rw [discard_eq_bind, succeeds_bind]
  constructor
  · rintro ⟨a, b₁, h, rest⟩
    obtain ⟨-, rfl⟩ := succeeds_pure.mp rest
    exact ⟨a, h⟩
  · rintro ⟨a, h⟩
    exact ⟨a, b', h, succeeds_pure.mpr ⟨rfl, rfl⟩⟩

/-- A change of the tree succeeds with a new tree, or leaves the old one with an error. -/
theorem succeeds_change {f : Tree → Place → Except OsError Tree} {r : Except OsError Unit} :
    Succeeds (ExceptT.lift (Bench.change f)) b r b' ↔
      (∃ tree, f b.tree b.here = .ok tree ∧ r = .ok () ∧ b' = { b with tree }) ∨
        ∃ e, f b.tree b.here = .error e ∧ r = .error e ∧ b' = b := by
  rw [succeeds_lift, Bench.change]
  cases f b.tree b.here with
  | ok tree => simp
  | error e => simp

/-! ## 2. The files of a store -/

/-- What the names of the files of a store end in: its file, its journal and its companions. -/
def ownEnds : List String := "" :: "-journal" :: StoreFile.companionEnds

/-- **Where the files of a store lie**: each of them has a place of its own. -/
structure Lies (b : Bench) (path : String) (place : String → Place) : Prop where
  located : ∀ e ∈ ownEnds, b.tree.locate b.here (path ++ e) = .ok (place e)
  distinct : ∀ e e', place e = place e' → e = e'

/-- **The frame of a run**: the working directory, the home directory and every file stay, apart
    from the files at the given places. -/
structure Kept (own : Place → Prop) (b b' : Bench) : Prop where
  here : b'.here = b.here
  home : b'.home = b.home
  tree : Tree.Keeps own b.tree b'.tree

theorem Kept.refl (own : Place → Prop) (b : Bench) : Kept own b b := ⟨rfl, rfl, .refl own _⟩

theorem Kept.trans {own : Place → Prop} (h : Kept own b b') (h' : Kept own b' b'') :
    Kept own b b'' :=
  ⟨h'.here.trans h.here, h'.home.trans h.home, h.tree.trans h'.tree⟩

variable {path : String} {place : String → Place}

/-- The places of the files of a store. -/
def Own (place : String → Place) (p : Place) : Prop := ∃ e ∈ ownEnds, place e = p

theorem Lies.of_kept {own : Place → Prop} (lies : Lies b path place) (h : Kept own b b') :
    Lies b' path place where
  located e he := by
    rw [h.here]
    exact Tree.locate_of_keeps h.tree (lies.located e he)
  distinct := lies.distinct

theorem Lies.file (lies : Lies b path place) : b.tree.locate b.here path = .ok (place "") := by
  have located := lies.located "" List.mem_cons_self
  rwa [String.append_empty] at located

theorem mem_ownEnds_journal : "-journal" ∈ ownEnds := List.mem_cons_of_mem _ List.mem_cons_self

theorem mem_ownEnds {e : String} (h : e ∈ StoreFile.companionEnds) : e ∈ ownEnds :=
  List.mem_cons_of_mem _ (List.mem_cons_of_mem _ h)

/-! ## 3. One file -/

/-- **One file of a store changes**, and nothing else does. -/
structure Changes (place : String → Place) (e : String) (n : Option Disk.Node) (b b' : Bench) :
    Prop where
  here : b'.here = b.here
  home : b'.home = b.home
  noDirectory : b.tree.node? (place e) ≠ some .directory
  node : ∀ p, b'.tree.node? p = if place e = p then n else b.tree.node? p

variable {e : String} {n : Option Disk.Node}

theorem Changes.kept (h : Changes place e n b b') (he : e ∈ ownEnds) : Kept (Own place) b b' :=
  ⟨h.here, h.home, Tree.keeps_of_change ⟨e, he, rfl⟩ h.noDirectory h.node⟩

theorem Changes.self (h : Changes place e n b b') : b'.tree.node? (place e) = n := by
  rw [h.node, if_pos rfl]

theorem Changes.other (h : Changes place e n b b') (lies : Lies b path place) {e' : String}
    (ne : e ≠ e') : b'.tree.node? (place e') = b.tree.node? (place e') := by
  rw [h.node, if_neg fun same => ne (lies.distinct _ _ same)]

/-- Nothing was there, and nothing is. -/
theorem changes_none (h : b.tree.node? (place e) = none) : Changes place e none b b where
  here := rfl
  home := rfl
  noDirectory := by
    rw [h]
    exact nofun
  node p := by
    split
    · rename_i same
      rw [← same, h]
    · rfl

theorem changes_of_writeFile {p : String} (located : b.tree.locate b.here p = .ok (place e))
    {bytes : List UInt8} (h : Succeeds (Machine.writeFile p bytes) b (.ok ()) b') :
    Changes place e (some (.file bytes)) b b' := by
  rcases succeeds_change.mp h with ⟨tree, ht, -, rfl⟩ | ⟨e, -, he, -⟩
  · obtain ⟨q, hq, noDirectory, node⟩ := Tree.of_write ht
    rw [located] at hq
    cases hq
    exact ⟨rfl, rfl, noDirectory, node⟩
  · cases he

theorem changes_of_removeFile {p : String} (located : b.tree.locate b.here p = .ok (place e))
    (h : Succeeds (Machine.removeFile p) b (.ok ()) b') : Changes place e none b b' := by
  rcases succeeds_change.mp h with ⟨tree, ht, -, rfl⟩ | ⟨e, -, he, -⟩
  · obtain ⟨q, bytes, hq, there, node⟩ := Tree.of_remove ht
    rw [located] at hq
    cases hq
    refine ⟨rfl, rfl, ?_, node⟩
    rw [there]
    exact nofun
  · cases he

/-- A file can be written where no directory stands. -/
theorem exists_writeFile {p : String} (located : b.tree.locate b.here p = .ok (place e))
    (free : b.tree.node? (place e) ≠ some .directory) (bytes : List UInt8) :
    ∃ b', Succeeds (Machine.writeFile p bytes) b (.ok ()) b' := by
  obtain ⟨tree, written⟩ := Tree.exists_write located free bytes
  exact ⟨_, succeeds_change.mpr (.inl ⟨tree, written, rfl, rfl⟩)⟩

/-- A file that is there can be removed. -/
theorem exists_removeFile {p : String} (located : b.tree.locate b.here p = .ok (place e))
    {bytes : List UInt8} (there : b.tree.node? (place e) = some (.file bytes)) :
    ∃ b', Succeeds (Machine.removeFile p) b (.ok ()) b' := by
  obtain ⟨tree, removed⟩ := Tree.exists_remove located there
  exact ⟨_, succeeds_change.mpr (.inl ⟨tree, removed, rfl, rfl⟩)⟩

theorem succeeds_readFile {p : String} {r : Except OsError (List UInt8)} :
    Succeeds (Machine.readFile p) b r b' ↔ r = b.tree.read b.here p ∧ b' = b := succeeds_lift

theorem succeeds_pathExists {p : String} {r : Bool} :
    Succeeds (Machine.pathExists p) b r b' ↔ r = b.tree.contains b.here p ∧ b' = b := succeeds_lift

/-- Whether no file stands at a place. -/
def NoFile (b : Bench) (p : Place) : Prop := ∀ bytes, b.tree.node? p ≠ some (.file bytes)

/-- A file stays away when another one changes. -/
theorem Changes.noFile (h : Changes place e n b b') (lies : Lies b path place) {e' : String}
    (ne : e ≠ e') (noFile : NoFile b (place e')) : NoFile b' (place e') := by
  intro bytes
  rw [h.other lies ne]
  exact noFile bytes

/-- Whether every place is as it was, or nothing stands there any more. -/
def Thinned (b b' : Bench) : Prop :=
  ∀ p, b'.tree.node? p = none ∨ b'.tree.node? p = b.tree.node? p

theorem Thinned.trans (h : Thinned b b') (h' : Thinned b' b'') : Thinned b b'' := by
  intro p
  rcases h' p with gone | same
  · exact .inl gone
  · rw [same]
    exact h p

theorem Thinned.none (h : Thinned b b') {p : Place} (gone : b.tree.node? p = none) :
    b'.tree.node? p = none := by
  rcases h p with gone' | same
  · exact gone'
  · rw [same, gone]

theorem Thinned.free (h : Thinned b b') {p : Place} (free : b.tree.node? p ≠ some .directory) :
    b'.tree.node? p ≠ some .directory := by
  rcases h p with gone | same
  · rw [gone]
    exact nofun
  · rwa [same]

theorem Changes.thinned (h : Changes place e none b b') : Thinned b b' := by
  intro p
  rw [h.node]
  split
  · exact .inl rfl
  · exact .inr rfl

/-! ## 4. Making directories -/

theorem kept_of_makeDirectory (own : Place → Prop) {p : String} {r : Except OsError Unit}
    (h : Succeeds (Machine.makeDirectory p) b r b') : Kept own b b' := by
  rcases succeeds_change.mp h with ⟨tree, ht, -, rfl⟩ | ⟨-, -, -, rfl⟩
  · exact ⟨rfl, rfl, Tree.keeps_of_makeDirectory own ht⟩
  · exact .refl own _

/-- Looking for a directory changes nothing. -/
theorem eq_of_isDirectory {p : String} {e : OsError} {r : Except OsError Unit}
    (h : Succeeds (do if ← Machine.isDirectory p then pure (.ok ()) else pure (.error e)) b r b') :
    b' = b := by
  obtain ⟨there, b₁, hthere, h₁⟩ := succeeds_bind.mp h
  obtain ⟨-, rfl⟩ := succeeds_lift.mp hthere
  split at h₁ <;> exact (succeeds_pure.mp h₁).2

/-- **Making directories changes no file**, whether all of them can be made or not. -/
theorem kept_of_makeNested (own : Place → Prop) {paths : List String} {r : Except OsError Unit}
    (h : Succeeds (Machine.makeNested paths) b r b') : Kept own b b' := by
  induction paths generalizing b r b' with
  | nil =>
    obtain ⟨-, rfl⟩ := succeeds_pure.mp h
    exact .refl own _
  | cons p above ih =>
    rw [Machine.makeNested] at h
    obtain ⟨first, b₁, hfirst, h₁⟩ := succeeds_bind.mp h
    have kept₁ := kept_of_makeDirectory own hfirst
    refine kept₁.trans ?_
    cases first with
    | ok u =>
      obtain ⟨-, rfl⟩ := succeeds_pure.mp h₁
      exact .refl own _
    | error e =>
      dsimp only at h₁
      split at h₁
      case isFalse =>
        rw [eq_of_isDirectory h₁]
        exact .refl own _
      case isTrue =>
        obtain ⟨second, b₂, hsecond, h₂⟩ := succeeds_bind.mp h₁
        have kept₂ := ih hsecond
        refine kept₂.trans ?_
        cases second with
        | error e =>
          obtain ⟨-, rfl⟩ := succeeds_pure.mp h₂
          exact .refl own _
        | ok u =>
          obtain ⟨third, b₃, hthird, h₃⟩ := succeeds_bind.mp h₂
          have kept₃ := kept_of_makeDirectory own hthird
          refine kept₃.trans ?_
          cases third with
          | ok u =>
            obtain ⟨-, rfl⟩ := succeeds_pure.mp h₃
            exact .refl own _
          | error e =>
            rw [eq_of_isDirectory h₃]
            exact .refl own _

end CrawlGraph.Console
