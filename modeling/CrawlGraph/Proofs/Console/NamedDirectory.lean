import CrawlGraph.Proofs.Console.Init

/-!
# The directory that is named

`init` makes a store in the directory that was named, however its name is written. A `~` in front
is the home directory, and that is all that is changed in the name.

1. `Within`, where a job may make directories, and what it may fail with.
2. The steps that make none.
3. `wayTo`, the way of the directory that is named, and `HasDirectory`.
4. Making a store (`within_makeStore`, `paved_of_makeStore`).
5. The command (`ends_runInit`, `paved_of_runInit`).
6. `NamedDirectory`, and `init_makes_the_named_directory`.
-/

namespace CrawlGraph.Console

open Disk (Place Tree Component way)

variable {α β : Type} {b b' : Bench} {new : Place → Place → Prop}

/-! ## 1. Where directories are made -/

/-- Whether a message tells what could not be done. -/
def TellsFailure (message : String) : Prop := "Failed to ".toList <+: message.toList

instance (message : String) : Decidable (TellsFailure message) :=
  inferInstanceAs (Decidable (_ <+: _))

/-- **How a job ends**: there are new directories at the given places alone, and a failure tells
    what could not be done, or that what was typed is no text. -/
structure Ends (new : Place → Prop) (b : Bench) (r : Except String α) (b' : Bench) : Prop where
  raises : Raises new b b'
  tells : ∀ message, r = .error message →
    TellsFailure message ∨ message = Ingest.ReadFault.notText.message

/-- **Where a job may make directories**, given the working directory, wherever it starts. -/
def Within (new : Place → Place → Prop) (x : Job (StateM Bench) α) : Prop :=
  ∀ b, Ends (new b.here) b (x.run b).1 (x.run b).2

theorem Said.raises (h : Said b b') (new : Place → Prop) : Raises new b b' := by
  obtain ⟨_, rfl⟩ := h
  exact ⟨rfl, rfl, fun _ there => there, fun _ there => .inl there⟩

theorem within_pure (a : α) : Within new (pure a : Job (StateM Bench) α) :=
  fun _ => ⟨.refl _ _, fun _ => nofun⟩

theorem within_throw {message : String} (h : TellsFailure message) :
    Within new (throw message : Job (StateM Bench) α) :=
  fun _ => ⟨.refl _ _, fun _ same => Except.error.inj same ▸ .inl h⟩

/-- **One job after another** makes directories where both may. -/
theorem Within.bind {x : Job (StateM Bench) α} {f : α → Job (StateM Bench) β} (hx : Within new x)
    (hf : ∀ a, Within new (f a)) : Within new (x >>= f) := by
  intro b
  have first := hx b
  rw [ExceptT.run_bind]
  simp only [Bind.bind, StateT.bind]
  generalize x.run b = ran at first ⊢
  obtain ⟨r, b₁⟩ := ran
  cases r with
  | error e => exact ⟨first.raises, fun message same => Except.error.inj same ▸ first.tells e rfl⟩
  | ok a =>
    have second := hf a b₁
    rw [first.raises.here] at second
    exact ⟨first.raises.trans second.raises, second.tells⟩

theorem Within.discard {x : Job (StateM Bench) α} (hx : Within new x) :
    Within new (discard x : Job (StateM Bench) Unit) := by
  rw [discard_eq_bind]
  exact hx.bind fun _ => within_pure ()

theorem within_forM {f : α → Job (StateM Bench) Unit} (hf : ∀ a, Within new (f a)) (as : List α) :
    Within new (as.forM f) := by
  induction as with
  | nil => exact within_pure ()
  | cons a as ih => exact (hf a).bind fun _ => ih

/-! ## 2. Steps that make no directory -/

theorem within_lift {x : StateM Bench α} (h : ∀ b, Raises (new b.here) b (x b).2) :
    Within new (ExceptT.lift x) := fun b => ⟨h b, fun _ => nofun⟩

theorem within_readFile (p : String) :
    Within new (Machine.readFile p : Job (StateM Bench) _) := within_lift fun _ => .refl _ _

theorem within_pathExists (p : String) :
    Within new (Machine.pathExists p : Job (StateM Bench) _) := within_lift fun _ => .refl _ _

theorem within_put (text : String) : Within new (Machine.put text : Job (StateM Bench) _) :=
  within_lift fun _ => ⟨rfl, rfl, fun _ h => h, fun _ h => .inl h⟩

theorem within_typedText : Within new (typedText : Job (StateM Bench) _) := by
  intro b
  rw [run_typedText]
  refine ⟨⟨rfl, rfl, fun _ h => h, fun _ h => .inl h⟩, fun message same => ?_⟩
  unfold lineTyped Ingest.decodeLine at same
  split at same
  · cases same
  · cases same
    exact .inr rfl

/-- A change of one place that neither was a directory nor is one. -/
theorem raises_of_change {new : Place → Prop} {tree : Tree} {q : Place} {n : Option Disk.Node}
    (noDirectory : b.tree.node? q ≠ some .directory) (none' : n ≠ some .directory)
    (change : ∀ p, tree.node? p = if q = p then n else b.tree.node? p) :
    Raises new b { b with tree } where
  here := rfl
  home := rfl
  stays p hp := by
    rw [change, if_neg, hp]
    rintro rfl
    exact noDirectory hp
  fresh p hp := by
    rw [change] at hp
    split at hp
    · exact absurd hp none'
    · exact .inl hp

theorem within_change {f : Tree → Place → Except OsError Tree}
    (h : ∀ b tree, f b.tree b.here = .ok tree → Raises (new b.here) b { b with tree }) :
    Within new (ExceptT.lift (Bench.change f)) := by
  refine within_lift fun b => ?_
  rw [Bench.change]
  cases changed : f b.tree b.here with
  | error e => exact .refl _ _
  | ok tree => exact h b tree changed

theorem within_writeFile (p : String) (bytes : List UInt8) :
    Within new (Machine.writeFile p bytes : Job (StateM Bench) _) := by
  refine within_change fun b tree written => ?_
  obtain ⟨q, -, noDirectory, change⟩ := Tree.of_write written
  exact raises_of_change noDirectory (by simp) change

theorem within_removeFile (p : String) :
    Within new (Machine.removeFile p : Job (StateM Bench) _) := by
  refine within_change fun b tree removed => ?_
  obtain ⟨q, bytes, -, there, change⟩ := Tree.of_remove removed
  refine raises_of_change ?_ (by simp) change
  rw [there]
  exact nofun

theorem within_contents (p : String) :
    Within new (StoreFile.contents p : Job (StateM Bench) _) := by
  refine (within_readFile p).bind fun r => ?_
  cases r <;> exact within_pure _

theorem within_ensured (p : String) :
    Within new (StoreFile.ensured p : Job (StateM Bench) _) := by
  refine (within_contents p).bind fun found => ?_
  match found with
  | .ok (some bytes) => exact within_pure _
  | .error e => exact within_pure _
  | .ok none =>
    refine (within_writeFile p []).bind fun r => ?_
    cases r <;> exact within_pure _

theorem within_takeJournal (p : String) (bytes : List UInt8) :
    Within new (StoreFile.takeJournal p bytes : Job (StateM Bench) _) := by
  refine (within_contents _).bind fun found => ?_
  match found with
  | .error e => exact within_pure _
  | .ok none => exact within_pure _
  | .ok (some journal) =>
    dsimp only
    split
    · refine (within_removeFile _).bind fun r => ?_
      cases r <;> exact within_pure _
    · exact within_pure _

theorem within_contentsOf (paths : List String) :
    Within new (StoreFile.contentsOf paths : Job (StateM Bench) _) := by
  induction paths with
  | nil => exact within_pure _
  | cons p paths ih =>
    refine (within_contents p).bind fun r => ?_
    cases r with
    | error e => exact within_pure _
    | ok found =>
      refine ih.bind fun r => ?_
      cases r <;> exact within_pure _

theorem within_removePresent (paths : List String) :
    Within new (StoreFile.removePresent paths : Job (StateM Bench) _) := by
  induction paths with
  | nil => exact within_pure _
  | cons p paths ih =>
    refine (within_pathExists p).bind fun there => ?_
    split
    · refine (within_removeFile p).bind fun r => ?_
      cases r with
      | error e => exact within_pure _
      | ok u => exact ih
    · exact ih

theorem within_removeStore (p : String) :
    Within new (StoreFile.removeStore p : Job (StateM Bench) _) := by
  refine (within_removeFile p).bind fun r => ?_
  cases r with
  | error e => exact within_pure _
  | ok u => exact within_removePresent _

theorem within_askOverwrite (p : String) :
    Within new (askOverwrite p : Job (StateM Bench) _) :=
  (within_forM (fun _ => within_put _) _).bind fun _ => (within_put _).bind fun _ =>
    within_typedText.bind fun _ => (within_put _).bind fun _ => within_pure _

/-! ## 3. The way of the directory -/

/-- The way of the directory that is named. -/
def wayTo (b : Bench) (dir : String) : List Place :=
  way b.here (Disk.components (namedDirectory b dir))

theorem components_targetOf (b : Bench) (dir : String) :
    Disk.components (targetOf b dir).toList = Disk.components (namedDirectory b dir) := by
  rw [targetOf, String.toList_ofList, Disk.components_storeDirectory, namedDirectory]

/-- A store that is there lies in a directory that is there. -/
theorem paved_of_contains {dir : String}
    (there : b.tree.contains b.here (storeFile b dir) = true) : b.tree.Paved (wayTo b dir) := by
  unfold Tree.contains at there
  split at there
  case h_1 q located => exact ((Tree.locate_joined Disk.isFileName_store _ _ _).mp located).1
  case h_2 => cases there

/-- **Whether the directory that is named is there**, with all on its way. Then the file of the
    store has its place in it. -/
structure HasDirectory (b : Bench) (dir : String) : Prop where
  paved : b.tree.Paved (wayTo b dir)
  found : namedDirectory b dir ≠ [] →
    b.tree.isDirectory b.here (String.ofList (namedDirectory b dir)) = true
  file : b.tree.locate b.here (storeFile b dir) =
    .ok (Disk.placeOf b.here (Disk.components (namedDirectory b dir)) ++ ["linkgraph.db"])

theorem hasDirectory_of_paved {dir : String} (paved : b.tree.Paved (wayTo b dir)) :
    HasDirectory b dir where
  paved := paved
  found hne := Tree.isDirectory_of_paved hne paved
  file := (Tree.locate_joined Disk.isFileName_store _ _ _).mpr ⟨paved, rfl⟩

/-- A way stays where it was. -/
theorem Raises.wayTo {new : Place → Prop} (h : Raises new b b') (dir : String) :
    Console.wayTo b' dir = Console.wayTo b dir := by
  rw [Console.wayTo, namedDirectory, h.here, h.home]
  rfl

/-! ## 4. Making a store -/

/-- What is told of a failure begins with what could not be done. -/
theorem tellsFailure_chained {context : String} (h : TellsFailure context)
    (wordings : List String) : TellsFailure (chained (context :: wordings)) := by
  have front := Disk.intercalate_front ": ".toList [context.toList] (wordings.map String.toList)
  rw [List.intercalate_singleton, List.singleton_append, ← List.map_cons,
    ← String.toList_intercalate] at front
  exact h.trans front

theorem tellsFailure_append {begun : String} (h : TellsFailure begun) (rest : String) :
    TellsFailure (begun ++ rest) := by
  rw [TellsFailure, String.toList_append]
  exact h.trans (List.prefix_append _ _)

theorem within_orFail {ε : Type} {begun rest : String} (h : TellsFailure begun)
    (wording : ε → List String) (result : Except ε α) :
    Within new (orFail (begun ++ rest) wording result) := by
  cases result with
  | error e => exact within_throw (tellsFailure_chained (tellsFailure_append h rest) _)
  | ok a => exact within_pure a

/-- A store is given up without a new directory. -/
theorem within_giveUpStore (p : String) : Within new (giveUpStore p) :=
  (within_removeStore p).bind fun _ =>
    (within_orFail (by decide) _ _).bind fun _ => within_put _

section

variable [StoreForm]

theorem within_decoded (p : String) (bytes : List UInt8) (beside : Beside) :
    Within new (StoreFile.decoded p bytes beside : Job (StateM Bench) _) := by
  unfold StoreFile.decoded
  split
  · exact within_pure _
  · refine (within_writeFile p _).bind fun r => ?_
    cases r <;> exact within_pure _

theorem within_openStore (p : String) :
    Within new (StoreFile.openStore p : Job (StateM Bench) _) := by
  refine (within_ensured p).bind fun r => ?_
  cases r with
  | error e => exact within_pure _
  | ok bytes =>
    refine (within_takeJournal p bytes).bind fun r => ?_
    cases r with
    | error e => exact within_pure _
    | ok journal =>
      refine (within_contentsOf _).bind fun found => ?_
      split
      · exact within_decoded _ _ _
      · exact within_pure _

theorem within_closeStore (p : String) (tables : Tables) :
    Within new (StoreFile.closeStore p tables : Job (StateM Bench) _) := by
  refine (within_pathExists p).bind fun there => ?_
  split
  · exact (within_writeFile p _).discard.bind fun _ =>
      within_forM (fun _ => (within_removeFile _).discard) _
  · exact within_pure _

/-- What is done of making a store once its directory is there. -/
def fillStore (path : String) : Job (StateM Bench) Unit := do
  let tables ← orFail s!"Failed to create database at {path}" StoreError.chain
    (← StoreFile.openStore path)
  StoreFile.closeStore path tables
  putLine s!"✓ Database initialized: {path}"
  putLine ""

/-- A store is filled without a new directory. -/
theorem within_fillStore (path : String) : Within new (fillStore path) :=
  (within_openStore path).bind fun _ => (within_orFail (by decide) _ _).bind fun _ =>
    (within_closeStore path _).bind fun _ => (within_put _).bind fun _ => within_put _

/-- **Making a store** makes the directories on the way to its target, and no others. -/
theorem within_makeStore (path target : String) :
    Within (fun here q => q ∈ way here (Disk.components target.toList))
      (makeStore path target) := by
  refine Within.bind (fun b => ?_) fun r => (within_orFail (by decide) _ _).bind fun _ =>
    within_fillStore path
  obtain ⟨r, b', made, comes⟩ := exists_makeDirectories b target.toList
  rw [String.ofList_toList, Succeeds] at made
  rw [made]
  exact ⟨comes.raises, fun _ same => by cases same⟩

/-- **A store that was made** has its target: all places on the way are directories. So they are
    after a failure too, unless a file stands in the way. -/
theorem paved_of_makeStore {path target : String} {comps : List Component}
    (named : Disk.components target.toList = comps) {r : Except String Unit}
    (h : (makeStore path target : Job (StateM Bench) Unit).run b = (r, b'))
    (standing : Standing b comps) (unhindered : r = .ok () ∨ b.tree.Clear (way b.here comps)) :
    b'.tree.Paved (way b.here comps) := by
  obtain ⟨made, b₁, hmade, comes⟩ := exists_makeDirectories b target.toList
  rw [String.ofList_toList] at hmade
  rw [named] at comes
  rw [makeStore, run_bind_of_succeeds hmade] at h
  cases made with
  | error e =>
    rcases unhindered with rfl | clear
    · cases h
    · cases comes.clear standing clear
  | ok u =>
    have filled : Within (fun _ _ => False) (fillStore path) := within_fillStore path
    have rest := filled b₁
    rw [show (fillStore path).run b₁ = (r, b') from h] at rest
    exact rest.raises.paved (comes.paved standing rfl)

/-! ## 5. The command -/

theorem within_settle (path target : String) (consent : Bool) :
    Within (fun here q => q ∈ way here (Disk.components target.toList))
      (settle path target consent) := by
  unfold settle
  split
  · exact (within_giveUpStore path).bind fun _ => within_makeStore path target
  · exact within_put _

variable {dir : String} {force : Bool} {r : Except String Unit}

/-- **The command makes directories on the way to the one that is named alone**, and a failure
    tells what could not be done, or that what was typed is no text. -/
theorem ends_runInit (h : (runInit dir force : Job (StateM Bench) Unit).run b = (r, b')) :
    Ends (· ∈ wayTo b dir) b r b' := by
  obtain ⟨b₁, said, run⟩ := run_runInit b dir force
  have titled : Raises (· ∈ wayTo b dir) b b₁ := said.raises _
  have within : Within (fun here q => q ∈ way here (Disk.components (targetOf b dir).toList))
      (if b.tree.contains b.here (storeFile b dir) then
        (if force then pure true else askOverwrite (storeFile b dir)) >>=
          settle (storeFile b dir) (targetOf b dir)
      else makeStore (storeFile b dir) (targetOf b dir)) := by
    split
    · refine Within.bind ?_ (within_settle _ _)
      split
      · exact within_pure true
      · exact within_askOverwrite _
    · exact within_makeStore _ _
  have rest := within b₁
  rw [← run, h, titled.here, components_targetOf] at rest
  exact ⟨titled.trans rest.raises, rest.tells⟩

/-- **The command makes the directory that is named**, unless a file stands in the way of it. -/
theorem paved_of_runInit (h : (runInit dir force : Job (StateM Bench) Unit).run b = (r, b'))
    (standing : b.tree.node? b.here = some .directory)
    (unhindered : r = .ok () ∨ b.tree.Clear (wayTo b dir)) : b'.tree.Paved (wayTo b dir) := by
  have ends := ends_runInit h
  obtain ⟨b₁, said, run⟩ := run_runInit b dir force
  rw [run] at h
  split at h
  -- the directory of a store is there before the store is given up or kept
  case isTrue there => exact ends.raises.paved (paved_of_contains there)
  case isFalse =>
    obtain ⟨here, tree⟩ : b₁.here = b.here ∧ b₁.tree = b.tree := by
      obtain ⟨_, rfl⟩ := said
      exact ⟨rfl, rfl⟩
    rw [wayTo, ← here] at unhindered ⊢
    rw [← tree] at unhindered
    refine paved_of_makeStore (components_targetOf b dir) h ?_ unhindered
    rw [← here, ← tree] at standing
    exact standing_of_here standing

/-! ## 6. What a name comes to -/

/-- **What a name comes to**, whatever is written there and wherever the home directory is. -/
structure NamedDirectory : Prop where
  /-- A `~` that stands alone is the home directory. -/
  home : ∀ home, Disk.expandHome home ['~'] = home
  /-- A `~` before a slash is the home directory too, and what stands behind it is kept. -/
  inHome : ∀ home rest, Disk.expandHome home ('~' :: '/' :: rest) = home ++ '/' :: rest
  /-- Any other name is taken as it is written. -/
  asWritten : ∀ home dir, dir ≠ ['~'] → (∀ rest, dir ≠ '~' :: '/' :: rest) →
    Disk.expandHome home dir = dir
  /-- What the components of a path are. -/
  components : Disk.ComponentRules
  /-- The last component of the path of a store is the name of its file. -/
  file : ∀ home dir,
    (Disk.components (Disk.storePath home dir)).getLast? = some (.name "linkgraph.db".toList)
  /-- The path of a store has a directory, with the components of the one that is named. -/
  parent : ∀ home dir, ∃ target, Disk.parent? (Disk.storePath home dir) = some target ∧
    Disk.components target = Disk.components (Disk.expandHome home dir)
  /-- The command does not miss the directory of a path. -/
  valid : ∀ b dir force b',
    (runInit dir force : Job (StateM Bench) Unit).run b ≠ (.error "Invalid database path", b')
  /-- It makes the directory that is named, if it ends well or no file stands in the way. -/
  made : ∀ b dir force r b', (runInit dir force : Job (StateM Bench) Unit).run b = (r, b') →
    b.tree.node? b.here = some .directory → r = .ok () ∨ b.tree.Clear (wayTo b dir) →
    HasDirectory b' dir
  /-- It makes none but those on the way, and removes none. -/
  noOther : ∀ b dir force r b', (runInit dir force : Job (StateM Bench) Unit).run b = (r, b') →
    Raises (· ∈ wayTo b dir) b b'

/-- **`init` makes the directory that is named**, however the name is written. -/
theorem init_makes_the_named_directory : NamedDirectory where
  home _ := rfl
  inHome _ _ := rfl
  asWritten home dir noHome notIn := by
    unfold Disk.expandHome
    split
    case h_1 => exact absurd rfl noHome
    case h_2 rest => exact absurd rfl (notIn rest)
    case h_3 => rfl
  components := Disk.componentRules
  file home dir := by
    rw [Disk.components_storePath, List.getLast?_concat]
    rfl
  parent home dir :=
    ⟨_, Disk.parent?_storePath home dir, Disk.components_storeDirectory home dir⟩
  valid b dir force b' h := absurd ((ends_runInit h).tells _ rfl) (by decide)
  made b dir force r b' h standing clear := by
    refine hasDirectory_of_paved ?_
    rw [(ends_runInit h).raises.wayTo]
    exact paved_of_runInit h standing clear
  noOther b dir force r b' h := (ends_runInit h).raises

end

/-- A home directory, and a working directory beside it. -/
def homely : Bench where
  tree := ⟨.ofList ([(["home"], .directory), (["w"], .directory)] : List (Place × Disk.Node))⟩
  here := ["w"]
  home := "/home/"
  supply := ⟨fun _ => 0, fun n => .ofNat (n + 1), 0, 0⟩

/-- A directory of the home directory is made where it was named, with all on its way. -/
theorem hasDirectory_homely : homely.tree.node? homely.here = some .directory ∧
    homely.tree.Clear (wayTo homely "~//a/./b/../.") ∧
    HasDirectory ((runInit "~//a/./b/../." false : Job (StateM Bench) Unit).run homely).2
      "~//a/./b/../." := by
  have standing : homely.tree.node? homely.here = some .directory := by decide +kernel
  have clear : homely.tree.Clear (wayTo homely "~//a/./b/../.") := by
    intro p hp bytes there
    have noFile : ∀ p ∈ wayTo homely "~//a/./b/../.", homely.tree.node? p = none ∨
        homely.tree.node? p = some .directory := by decide +kernel
    rcases noFile p hp with free | stands
    · rw [free] at there
      cases there
    · rw [stands] at there
      cases there
  exact ⟨standing, clear, init_makes_the_named_directory.made homely "~//a/./b/../." false _ _
    Prod.mk.eta.symm standing (.inr clear)⟩

end CrawlGraph.Console
