import CrawlGraph.Proofs.Console.Directories
import CrawlGraph.Proofs.Console.StoreFile
import CrawlGraph.Proofs.Tables.Saved

/-!
# Making a store

`init` gives an existing store up with consent alone, and then starts with an empty one, whatever
lay beside the old one.

1. `exists_lies`: the files of a store lie in one directory.
2. What is shown and typed (`Said`, `Consents`).
3. Giving a store up, and making one where its files are gone (`of_makeStore`).
4. The command, without consent (`exists_runInit`) and with it (`exists_runInit_of_consents`,
   `of_runInit`), and what is read of the store that it leaves.
5. `InitPromise`, and `init_gives_up_with_consent_alone`.
-/

namespace CrawlGraph.Console

open Disk (Place Tree)

variable {b b' b'' : Bench} {dir path : String} {place : String → Place}

/-! ## 1. Places -/

/-- The directory that is named, with the home directory in place of a `~` in front. -/
def namedDirectory (b : Bench) (dir : String) : List Char :=
  Disk.expandHome b.home.toList dir.toList

/-- The file of the store in a directory. -/
def storeFile (b : Bench) (dir : String) : String :=
  String.ofList (Disk.storePath b.home.toList dir.toList)

/-- The directory of the store in a directory, in its own words. -/
def targetOf (b : Bench) (dir : String) : String :=
  String.ofList (Disk.storeDirectory b.home.toList dir.toList)

theorem isFileName_storeName : ∀ e ∈ ownEnds, Tree.IsFileName (Disk.storeName ++ e.toList) := by
  intro e he
  simp only [ownEnds, StoreFile.companionEnds, List.mem_cons, List.not_mem_nil, or_false] at he
  rcases he with rfl | rfl | rfl | rfl <;> constructor <;> decide

/-- What lies beside a store lies in the same directory. -/
theorem storeFile_append (b : Bench) (dir e : String) : storeFile b dir ++ e =
    String.ofList (Disk.joined (namedDirectory b dir) (Disk.storeName ++ e.toList)) := by
  rw [← String.toList_inj, String.toList_append, storeFile, String.toList_ofList,
    String.toList_ofList, Disk.joined_append, namedDirectory, Disk.storePath]

/-- **The files of a store lie in one directory**, each under its own name. -/
theorem exists_lies {q : Place} (there : b.tree.locate b.here (storeFile b dir) = .ok q) :
    ∃ place, Lies b (storeFile b dir) place := by
  obtain ⟨paved, -⟩ := (Tree.locate_joined Disk.isFileName_store _ _ _).mp there
  refine ⟨fun e => Disk.placeOf b.here (Disk.components (namedDirectory b dir)) ++
    [String.ofList (Disk.storeName ++ e.toList)], fun e he => ?_, fun e e' same => ?_⟩
  · rw [storeFile_append]
    exact (Tree.locate_joined (isFileName_storeName e he) _ _ _).mpr ⟨paved, rfl⟩
  · have names := List.append_cancel_left same
    rw [List.cons.injEq, String.ofList_inj] at names
    exact String.toList_inj.mp (List.append_cancel_left names.1)

/-! ## 2. What is shown and typed -/

/-- Whether nothing but what is shown differs. -/
def Said (b b' : Bench) : Prop := ∃ shown, b' = { b with shown }

theorem Said.trans (h : Said b b') (h' : Said b' b'') : Said b b'' := by
  obtain ⟨_, rfl⟩ := h
  obtain ⟨shown, rfl⟩ := h'
  exact ⟨shown, rfl⟩

theorem Said.kept (h : Said b b') (own : Place → Prop) : Kept own b b' := by
  obtain ⟨_, rfl⟩ := h
  exact ⟨rfl, rfl, .refl own _⟩

theorem said_of_put {text : String} {u : Unit} (h : Succeeds (Machine.put text) b u b') :
    Said b b' := ⟨_, (succeeds_lift.mp h).2⟩

theorem exists_put (b : Bench) (text : String) : ∃ b', Succeeds (Machine.put text) b () b' :=
  ⟨_, succeeds_lift.mpr ⟨rfl, rfl⟩⟩

theorem said_of_putLines {lines : List String} (h : Succeeds (lines.forM putLine) b () b') :
    Said b b' := by
  induction lines generalizing b with
  | nil =>
    obtain ⟨-, rfl⟩ := succeeds_pure.mp h
    exact ⟨_, rfl⟩
  | cons line lines ih =>
    rw [List.forM] at h
    obtain ⟨u, b₁, first, rest⟩ := succeeds_bind.mp h
    exact (said_of_put first).trans (ih rest)

theorem exists_putLines (b : Bench) (lines : List String) :
    ∃ b', Succeeds (lines.forM putLine) b () b' := by
  induction lines generalizing b with
  | nil => exact ⟨b, succeeds_pure.mpr ⟨rfl, rfl⟩⟩
  | cons line lines ih =>
    obtain ⟨b₁, first⟩ := exists_put b (line ++ "\n")
    obtain ⟨b₂, rest⟩ := ih b₁
    rw [List.forM]
    exact ⟨b₂, succeeds_bind.mpr ⟨_, b₁, first, rest⟩⟩

/-- The line that is typed next, if it is one of text. -/
def lineTyped (b : Bench) : Ingest.Line := Ingest.decodeLine (Bench.splitLine b.typed).1

theorem newline_notMem_utf8EncodeChar {c : Char} (h : c ≠ '\n') :
    10 ∉ String.utf8EncodeChar c := by
  have hv : c.val.toNat ≠ 10 := fun same => h (Char.toNat_inj.mp same)
  have bound : c.val.toNat < 0x110000 := by
    have valid := c.valid
    rw [UInt32.isValidChar, Nat.isValidChar] at valid
    omega
  unfold String.utf8EncodeChar
  dsimp only
  have ten : (10 : UInt8).toNat = 10 := rfl
  split_ifs <;>
    simp only [List.mem_cons, List.not_mem_nil, or_false, ← UInt8.toNat_inj,
      UInt8.toNat_ofNat', ten] <;>
    omega

/-- Bytes without a line feed belong to the first line. -/
theorem splitLine_append {bytes : List UInt8} (h : 10 ∉ bytes) (rest : List UInt8) :
    Bench.splitLine (bytes ++ rest) =
      (bytes ++ (Bench.splitLine rest).1, (Bench.splitLine rest).2) := by
  induction bytes with
  | nil => rfl
  | cons b bytes ih =>
    have hb : b ≠ 10 := fun same => h (same ▸ List.mem_cons_self)
    rw [List.cons_append, Bench.splitLine, if_neg hb, ih (List.not_mem_of_not_mem_cons h)]
    rfl

/-- The first line of a text is one. -/
theorem exists_splitLine (cs : List Char) : ∃ line : List Char,
    (Bench.splitLine (cs.flatMap String.utf8EncodeChar)).1 =
      line.flatMap String.utf8EncodeChar := by
  induction cs with
  | nil => exact ⟨[], rfl⟩
  | cons c cs ih =>
    rw [List.flatMap_cons]
    by_cases hc : c = '\n'
    · subst hc
      exact ⟨['\n'], rfl⟩
    · obtain ⟨line, hline⟩ := ih
      refine ⟨c :: line, ?_⟩
      rw [splitLine_append (newline_notMem_utf8EncodeChar hc), hline, List.flatMap_cons]

/-- **Where text is typed a line can be read.** -/
theorem exists_lineTyped {s : String} (h : b.typed = Text.bytes s) :
    ∃ line, lineTyped b = .ok line := by
  obtain ⟨line, hline⟩ := exists_splitLine s.toList
  rw [← Text.bytes_eq_flatMap, ← String.toList_ofList (l := line), ← Text.bytes_eq_flatMap] at hline
  refine ⟨String.ofList line, ?_⟩
  rw [lineTyped, h, hline, Ingest.decodeLine, Text.ofBytes?_bytes]

/-- A line without white space around it and in lower case. -/
def answerOf (line : String) : List Char := (Text.trim line.toList).map Char.toLower

/-- Whether what is typed next is a consent. -/
def Consents (b : Bench) : Prop :=
  ∃ line, lineTyped b = .ok line ∧ (answerOf line = ['y'] ∨ answerOf line = ['y', 'e', 's'])

theorem isConsent_iff {line : String} (h : lineTyped b = .ok line) :
    isConsent line = true ↔ Consents b := by
  simp [isConsent, Consents, answerOf, h]

/-- What is typed is read, or the command fails for it. -/
theorem run_typedText (b : Bench) : (typedText : Job (StateM Bench) String).run b =
    ((lineTyped b).mapError (·.message), { b with typed := (Bench.splitLine b.typed).2 }) := by
  have typed : Succeeds Machine.typedLine b (lineTyped b)
      { b with typed := (Bench.splitLine b.typed).2 } := succeeds_lift.mpr ⟨rfl, rfl⟩
  rw [typedText, run_bind_of_succeeds typed]
  cases lineTyped b <;> rfl

theorem succeeds_typedText {line : String} : Succeeds typedText b line b' ↔
    lineTyped b = .ok line ∧ b' = { b with typed := (Bench.splitLine b.typed).2 } := by
  rw [Succeeds, run_typedText, Prod.mk.injEq]
  cases lineTyped b with
  | ok typed => simp [Except.mapError, eq_comm]
  | error fault => simp [Except.mapError]

/-- **Asking changes no file**, and the answer is a consent just if one is typed. -/
theorem of_askOverwrite {consent : Bool} (h : Succeeds (askOverwrite path) b consent b') :
    (consent = true ↔ Consents b) ∧ (∀ own, Kept own b b') ∧ b'.tree = b.tree := by
  obtain ⟨u, b₁, warned, h₁⟩ := succeeds_bind.mp h
  obtain ⟨u, b₂, asked, h₂⟩ := succeeds_bind.mp h₁
  obtain ⟨typed, b₃, htyped, h₃⟩ := succeeds_bind.mp h₂
  obtain ⟨u, b₄, ended, h₄⟩ := succeeds_bind.mp h₃
  obtain ⟨_, rfl⟩ := (said_of_putLines warned).trans (said_of_put asked)
  obtain ⟨read, rfl⟩ := succeeds_typedText.mp htyped
  obtain ⟨_, rfl⟩ := said_of_put ended
  obtain ⟨rfl, rfl⟩ := succeeds_pure.mp h₄
  exact ⟨isConsent_iff read, fun own => ⟨rfl, rfl, .refl own _⟩, rfl⟩

/-- What is done behind the question. -/
def takeAnswer : Job (StateM Bench) Bool := do
  let line ← typedText
  putLine ""
  pure (isConsent line)

/-- The question is put, and then what is typed is read. -/
theorem run_askOverwrite (b : Bench) (path : String) : ∃ b₁, Said b b₁ ∧
    (askOverwrite path : Job (StateM Bench) Bool).run b = takeAnswer.run b₁ := by
  obtain ⟨b₁, warned⟩ := exists_putLines b (overwriteWarning path)
  obtain ⟨b₂, asked⟩ := exists_put b₁ "Would you like to overwrite it? [y/N]: "
  refine ⟨b₂, (said_of_putLines warned).trans (said_of_put asked), ?_⟩
  rw [askOverwrite, run_bind_of_succeeds warned, run_bind_of_succeeds asked, takeAnswer]

theorem exists_askOverwrite {line : String} (read : lineTyped b = .ok line) (path : String) :
    ∃ consent b', Succeeds (askOverwrite path) b consent b' := by
  obtain ⟨_, ⟨shown, rfl⟩, run⟩ := run_askOverwrite b path
  obtain ⟨b₂, ended⟩ := exists_put { b with shown, typed := (Bench.splitLine b.typed).2 }
    ("" ++ "\n")
  exact ⟨_, b₂, run.trans (succeeds_bind.mpr ⟨line, _, succeeds_typedText.mpr ⟨read, rfl⟩,
    succeeds_bind.mpr ⟨_, b₂, ended, succeeds_pure.mpr ⟨rfl, rfl⟩⟩⟩)⟩

/-- **What cannot be read is no answer**: the command fails, and no file is changed. -/
theorem askOverwrite_of_unread {fault : Ingest.ReadFault} (unread : lineTyped b = .error fault)
    (path : String) : ∃ b', (askOverwrite path : Job (StateM Bench) Bool).run b =
      (.error fault.message, b') ∧ b'.tree = b.tree := by
  obtain ⟨_, ⟨shown, rfl⟩, run⟩ := run_askOverwrite b path
  have read := run_typedText { b with shown }
  rw [show lineTyped { b with shown } = .error fault from unread] at read
  exact ⟨_, run.trans (run_bind_of_error read), rfl⟩

/-! ## 3. Making a store -/

theorem succeeds_orFail {α ε : Type} {context : String} {wording : ε → List String}
    {result : Except ε α} {a : α} :
    Succeeds (orFail context wording result) b a b' ↔ result = .ok a ∧ b' = b := by
  cases result with
  | error e => exact ⟨fun h => absurd h not_succeeds_throw, nofun⟩
  | ok c =>
    rw [orFail, succeeds_pure, Except.ok.injEq, eq_comm]

theorem succeeds_locateStore {r : String} : Succeeds (locateStore dir) b r b' ↔
    r = storeFile b dir ∧ b' = b := by
  constructor
  · intro h
    obtain ⟨home, b₁, hhome, h₁⟩ := succeeds_bind.mp h
    obtain ⟨rfl, rfl⟩ := succeeds_lift.mp hhome
    exact succeeds_pure.mp h₁
  · rintro ⟨rfl, rfl⟩
    exact succeeds_bind.mpr ⟨_, _, succeeds_lift.mpr ⟨rfl, rfl⟩, succeeds_pure.mpr ⟨rfl, rfl⟩⟩

/-- **A store that is given up** has neither its file nor its companions, and nothing is new. -/
theorem of_giveUpStore (lies : Lies b path place) (h : Succeeds (giveUpStore path) b () b') :
    Kept (Own place) b b' ∧
      (∀ e ∈ "" :: StoreFile.companionEnds, b'.tree.node? (place e) = none) ∧ Thinned b b' := by
  obtain ⟨r, b₁, removed, h₁⟩ := succeeds_bind.mp h
  obtain ⟨u, b₂, done, h₂⟩ := succeeds_bind.mp h₁
  obtain ⟨rfl, rfl⟩ := succeeds_orFail.mp done
  obtain ⟨kept, gone, thinned⟩ := of_removeStore lies removed
  obtain ⟨_, rfl⟩ := said_of_put h₂
  exact ⟨⟨kept.here, kept.home, kept.tree⟩, gone, thinned⟩

/-- A store is given up if no directory stands in the place of a file of it. -/
theorem exists_giveUpStore (lies : Lies b path place) {bytes : List UInt8}
    (there : b.tree.node? (place "") = some (.file bytes))
    (free : ∀ e ∈ ownEnds, b.tree.node? (place e) ≠ some .directory) :
    ∃ b', Succeeds (giveUpStore path) b () b' := by
  obtain ⟨b₁, removed⟩ := exists_removeStore lies there free
  obtain ⟨b₂, said⟩ := exists_put b₁ ("✓ Existing database removed" ++ "\n")
  exact ⟨b₂, succeeds_bind.mpr ⟨_, b₁, removed, succeeds_bind.mpr ⟨(), b₁,
    succeeds_orFail.mpr ⟨rfl, rfl⟩, said⟩⟩⟩

/-- The path of a store has a directory. -/
theorem directoryFor_storeFile (b : Bench) (dir : String) :
    directoryFor (storeFile b dir) = (pure (targetOf b dir) : Job (StateM Bench) String) := by
  rw [directoryFor, storeFile, String.toList_ofList, Disk.parent?_storePath]
  rfl

/-- The directory of a store that is there is none to make. -/
theorem succeeds_makeDirectories {q : Place}
    (there : b.tree.locate b.here (storeFile b dir) = .ok q) :
    Succeeds (Machine.makeDirectories (targetOf b dir)) b (.ok ()) b := by
  refine succeeds_makeDirectories_of_paved ?_
  rw [Disk.components_storeDirectory]
  exact ((Tree.locate_joined Disk.isFileName_store _ _ _).mp there).1

section

variable [StoreForm]

/-- **A store that is made where its files are gone** is empty. -/
theorem of_makeStore (lawful : StoreForm.Lawful) (lies : Lies b path place) {target : String}
    (gone : ∀ e ∈ "" :: StoreFile.companionEnds, b.tree.node? (place e) = none)
    (h : Succeeds (makeStore path target) b () b') :
    Kept (Own place) b b' ∧ Holds place b' Tables.empty := by
  obtain ⟨r, b₁, directories, h₁⟩ := succeeds_bind.mp h
  obtain ⟨u, b₂, made, h₂⟩ := succeeds_bind.mp h₁
  obtain ⟨-, rfl⟩ := succeeds_orFail.mp made
  have kept₂ := fun own => kept_of_makeNested own directories
  have lies₂ := lies.of_kept (kept₂ (Own place))
  -- a directory that was made may stand there now, but no file
  have noFile : ∀ e ∈ "" :: StoreFile.companionEnds, NoFile b₂ (place e) := by
    intro e he bytes there
    rw [(kept₂ fun _ => False).tree.files _ not_false, gone e he] at there
    cases there
  obtain ⟨opened, b₃, hopened, h₃⟩ := succeeds_bind.mp h₂
  obtain ⟨tables, b₄, htables, h₄⟩ := succeeds_bind.mp h₃
  obtain ⟨rfl, rfl⟩ := succeeds_orFail.mp htables
  obtain ⟨rfl, kept₄, holds⟩ := of_openStore lawful lies₂ noFile hopened
  obtain ⟨u, b₅, closed, h₅⟩ := succeeds_bind.mp h₄
  obtain ⟨kept₅, holds⟩ := of_closeStore (lies₂.of_kept kept₄) holds closed
  obtain ⟨u, b₆, said, h₆⟩ := succeeds_bind.mp h₅
  obtain ⟨_, rfl⟩ := (said_of_put said).trans (said_of_put h₆)
  exact ⟨((kept₂ _).trans kept₄).trans ⟨kept₅.here, kept₅.home, kept₅.tree⟩,
    holds.file, holds.alone⟩

theorem exists_makeStore (lawful : StoreForm.Lawful) (lies : Lies b path place) {target : String}
    (directories : Succeeds (Machine.makeDirectories target) b (.ok ()) b)
    (gone : ∀ e ∈ "" :: StoreFile.companionEnds, b.tree.node? (place e) = none)
    (free : b.tree.node? (place "-journal") ≠ some .directory) :
    ∃ b', Succeeds (makeStore path target) b () b' := by
  obtain ⟨tables, b₁, opened⟩ := exists_openStore_of_none lawful lies gone free
  obtain ⟨b₂, closed⟩ := exists_closeStore b₁ path tables
  obtain ⟨b₃, said⟩ := exists_put b₂ (s!"✓ Database initialized: {path}" ++ "\n")
  obtain ⟨b₄, ended⟩ := exists_put b₃ ("" ++ "\n")
  exact ⟨b₄, succeeds_bind.mpr ⟨_, b, directories, succeeds_bind.mpr ⟨(), b,
    succeeds_orFail.mpr ⟨rfl, rfl⟩, succeeds_bind.mpr ⟨_, b₁, opened, succeeds_bind.mpr ⟨_, b₁,
      succeeds_orFail.mpr ⟨rfl, rfl⟩, succeeds_bind.mpr ⟨(), b₂, closed, succeeds_bind.mpr ⟨(), b₃,
        said, ended⟩⟩⟩⟩⟩⟩⟩

/-! ## 4. The command -/

/-- What is done about a store that is there. -/
def settle (path target : String) (consent : Bool) : Job (StateM Bench) Unit := do
  if consent then
    giveUpStore path
    makeStore path target
  else putLine "→ Keeping existing database"

/-- **The command behind its title**: where a store is there, the question unless it is answered
    already, and what the answer asks for. -/
theorem run_runInit (b : Bench) (dir : String) (force : Bool) : ∃ b₁, Said b b₁ ∧
    (runInit dir force : Job (StateM Bench) Unit).run b =
      ExceptT.run (if b.tree.contains b.here (storeFile b dir) then
        (if force then pure true else askOverwrite (storeFile b dir)) >>=
          settle (storeFile b dir) (targetOf b dir)
      else makeStore (storeFile b dir) (targetOf b dir)) b₁ := by
  obtain ⟨b₁, titled⟩ := exists_putLines b initTitle
  obtain ⟨b₂, told⟩ := exists_putLines b₁ (initTarget (targetOf b dir))
  have said := said_of_putLines titled
  have said' := said.trans (said_of_putLines told)
  have located : Succeeds (locateStore dir) b₁ (storeFile b dir) b₁ := by
    obtain ⟨_, rfl⟩ := said
    exact succeeds_locateStore.mpr ⟨rfl, rfl⟩
  have looked : Succeeds (Machine.pathExists (storeFile b dir)) b₂
      (b.tree.contains b.here (storeFile b dir)) b₂ := by
    obtain ⟨_, rfl⟩ := said'
    exact succeeds_pathExists.mpr ⟨rfl, rfl⟩
  refine ⟨b₂, said', ?_⟩
  rw [runInit, run_bind_of_succeeds titled, run_bind_of_succeeds located, directoryFor_storeFile,
    pure_bind, run_bind_of_succeeds told, run_bind_of_succeeds looked]
  split <;> cases force <;> rfl

/-- **Without consent** the command ends well, and no file is changed. -/
theorem exists_runInit (there : b.tree.contains b.here (storeFile b dir) = true) {line : String}
    (read : lineTyped b = .ok line) (refused : ¬Consents b) :
    ∃ b', Succeeds (runInit dir false) b () b' ∧ b'.tree = b.tree := by
  obtain ⟨_, ⟨shown, rfl⟩, run⟩ := run_runInit b dir false
  obtain ⟨consent, b₂, asked⟩ :=
    exists_askOverwrite (b := { b with shown }) read (storeFile b dir)
  obtain ⟨given, -, tree⟩ := of_askOverwrite asked
  have kept : consent = false := by
    by_contra h
    exact refused (given.mp (Bool.not_eq_false _ ▸ h))
  subst kept
  obtain ⟨b₃, said⟩ := exists_put b₂ ("→ Keeping existing database" ++ "\n")
  obtain ⟨_, rfl⟩ := said_of_put said
  rw [if_pos there] at run
  exact ⟨_, run.trans (succeeds_bind.mpr ⟨false, b₂, asked, said⟩), tree⟩

/-- **Without an answer** the command fails, and no file is changed. -/
theorem runInit_of_unread (there : b.tree.contains b.here (storeFile b dir) = true)
    {fault : Ingest.ReadFault} (unread : lineTyped b = .error fault) :
    ∃ b', (runInit dir false : Job (StateM Bench) Unit).run b = (.error fault.message, b') ∧
      b'.tree = b.tree := by
  obtain ⟨_, ⟨shown, rfl⟩, run⟩ := run_runInit b dir false
  obtain ⟨b', asked, tree⟩ :=
    askOverwrite_of_unread (b := { b with shown }) unread (storeFile b dir)
  rw [if_pos there] at run
  exact ⟨b', run.trans (run_bind_of_error asked), tree⟩

/-- **With consent** the command leaves an empty store, and keeps all files but those of the
    store. -/
theorem of_runInit (lawful : StoreForm.Lawful) (lies : Lies b (storeFile b dir) place)
    (there : b.tree.contains b.here (storeFile b dir) = true) {force : Bool}
    (consents : force = true ∨ Consents b) (h : Succeeds (runInit dir force) b () b') :
    Kept (Own place) b b' ∧ Holds place b' Tables.empty := by
  obtain ⟨b₁, said, run⟩ := run_runInit b dir force
  rw [if_pos there] at run
  obtain ⟨consent, b₂, asked, h₁⟩ := succeeds_bind.mp (run.symm.trans h)
  obtain ⟨given, kept₂⟩ : consent = true ∧ Kept (Own place) b₁ b₂ := by
    cases force with
    | true =>
      obtain ⟨rfl, rfl⟩ := succeeds_pure.mp asked
      exact ⟨rfl, .refl _ _⟩
    | false =>
      obtain ⟨given, kept, -⟩ := of_askOverwrite asked
      obtain ⟨_, rfl⟩ := said
      exact ⟨given.mpr (consents.resolve_left Bool.false_ne_true), kept _⟩
  subst given
  have kept := (said.kept (Own place)).trans kept₂
  have lies₂ := lies.of_kept kept
  obtain ⟨u, b₃, givenUp, made⟩ := succeeds_bind.mp h₁
  obtain ⟨kept₃, gone, -⟩ := of_giveUpStore lies₂ givenUp
  obtain ⟨kept₄, holds⟩ := of_makeStore lawful (lies₂.of_kept kept₃) gone made
  exact ⟨(kept.trans kept₃).trans kept₄, holds⟩

/-- **With consent** the command ends well, if no directory stands in the place of a file of the
    store. -/
theorem exists_runInit_of_consents (lawful : StoreForm.Lawful)
    (lies : Lies b (storeFile b dir) place) {bytes : List UInt8}
    (there : b.tree.node? (place "") = some (.file bytes))
    (free : ∀ e ∈ ownEnds, b.tree.node? (place e) ≠ some .directory) {force : Bool}
    (consents : force = true ∨ Consents b) : ∃ b', Succeeds (runInit dir force) b () b' := by
  have present := Tree.contains_of_file lies.file there
  obtain ⟨b₁, said, run⟩ := run_runInit b dir force
  obtain ⟨shown, rfl⟩ := said
  rw [if_pos present] at run
  obtain ⟨b₂, asked, kept₂, same⟩ : ∃ b₂,
      Succeeds (if force then pure true else askOverwrite (storeFile b dir))
        { b with shown } true b₂ ∧ Kept (Own place) b b₂ ∧ b₂.tree = b.tree := by
    cases force with
    | true => exact ⟨_, succeeds_pure.mpr ⟨rfl, rfl⟩, ⟨rfl, rfl, .refl _ _⟩, rfl⟩
    | false =>
      have consented : Consents b := consents.resolve_left Bool.false_ne_true
      obtain ⟨line, read, -⟩ := consented
      obtain ⟨consent, b₂, asked⟩ :=
        exists_askOverwrite (b := { b with shown }) read (storeFile b dir)
      obtain ⟨given, kept, same⟩ := of_askOverwrite asked
      have consented : consent = true := given.mpr (consents.resolve_left Bool.false_ne_true)
      subst consented
      obtain ⟨here, home, tree⟩ := kept (Own place)
      exact ⟨b₂, asked, ⟨here, home, tree⟩, same⟩
  have lies₂ := lies.of_kept kept₂
  rw [← same] at there free
  obtain ⟨b₃, givenUp⟩ := exists_giveUpStore lies₂ there free
  obtain ⟨kept₃, gone, thinned⟩ := of_giveUpStore lies₂ givenUp
  have kept := kept₂.trans kept₃
  have lies₃ := lies₂.of_kept kept₃
  have directories : Succeeds (Machine.makeDirectories (targetOf b dir)) b₃ (.ok ()) b₃ := by
    have located := lies₃.file
    rw [storeFile, ← kept.home, ← storeFile] at located
    have made := succeeds_makeDirectories located
    rwa [targetOf, kept.home, ← targetOf] at made
  obtain ⟨b', made⟩ := exists_makeStore lawful lies₃ directories gone
    (thinned.free (free _ mem_ownEnds_journal))
  exact ⟨b', run.trans (succeeds_bind.mpr ⟨true, b₂, asked,
    succeeds_bind.mpr ⟨(), b₃, givenUp, made⟩⟩)⟩

/-- Whether all readings of the store in a directory give nothing. -/
def ReadsNothing (b : Bench) (dir : String) : Prop :=
  ∃ path tables b', Succeeds (openExisting dir) b (path, tables) b' ∧
    ∀ start stop before, LinkStore.links tables start stop before = .ok (.ofList []) ∧
      LinkStore.edges tables start stop before = .ok (.ofList [])

omit [StoreForm] in
/-- Two empty tables have nothing to read. -/
theorem links_and_edges_empty (start stop : Ident) (before : Stamp) :
    LinkStore.links Tables.empty start stop before = .ok (.ofList []) ∧
      LinkStore.edges Tables.empty start stop before = .ok (.ofList []) := by
  have noLinks : Tables.linkRows [] start stop before = [] := by simp [Tables.linkRows]
  have noEdges : Tables.edgeRows [] start stop before = [] := by simp [Tables.edgeRows]
  constructor
  · simp only [LinkStore.links, Tables.linksIn, Tables.empty, noLinks]
    rfl
  · simp only [LinkStore.edges, Tables.edgesIn, Tables.empty, noEdges]
    rfl

/-- An empty store is opened, and read. -/
theorem readsNothing_of_holds (lawful : StoreForm.Lawful) (lies : Lies b (storeFile b dir) place)
    (holds : Holds place b Tables.empty) : ReadsNothing b dir := by
  obtain ⟨b', opened⟩ := exists_openStore lawful lies holds rfl
  refine ⟨storeFile b dir, Tables.empty, b', succeeds_bind.mpr ⟨_, b,
    succeeds_locateStore.mpr ⟨rfl, rfl⟩, succeeds_bind.mpr ⟨_, b,
      succeeds_pathExists.mpr ⟨rfl, rfl⟩, ?_⟩⟩, links_and_edges_empty⟩
  rw [holds.contains lies, if_pos rfl]
  exact succeeds_bind.mpr ⟨_, b', opened, succeeds_bind.mpr ⟨_, b',
    succeeds_orFail.mpr ⟨rfl, rfl⟩, succeeds_pure.mpr ⟨rfl, rfl⟩⟩⟩

/-! ## 5. What the command promises -/

/-- The places of the files of the store in a directory: its file, its journal, its log and the
    index of the log. -/
def Owns (b : Bench) (dir : String) (p : Place) : Prop :=
  ∃ e ∈ ownEnds, b.tree.locate b.here (storeFile b dir ++ e) = .ok p

/-- **What `init` promises** about the files of a machine. -/
structure InitPromise : Prop where
  /-- A store that is there is kept, with all other files, unless it is given up with consent. -/
  refused : ∀ b dir bytes line, b.tree.read b.here (storeFile b dir) = .ok bytes →
    lineTyped b = .ok line → ¬Consents b →
    ∃ b', Succeeds (runInit dir false) b () b' ∧ b'.tree = b.tree
  /-- A line can be read wherever text is typed. -/
  typed : ∀ b s, b.typed = Text.bytes s → ∃ line, lineTyped b = .ok line
  /-- It is kept as well if what is typed is no text; then the command fails. -/
  unread : ∀ b dir bytes fault, b.tree.read b.here (storeFile b dir) = .ok bytes →
    lineTyped b = .error fault →
    ∃ b', (runInit dir false : Job (StateM Bench) Unit).run b = (.error fault.message, b') ∧
      b'.tree = b.tree
  /-- With consent it is given up and made again, unless a directory stands in the place of a file
      of it. -/
  started : ∀ b dir force bytes, b.tree.read b.here (storeFile b dir) = .ok bytes →
    force = true ∨ Consents b → (∀ p, Owns b dir p → b.tree.node? p ≠ some .directory) →
    ∃ b', Succeeds (runInit dir force) b () b'
  /-- A store that is given up is followed by an empty one, whatever lay beside it. -/
  clean : ∀ b dir force bytes b', b.tree.read b.here (storeFile b dir) = .ok bytes →
    force = true ∨ Consents b → Succeeds (runInit dir force) b () b' → ReadsNothing b' dir
  /-- Then all files but those of the store are as they were. -/
  others : ∀ b dir force bytes b', b.tree.read b.here (storeFile b dir) = .ok bytes →
    force = true ∨ Consents b → Succeeds (runInit dir force) b () b' →
    ∀ p, ¬Owns b dir p →
      ∀ old, b'.tree.node? p = some (.file old) ↔ b.tree.node? p = some (.file old)
  /-- A store that is not there is not removed, and nothing else is. -/
  absent : ∀ b dir p, b.tree.locate b.here (storeFile b dir) = .ok p → b.tree.node? p = none →
    (StoreFile.removeStore (storeFile b dir) : StateM Bench (Except OsError Unit)) b =
      (.error .notFound, b)

/-- **`init` gives a store up with consent alone, and always starts with an empty one.** -/
theorem init_gives_up_with_consent_alone (lawful : StoreForm.Lawful) : InitPromise where
  refused b dir bytes line there read refusal := by
    obtain ⟨q, located, there⟩ := Tree.of_read there
    exact exists_runInit (Tree.contains_of_file located there) read refusal
  typed _ _ h := exists_lineTyped h
  unread b dir bytes fault there unread := by
    obtain ⟨q, located, there⟩ := Tree.of_read there
    exact runInit_of_unread (Tree.contains_of_file located there) unread
  started b dir force bytes there consents free := by
    obtain ⟨q, located, there⟩ := Tree.of_read there
    obtain ⟨place, lies⟩ := exists_lies located
    rw [lies.file] at located
    cases located
    exact exists_runInit_of_consents lawful lies there
      (fun e he => free _ ⟨e, he, lies.located e he⟩) consents
  clean b dir force bytes b' there consents h := by
    obtain ⟨q, located, there⟩ := Tree.of_read there
    obtain ⟨place, lies⟩ := exists_lies located
    obtain ⟨kept, holds⟩ :=
      of_runInit lawful lies (Tree.contains_of_file located there) consents h
    have same : storeFile b' dir = storeFile b dir := by rw [storeFile, kept.home, storeFile]
    have lies' := lies.of_kept kept
    rw [← same] at lies'
    exact readsNothing_of_holds lawful lies' holds
  others b dir force bytes b' there consents h p notOwned old := by
    obtain ⟨q, located, there⟩ := Tree.of_read there
    obtain ⟨place, lies⟩ := exists_lies located
    obtain ⟨kept, -⟩ := of_runInit lawful lies (Tree.contains_of_file located there) consents h
    refine kept.tree.files p (fun ⟨e, he, hp⟩ => notOwned ⟨e, he, ?_⟩) old
    rw [lies.located e he, hp]
  absent b dir p located free := removeStore_of_none located free

end

/-- The form that keeps everything in the file is one that an engine may have. -/
theorem lawful_plain : StoreForm.Lawful where
  fresh _ := rfl
  back _ complete := Tables.ofBytes?_toBytes complete

/-- A directory with a store, a log and a journal that were left behind, and a file of its own. -/
def crowded : Bench where
  tree := ⟨.ofList ([(["d"], .directory), (["d", "linkgraph.db"], .file [1]),
    (["d", "linkgraph.db-wal"], .file [2]), (["d", "linkgraph.db-journal"], .file [3]),
    (["d", "notes"], .file [4])] : List (Place × Disk.Node))⟩
  here := ["d"]
  supply := ⟨fun _ => 0, fun n => .ofNat (n + 1), 0, 0⟩

/-- The machine after the store in the directory was given up. -/
def cleared : Bench := ((runInit "." true : Job (StateM Bench) Unit).run crowded).2

theorem read_crowded : crowded.tree.read crowded.here (storeFile crowded ".") = .ok [1] := by
  decide +kernel

theorem succeeds_cleared : Succeeds (runInit "." true) crowded () cleared := by
  have ends : ((runInit "." true : Job (StateM Bench) Unit).run crowded).1 = .ok () := by
    decide +kernel
  exact succeeds_of_fst ends

/-- In a crowded directory the command starts with an empty store. -/
theorem readsNothing_cleared : StoreForm.Lawful ∧ ReadsNothing cleared "." :=
  ⟨lawful_plain, (init_gives_up_with_consent_alone lawful_plain).clean crowded "." true [1] cleared
    read_crowded (.inl rfl) succeeds_cleared⟩

/-- **The journal is not kept**: it lies beside the store, and is neither its log nor the index of
    the log. -/
theorem init_does_not_keep_the_journal :
    ¬∀ (b : Bench) (dir : String) (force : Bool) (bytes : List UInt8) (b' : Bench),
      b.tree.read b.here (storeFile b dir) = .ok bytes → force = true ∨ Consents b →
      Succeeds (runInit dir force) b () b' →
      ∀ p, (∀ e ∈ ["", "-wal", "-shm"], b.tree.locate b.here (storeFile b dir ++ e) ≠ .ok p) →
        ∀ old, b'.tree.node? p = some (.file old) ↔ b.tree.node? p = some (.file old) := by
  intro kept
  have journal := kept crowded "." true [1] cleared read_crowded (.inl rfl) succeeds_cleared
    ["d", "linkgraph.db-journal"] (by decide +kernel) [3]
  have before : crowded.tree.node? ["d", "linkgraph.db-journal"] = some (.file [3]) := by
    decide +kernel
  have after : cleared.tree.node? ["d", "linkgraph.db-journal"] = none := by decide +kernel
  rw [before, after] at journal
  exact absurd (journal.mpr rfl) nofun

end CrawlGraph.Console
