import CrawlGraph.Proofs.Console.Runs
import CrawlGraph.Proofs.Disk.Ways

/-!
# Directories on a bench

Making a directory makes those on the way to it, and no others. It goes well unless a file stands
in the way.

1. `Raises`, what a run does to directories.
2. One directory.
3. `Made`, what making the directories on a way comes to (`exists_makeNested`), and making the
   directory of a path (`exists_makeDirectories`).
-/

namespace CrawlGraph.Console

open Disk (Place Tree Component way)

variable {b b' b'' : Bench} {p : String} {q : Place}

/-! ## 1. Runs and directories -/

/-- **What a run does to directories**: those that are there stay, and new ones stand at the given
    places alone. -/
structure Raises (new : Place → Prop) (b b' : Bench) : Prop where
  here : b'.here = b.here
  home : b'.home = b.home
  stays : ∀ q, b.tree.node? q = some .directory → b'.tree.node? q = some .directory
  fresh : ∀ q, b'.tree.node? q = some .directory → b.tree.node? q = some .directory ∨ new q

theorem Raises.refl (new : Place → Prop) (b : Bench) : Raises new b b :=
  ⟨rfl, rfl, fun _ h => h, fun _ h => .inl h⟩

theorem Raises.trans {new : Place → Prop} (h : Raises new b b') (h' : Raises new b' b'') :
    Raises new b b'' where
  here := h'.here.trans h.here
  home := h'.home.trans h.home
  stays q hq := h'.stays q (h.stays q hq)
  fresh q hq := (h'.fresh q hq).elim (h.fresh q) .inr

theorem Raises.mono {new more : Place → Prop} (h : Raises new b b') (le : ∀ q, new q → more q) :
    Raises more b b' :=
  ⟨h.here, h.home, h.stays, fun q hq => (h.fresh q hq).imp_right (le q)⟩

theorem Raises.paved {new : Place → Prop} {places : List Place} (h : Raises new b b')
    (paved : b.tree.Paved places) : b'.tree.Paved places := fun q hq => h.stays q (paved q hq)

/-! ## 2. One directory -/

/-- The machine with a new directory. -/
def raised (b : Bench) (q : Place) : Bench :=
  { b with tree := ⟨b.tree.nodes.insert q .directory⟩ }

theorem node?_raised (free : b.tree.node? q ≠ some .directory) (x : Place) :
    (raised b q).tree.node? x = if q = x then some .directory else b.tree.node? x :=
  Tree.node?_insert _ (Tree.ne_root free) _ _

theorem raises_raised (free : b.tree.node? q ≠ some .directory) :
    Raises (· = q) b (raised b q) where
  here := rfl
  home := rfl
  stays x hx := by
    rw [node?_raised free]
    split <;> [rfl; exact hx]
  fresh x hx := by
    rw [node?_raised free] at hx
    split at hx
    case isTrue same => exact .inr same.symm
    case isFalse => exact .inl hx

/-- A directory is made where nothing stands. -/
theorem makeDirectory_of_none (located : b.tree.locate b.here p = .ok q)
    (free : b.tree.node? q = none) :
    Succeeds (Machine.makeDirectory p) b (.ok ()) (raised b q) := by
  refine succeeds_change.mpr (.inl ⟨_, ?_, rfl, rfl⟩)
  rw [Tree.makeDirectory, located]
  simp only [bind, Except.bind, free]

/-- Nothing is made where something stands. -/
theorem makeDirectory_of_some {n : Disk.Node} (located : b.tree.locate b.here p = .ok q)
    (taken : b.tree.node? q = some n) :
    Succeeds (Machine.makeDirectory p) b (.error .alreadyExists) b := by
  refine succeeds_change.mpr (.inr ⟨_, ?_, rfl, rfl⟩)
  rw [Tree.makeDirectory, located]
  simp only [bind, Except.bind, taken]

theorem makeDirectory_of_error {e : OsError} (h : b.tree.locate b.here p = .error e) :
    Succeeds (Machine.makeDirectory p) b (.error e) b := by
  refine succeeds_change.mpr (.inr ⟨_, ?_, rfl, rfl⟩)
  rw [Tree.makeDirectory, h]
  rfl

/-- What is left to do where a directory could not be made: to look whether there is one. -/
def orThere (p : String) (e : OsError) : Job (StateM Bench) (Except OsError Unit) := do
  if ← Machine.isDirectory p then pure (.ok ()) else pure (.error e)

theorem succeeds_orThere (b : Bench) (p : String) (e : OsError) :
    Succeeds (orThere p e) b (if b.tree.isDirectory b.here p then .ok () else .error e) b := by
  refine succeeds_bind.mpr ⟨_, b, succeeds_lift.mpr ⟨rfl, rfl⟩, ?_⟩
  show Succeeds (if b.tree.isDirectory b.here p = true then _ else _) b _ b
  split <;> exact succeeds_pure.mpr ⟨rfl, rfl⟩

/-- Makes a directory that may be there already. -/
def makeOne (p : String) : Job (StateM Bench) (Except OsError Unit) := do
  match ← Machine.makeDirectory p with
  | .ok () => pure (.ok ())
  | .error e => orThere p e

/-- **What making one directory comes to**: it is there unless a file is. -/
structure MadeOne (q : Place) (b : Bench) (r : Except OsError Unit) (b' : Bench) : Prop where
  raises : Raises (· = q) b b'
  there : r = .ok () → b'.tree.node? q = some .directory
  clear : (∀ bytes, b.tree.node? q ≠ some (.file bytes)) → r = .ok ()
  idle : b.tree.node? q = some .directory → b' = b

/-- One directory that is made in one that is there. Making it with those before it comes to the
    same. -/
theorem exists_makeOne (located : b.tree.locate b.here p = .ok q) :
    ∃ r b', MadeOne q b r b' ∧ Succeeds (makeOne p) b r b' ∧
      ∀ above, Succeeds (Machine.makeNested (p :: above)) b r b' := by
  cases stands : b.tree.node? q with
  | none =>
    have free : b.tree.node? q ≠ some .directory := by
      rw [stands]
      exact nofun
    have made := makeDirectory_of_none located stands
    have done : Succeeds (pure (.ok ()) : Job (StateM Bench) (Except OsError Unit))
        (raised b q) (.ok ()) (raised b q) := succeeds_pure.mpr ⟨rfl, rfl⟩
    refine ⟨.ok (), raised b q, ?_, succeeds_bind.mpr ⟨_, _, made, done⟩,
      fun above => succeeds_bind.mpr ⟨_, _, made, done⟩⟩
    exact ⟨raises_raised free, fun _ => by rw [node?_raised free, if_pos rfl], fun _ => rfl,
      fun there => absurd there free⟩
  | some n =>
    have failed := makeDirectory_of_some located stands
    have looked := succeeds_orThere b p .alreadyExists
    rw [Tree.isDirectory, located] at looked
    simp only [stands] at looked
    refine ⟨_, b, ?_, succeeds_bind.mpr ⟨_, b, failed, looked⟩,
      fun above => succeeds_bind.mpr ⟨_, b, failed, looked⟩⟩
    refine ⟨.refl _ _, fun ok => ?_, fun noFile => ?_, fun _ => rfl⟩
    · rw [stands]
      by_contra noDirectory
      rw [if_neg (by simpa using noDirectory)] at ok
      cases ok
    · cases n with
      | directory => rfl
      | file bytes => exact absurd stands (noFile bytes)

/-! ## 3. Directories on a way -/

/-- Whether a way begins in a directory. -/
def Standing (b : Bench) (comps : List Component) : Prop :=
  b.tree.node? (Disk.startOf b.here comps) = some .directory

/-- **What making the directories on a way comes to**: all of them are there, unless a file stands
    in the way of one, and none is new anywhere else. -/
structure Made (comps : List Component) (b : Bench) (r : Except OsError Unit) (b' : Bench) :
    Prop where
  raises : Raises (· ∈ way b.here comps) b b'
  paved : Standing b comps → r = .ok () → b'.tree.Paved (way b.here comps)
  clear : Standing b comps → b.tree.Clear (way b.here comps) → r = .ok ()
  idle : b.tree.Paved (way b.here comps) → b' = b

variable {comps : List Component} {c : Component} {r : Except OsError Unit} {e : OsError}

theorem standing_of_paved (paved : b.tree.Paved (way b.here comps)) : Standing b comps :=
  paved _ (Disk.mem_stops_self _ _)

theorem standing_of_here (h : b.tree.node? b.here = some .directory) : Standing b comps := by
  rw [Standing, Disk.startOf]
  split
  · exact Tree.node?_root
  · exact h

theorem standing_concat (hc : c ≠ .root) : Standing b (comps ++ [c]) ↔ Standing b comps := by
  rw [Standing, Disk.startOf_concat hc, Standing]

theorem made_of_paved (paved : b.tree.Paved (way b.here comps)) : Made comps b (.ok ()) b :=
  ⟨.refl _ _, fun _ _ => paved, fun _ _ => rfl, fun _ => rfl⟩

/-- One directory more cannot be made where the way to it is not paved. -/
theorem Made.error (h : Made comps b r b') (hc : c ≠ .root)
    (failed : Standing b comps → b.tree.Clear (way b.here comps) → r ≠ .ok ()) :
    Made (comps ++ [c]) b (.error e) b' where
  raises := h.raises.mono fun q hq => (Disk.mem_way_concat hc b.here comps q).mpr (.inl hq)
  paved _ := nofun
  clear standing clear := by
    have front := ((Tree.clear_way_concat hc).mp clear).1
    have standing := (standing_concat hc).mp standing
    exact absurd (h.clear standing front) (failed standing front)
  idle paved := h.idle ((Tree.paved_way_concat hc).mp paved).1

/-- **One directory more** at the end of a way that has been made. -/
theorem Made.concat {b₁ : Bench} (h : Made comps b (.ok ()) b₁) (hc : c ≠ .root)
    (files : ∀ q bytes, b₁.tree.node? q = some (.file bytes) → b.tree.node? q = some (.file bytes))
    (last : MadeOne (c.next (Disk.placeOf b.here comps)) b₁ r b') :
    Made (comps ++ [c]) b r b' where
  raises := by
    refine (h.raises.mono fun q hq => ?_).trans (last.raises.mono fun q hq => ?_)
    · exact (Disk.mem_way_concat hc b.here comps q).mpr (.inl hq)
    · exact (Disk.mem_way_concat hc b.here comps q).mpr (.inr hq)
  paved standing ok := (Tree.paved_way_concat hc).mpr
    ⟨last.raises.paved (h.paved ((standing_concat hc).mp standing) rfl), last.there ok⟩
  clear _ clear := by
    obtain ⟨-, noFile⟩ := (Tree.clear_way_concat hc).mp clear
    exact last.clear fun bytes there => noFile bytes (files _ _ there)
  idle paved := by
    obtain ⟨front, there⟩ := (Tree.paved_way_concat hc).mp paved
    have same := h.idle front
    subst same
    exact last.idle there

/-- Something on the way that is not there, or cannot be gone through. -/
theorem makeNested_of_error {above : List String} (h : b.tree.locate b.here p = .error e)
    (other : e ≠ .notFound) : Succeeds (Machine.makeNested (p :: above)) b (.error e) b := by
  have looked := succeeds_orThere b p e
  rw [Tree.isDirectory, h, if_neg Bool.false_ne_true] at looked
  refine succeeds_bind.mpr ⟨_, b, makeDirectory_of_error h, ?_⟩
  dsimp only
  rwa [if_neg other]

/-- What is not there is made after what is above it. -/
theorem makeNested_of_notFound {above : List String} {b₁ : Bench}
    (h : b.tree.locate b.here p = .error .notFound)
    (made : Succeeds (Machine.makeNested above) b (.ok ()) b₁)
    (last : Succeeds (makeOne p) b₁ r b') : Succeeds (Machine.makeNested (p :: above)) b r b' :=
  succeeds_bind.mpr ⟨_, b, makeDirectory_of_error h, succeeds_bind.mpr ⟨_, b₁, made, last⟩⟩

theorem makeOne_of_error (h : b.tree.locate b.here p = .error e) :
    Succeeds (makeOne p) b (.error e) b := by
  have looked := succeeds_orThere b p e
  rw [Tree.isDirectory, h, if_neg Bool.false_ne_true] at looked
  exact succeeds_bind.mpr ⟨_, b, makeDirectory_of_error h, looked⟩

/-- What is above cannot be made. -/
theorem makeNested_of_above {above : List String}
    (h : b.tree.locate b.here p = .error .notFound)
    (failed : Succeeds (Machine.makeNested above) b (.error e) b') :
    Succeeds (Machine.makeNested (p :: above)) b (.error e) b' :=
  succeeds_bind.mpr ⟨_, b, makeDirectory_of_error h,
    succeeds_bind.mpr ⟨_, b', failed, succeeds_pure.mpr ⟨rfl, rfl⟩⟩⟩

/-- **One directory more**, of a path whose last part it is. -/
theorem exists_makeNested_cons {path : List Char} {front : List (List Char)} {part : List Char}
    {above : List String} (h : Disk.partsOf path = front ++ [part])
    (solid : Disk.isVoid part = false)
    (ih : ∃ r b', Succeeds (Machine.makeNested above) b r b' ∧
      Made (Disk.leadComponents (Disk.lead path) ++ front.filterMap Disk.component?) b r b') :
    ∃ r b', Succeeds (Machine.makeNested (String.ofList path :: above)) b r b' ∧
      Made (Disk.leadComponents (Disk.lead path) ++ front.filterMap Disk.component? ++
        [Component.ofPart part]) b r b' := by
  have hc := Component.ofPart_ne_root part
  have located := Tree.locate_lastPart h solid b.tree b.here
  cases arrived : b.tree.arrive (if Disk.lead path = ['/'] then [] else b.here)
      (Tree.stepNames (Disk.lead path) front) with
  | ok q =>
    rw [arrived] at located
    obtain ⟨paved, rfl⟩ := Tree.arrive_stepNames.mp arrived
    obtain ⟨r, b', last, -, made⟩ := exists_makeOne located
    exact ⟨r, b', made above, (made_of_paved paved).concat hc (fun _ _ there => there) last⟩
  | error e =>
    rw [arrived] at located
    by_cases missing : e = .notFound
    · subst missing
      obtain ⟨r₁, b₁, made, comes⟩ := ih
      cases r₁ with
      | error e => exact ⟨_, b₁, makeNested_of_above located made, comes.error hc fun _ _ => nofun⟩
      | ok u =>
        -- the places above are directories now, so that the path leads to its end
        have located₁ := Tree.locate_lastPart h solid b₁.tree b₁.here
        rw [comes.raises.here] at located₁
        cases arrived₁ : b₁.tree.arrive (if Disk.lead path = ['/'] then [] else b.here)
            (Tree.stepNames (Disk.lead path) front) with
        | ok q =>
          obtain ⟨-, rfl⟩ := Tree.arrive_stepNames.mp arrived₁
          rw [arrived₁, ← comes.raises.here] at located₁
          obtain ⟨r, b', last, one, -⟩ := exists_makeOne located₁
          rw [comes.raises.here] at last
          refine ⟨r, b', makeNested_of_notFound located made one,
            comes.concat hc (fun q bytes => ?_) last⟩
          exact ((kept_of_makeNested (fun _ => False) made).tree.files q not_false bytes).mp
        | error e =>
          rw [arrived₁, ← comes.raises.here] at located₁
          refine ⟨_, b₁, makeNested_of_notFound located made (makeOne_of_error located₁),
            comes.error hc fun standing clear => ?_⟩
          rw [Tree.arrive_stepNames.mpr ⟨comes.paved standing rfl, rfl⟩] at arrived₁
          cases arrived₁
    · refine ⟨_, b, makeNested_of_error located missing, ?_⟩
      refine ⟨.refl _ _, fun _ => nofun, fun _ clear => ?_, fun _ => rfl⟩
      exact absurd (Tree.notFound_of_stepNames ((Tree.clear_way_concat hc).mp clear).1 arrived)
        missing

/-- **Making the directories that some front parts of a path name.** -/
theorem exists_makeNested {path : List Char} {front back : List (List Char)}
    (h : Disk.partsOf path = front ++ back) :
    ∃ r b', Succeeds (Machine.makeNested
        ((Disk.placesOf (Disk.lead path) front.reverse).map String.ofList)) b r b' ∧
      Made (Disk.leadComponents (Disk.lead path) ++ front.filterMap Disk.component?) b r b' := by
  -- from behind, as the places are made: the last one lies in what the parts before it lead to
  induction front using List.reverseRecOn generalizing back with
  | nil =>
    refine ⟨.ok (), b, succeeds_pure.mpr ⟨rfl, rfl⟩, .refl _ _, fun standing _ q hq => ?_,
      fun _ _ => rfl, fun _ => rfl⟩
    rw [Standing, Disk.startOf_lead] at standing
    rw [Disk.mem_way_lead] at hq
    rwa [List.mem_singleton.mp hq]
  | append_singleton front part ih =>
    have whole := h
    rw [List.append_assoc] at h
    rw [List.reverse_append, List.reverse_singleton, List.singleton_append, Disk.placesOf,
      List.filterMap_append, ← List.append_assoc]
    cases solid : Disk.isVoid part with
    | true =>
      have void : ∀ own ∈ [part], Disk.isVoid own = true := by simpa using solid
      rw [if_pos rfl, Disk.filterMap_of_void void, List.append_nil]
      exact ih h
    | false =>
      have ends : Disk.EndsSolid (front ++ [part]) := by
        intro last hlast
        rw [List.getLast?_concat] at hlast
        cases hlast
        exact solid
      have own := Disk.partsOf_frontText whole ends (by simp)
      have begun := Disk.lead_frontText whole ends
      rw [if_neg Bool.false_ne_true, List.map_cons, List.reverse_cons, List.reverse_reverse,
        List.filterMap_cons, Disk.component?_of_solid solid, List.filterMap_nil]
      have rest := ih h
      rw [← begun] at rest
      have one := exists_makeNested_cons own solid rest
      rwa [begun] at one

/-- **Making the directory of a path** makes those that its components lead to. -/
theorem exists_makeDirectories (b : Bench) (path : List Char) :
    ∃ r b', Succeeds (Machine.makeDirectories (String.ofList path)) b r b' ∧
      Made (Disk.components path) b r b' := by
  rw [Machine.makeDirectories, String.toList_ofList, Disk.directoriesTo]
  exact exists_makeNested (List.append_nil _).symm

/-- The directory of a path is none to make where its way is paved. -/
theorem succeeds_makeDirectories_of_paved {path : List Char}
    (paved : b.tree.Paved (way b.here (Disk.components path))) :
    Succeeds (Machine.makeDirectories (String.ofList path)) b (.ok ()) b := by
  obtain ⟨r, b', made, comes⟩ := exists_makeDirectories b path
  rwa [comes.idle paved, comes.clear (standing_of_paved paved) paved.clear] at made

end CrawlGraph.Console
