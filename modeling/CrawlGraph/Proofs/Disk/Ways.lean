import CrawlGraph.Proofs.Disk.Components

/-!
# Where components lead

A path is followed from one component to the next. It leads to its end where all the places on its
way are directories.

1. `way`, the places that components lead to one after another.
2. Following names: `arrive_partNames`, and what hinders it (`notFound_of_arrive`).
3. Following a path from its lead (`arrive_stepNames`).
4. Paths: `locate_of_paved`, and the last part of a path (`locate_lastPart`).
-/

namespace CrawlGraph.Disk

/-! ## 1. Places on the way -/

/-- The place that a component leads to from a place. -/
def Component.next (place : Place) : Component → Place
  | .root => []
  | .here => place
  | .above => place.dropLast
  | .name text => place ++ [String.ofList text]

/-- The place that some components lead to. -/
def placeOf (place : Place) (comps : List Component) : Place := comps.foldl Component.next place

/-- A place and those that some components lead to from it, one after another. -/
def stops (place : Place) : List Component → List Place
  | [] => [place]
  | c :: comps => place :: stops (c.next place) comps

/-- Where a path begins: at the root, or in the directory that it is followed from. -/
def startOf (here : Place) (comps : List Component) : Place :=
  if comps.head? = some .root then [] else here

/-- **The way of a path**: all places that its components lead to, with the one where it begins. -/
def way (here : Place) (comps : List Component) : List Place := stops (startOf here comps) comps

variable {place here p q : Place} {comps : List Component} {c : Component} {l path part : List Char}
  {parts : List (List Char)}

theorem mem_stops_self (place : Place) (comps : List Component) : place ∈ stops place comps := by
  cases comps <;> exact List.mem_cons_self

theorem mem_stops_concat (place : Place) (comps : List Component) (c : Component) (p : Place) :
    p ∈ stops place (comps ++ [c]) ↔ p ∈ stops place comps ∨ p = c.next (placeOf place comps) := by
  induction comps generalizing place with
  | nil => simp [stops, placeOf]
  | cons d comps ih =>
    rw [List.cons_append, stops, stops, List.mem_cons, List.mem_cons, ih, or_assoc]
    rfl

theorem placeOf_mem_stops (place : Place) (comps : List Component) :
    placeOf place comps ∈ stops place comps := by
  induction comps generalizing place with
  | nil => exact List.mem_cons_self
  | cons d comps ih => exact List.mem_cons_of_mem _ (ih _)

theorem placeOf_startOf (here : Place) (comps : List Component) :
    placeOf (startOf here comps) comps = placeOf here comps := by
  cases comps with
  | nil => rfl
  | cons c comps => cases c <;> rfl

theorem placeOf_mem_way (here : Place) (comps : List Component) :
    placeOf here comps ∈ way here comps := by
  rw [← placeOf_startOf]
  exact placeOf_mem_stops _ _

theorem startOf_concat (hc : c ≠ .root) (here : Place) (comps : List Component) :
    startOf here (comps ++ [c]) = startOf here comps := by
  cases comps with
  | nil => simp [startOf, hc]
  | cons d comps => rfl

/-- One component more, which does not lead back to the root, leads to one place more. -/
theorem mem_way_concat (hc : c ≠ .root) (here : Place) (comps : List Component) (p : Place) :
    p ∈ way here (comps ++ [c]) ↔ p ∈ way here comps ∨ p = c.next (placeOf here comps) := by
  rw [way, way, startOf_concat hc, mem_stops_concat, placeOf_startOf]

/-- Where the components of a path begin, by its lead. -/
theorem startOf_lead (l : List Char) (parts : List (List Char)) (here : Place) :
    startOf here (leadComponents l ++ parts.filterMap component?) =
      if l = ['/'] then [] else here := by
  have noRoot : (parts.filterMap component?).head? ≠ some .root := by
    intro root
    obtain ⟨part, -, own⟩ := List.mem_filterMap.mp (List.mem_of_mem_head? root)
    rcases above_or_name_of_component? own with own | own <;> cases own
  rw [startOf, leadComponents]
  split
  · rfl
  · split
    · rfl
    · rw [List.nil_append, if_neg noRoot]

/-- The lead of a path leads to where it begins, and nowhere else. -/
theorem mem_way_lead (l : List Char) (parts : List (List Char)) (here p : Place) :
    p ∈ way here (leadComponents l ++ parts.filterMap component?) ↔
      p ∈ stops (if l = ['/'] then [] else here) (parts.filterMap component?) := by
  rw [way, startOf_lead, leadComponents]
  split
  · exact ⟨fun h => (List.mem_cons.mp h).elim (fun h => h ▸ mem_stops_self _ _) id,
      List.mem_cons_of_mem _⟩
  · split
    · exact ⟨fun h => (List.mem_cons.mp h).elim (fun h => h ▸ mem_stops_self _ _) id,
        List.mem_cons_of_mem _⟩
    · rfl

theorem placeOf_lead (l : List Char) (here : Place) (comps : List Component) :
    placeOf here (leadComponents l ++ comps) = placeOf (if l = ['/'] then [] else here) comps := by
  rw [leadComponents]
  split
  · rfl
  · split <;> rfl

namespace Tree

variable {t : Tree} {places : List Place} {e : OsError}

/-- Whether all of some places are directories. -/
def Paved (t : Tree) (places : List Place) : Prop := ∀ p ∈ places, t.node? p = some .directory

/-- Whether no file stands at any of some places. -/
def Clear (t : Tree) (places : List Place) : Prop :=
  ∀ p ∈ places, ∀ bytes, t.node? p ≠ some (.file bytes)

theorem Paved.clear (h : t.Paved places) : t.Clear places := by
  intro p hp bytes there
  rw [h p hp] at there
  cases there

theorem paved_way_concat (hc : c ≠ .root) : t.Paved (way here (comps ++ [c])) ↔
    t.Paved (way here comps) ∧ t.node? (c.next (placeOf here comps)) = some .directory := by
  simp only [Paved, mem_way_concat hc, or_imp, forall_and, forall_eq]

theorem clear_way_concat (hc : c ≠ .root) : t.Clear (way here (comps ++ [c])) ↔
    t.Clear (way here comps) ∧
      ∀ bytes, t.node? (c.next (placeOf here comps)) ≠ some (.file bytes) := by
  simp only [Clear, mem_way_concat hc, or_imp, forall_and, forall_eq]

/-! ## 2. Names -/

/-- The place that names lead to, which has to be a directory. -/
def arrive (t : Tree) (place : Place) (names : List String) : Except OsError Place := do
  let p ← t.follow place names
  t.enter p
  pure p

/-- The place that a name leads to. -/
def nextPlace (place : Place) (name : String) : Place :=
  if name = "." then place else if name = ".." then place.dropLast else place ++ [name]

theorem arrive_nil (t : Tree) (place : Place) :
    t.arrive place [] = (do t.enter place; pure place) := rfl

theorem arrive_cons (t : Tree) (place : Place) (name : String) (names : List String) :
    t.arrive place (name :: names) =
      (do t.enter place; t.arrive (nextPlace place name) names) := by
  rw [arrive, follow, bind_assoc]
  rfl

/-- The names of some parts. -/
def partNames (parts : List (List Char)) : List String :=
  (parts.filter (· ≠ [])).map String.ofList

theorem partNames_cons (hne : part ≠ []) (parts : List (List Char)) :
    partNames (part :: parts) = String.ofList part :: partNames parts := by
  simp [partNames, hne]

theorem partNames_concat (hne : part ≠ []) (parts : List (List Char)) :
    partNames (parts ++ [part]) = partNames parts ++ [String.ofList part] := by
  simp [partNames, hne]

/-- A name leads where the component leads that it stands for; a full stop stays. -/
theorem nextPlace_part (hne : part ≠ []) (place : Place) :
    nextPlace place (String.ofList part) = (component? part).elim place (·.next place) := by
  have stop : String.ofList part = "." ↔ part = ['.'] := by
    rw [← String.toList_inj, String.toList_ofList]
    rfl
  have dots : String.ofList part = ".." ↔ part = ['.', '.'] := by
    rw [← String.toList_inj, String.toList_ofList]
    rfl
  simp only [nextPlace, stop, dots, component?, isVoid, hne, decide_false, Bool.false_or,
    decide_eq_true_eq]
  split
  · rfl
  · split <;> rfl

theorem bind_enter_eq_ok_iff {α : Type} {x : Except OsError α} {a : α} :
    (do t.enter place; x) = .ok a ↔ t.node? place = some .directory ∧ x = .ok a := by
  rw [bind_eq_ok_iff, ← enter_eq_ok_iff]
  exact ⟨fun ⟨_, entered, h⟩ => ⟨entered, h⟩, fun ⟨entered, h⟩ => ⟨(), entered, h⟩⟩

theorem error_of_bind_enter {α : Type} {x : Except OsError α}
    (h : (do t.enter place; x) = .error e) : t.enter place = .error e ∨ x = .error e := by
  cases entered : t.enter place with
  | error e' =>
    rw [entered] at h
    cases h
    exact .inl rfl
  | ok u =>
    rw [entered] at h
    exact .inr h

/-- **Parts are followed to their end** where all places on their way are directories. -/
theorem arrive_partNames : t.arrive place (partNames parts) = .ok q ↔
    t.Paved (stops place (parts.filterMap component?)) ∧
      q = placeOf place (parts.filterMap component?) := by
  induction parts generalizing place with
  | nil =>
    rw [partNames, List.filter_nil, List.map_nil, arrive_nil, bind_enter_eq_ok_iff]
    simp [Paved, stops, placeOf, pure, Except.pure, eq_comm]
  | cons part parts ih =>
    rcases eq_or_ne part [] with rfl | hne
    · exact ih
    · rw [partNames_cons hne, arrive_cons, nextPlace_part hne, bind_enter_eq_ok_iff, ih,
        List.filterMap_cons]
      cases component? part with
      | none => exact ⟨fun h => h.2, fun h => ⟨h.1 place (mem_stops_self _ _), h⟩⟩
      | some c =>
        rw [← and_assoc]
        refine and_congr_left fun _ => ?_
        simp only [Paved, stops, List.forall_mem_cons]
        rfl

theorem notFound_of_enter (noFile : ∀ bytes, t.node? place ≠ some (.file bytes))
    (h : t.enter place = .error e) : e = .notFound := by
  unfold enter at h
  split at h
  case h_1 => cases h
  case h_2 bytes there => exact absurd there (noFile bytes)
  case h_3 =>
    cases h
    rfl

/-- **Parts that no file stands in the way of** are followed to their end, or something on the way
    is not there. -/
theorem notFound_of_arrive (clear : t.Clear (stops place (parts.filterMap component?)))
    (h : t.arrive place (partNames parts) = .error e) : e = .notFound := by
  induction parts generalizing place with
  | nil =>
    rcases error_of_bind_enter h with failed | failed
    · exact notFound_of_enter (clear place (mem_stops_self _ _)) failed
    · cases failed
  | cons part parts ih =>
    rcases eq_or_ne part [] with rfl | hne
    · exact ih clear h
    · rw [partNames_cons hne, arrive_cons, nextPlace_part hne] at h
      rcases error_of_bind_enter h with failed | failed
      · exact notFound_of_enter (clear place (mem_stops_self _ _)) failed
      · refine ih (fun p hp => clear p ?_) failed
        rw [List.filterMap_cons]
        cases read : component? part with
        | none => simpa [read] using hp
        | some c => exact List.mem_cons_of_mem _ (by simpa [read] using hp)

/-! ## 3. From the lead on -/

/-- What a path is followed by: the names of its lead and those of some parts. -/
def stepNames (l : List Char) (parts : List (List Char)) : List String :=
  partNames (leadNames l ++ parts)

/-- A full stop in front is followed, but stands for nothing behind the lead. -/
theorem filterMap_leadNames (l : List Char) (parts : List (List Char)) :
    (leadNames l ++ parts).filterMap component? = parts.filterMap component? := by
  rw [leadNames]
  split <;> rfl

theorem filter_leadNames (l : List Char) : (leadNames l).filter (· ≠ []) = leadNames l := by
  rw [leadNames]
  split <;> rfl

/-- **Front parts of a path are followed to their end** where their way is paved. -/
theorem arrive_stepNames :
    t.arrive (if l = ['/'] then [] else here) (stepNames l parts) = .ok q ↔
      t.Paved (way here (leadComponents l ++ parts.filterMap component?)) ∧
        q = placeOf here (leadComponents l ++ parts.filterMap component?) := by
  rw [stepNames, arrive_partNames, filterMap_leadNames, placeOf_lead]
  simp only [Paved, mem_way_lead]

theorem notFound_of_stepNames
    (clear : t.Clear (way here (leadComponents l ++ parts.filterMap component?)))
    (h : t.arrive (if l = ['/'] then [] else here) (stepNames l parts) = .error e) :
    e = .notFound := by
  refine notFound_of_arrive ?_ h
  rw [filterMap_leadNames]
  simpa only [Clear, mem_way_lead] using clear

/-! ## 4. Paths -/

theorem head?_eq_slash_iff : path.head? = some '/' ↔ lead path = ['/'] := by
  have h := begins path
  generalize lead path = l at h
  cases h with
  | root rest => exact ⟨fun _ => rfl, fun _ => rfl⟩
  | here => decide
  | behindHere rest => exact ⟨nofun, nofun⟩
  | plain noRoot => exact ⟨fun root => absurd root noRoot, nofun⟩

theorem locate_eq (hne : path ≠ []) (t : Tree) (here : Place) :
    t.locate here (String.ofList path) = t.follow (if lead path = ['/'] then [] else here)
      (stepNames (lead path) (partsOf path) ++
        if path.getLast? = some '/' then ["."] else []) := by
  have filled : String.ofList path ≠ "" := fun none' => hne (String.ofList_inj.mp none')
  rw [locate, if_neg filled, namesOf, String.toList_ofList, names_eq, stepNames, partNames,
    List.filter_append, filter_leadNames]
  simp only [head?_eq_slash_iff]

/-- **A path leads where its components lead**, if its way is paved. -/
theorem locate_of_paved (hne : path ≠ []) (paved : t.Paved (way here (components path))) :
    t.locate here (String.ofList path) = .ok (placeOf here (components path)) := by
  have arrived := arrive_stepNames.mpr ⟨paved, rfl⟩
  obtain ⟨q, followed, entered⟩ := bind_eq_ok_iff.mp arrived
  obtain ⟨⟨⟩, entered, same⟩ := bind_eq_ok_iff.mp entered
  cases same
  rw [locate_eq hne, follow_append, followed]
  show t.follow _ _ = _
  split
  · rw [follow, entered]
    rfl
  · rfl

theorem isDirectory_of_paved (hne : path ≠ []) (paved : t.Paved (way here (components path))) :
    t.isDirectory here (String.ofList path) = true := by
  rw [isDirectory, locate_of_paved hne paved]
  exact decide_eq_true (paved _ (placeOf_mem_way here _))

theorem ne_nil_of_solid (solid : isVoid part = false) : part ≠ [] := by
  rintro rfl
  cases solid

/-- A path whose last part says something is not empty, and has no slash at its end. -/
theorem solid_end (h : partsOf path = parts ++ [part]) (solid : isVoid part = false) :
    path ≠ [] ∧ path.getLast? ≠ some '/' := by
  have filled : ∀ front, partsOf path ≠ front ++ [[]] := by
    intro front same
    rw [h] at same
    exact ne_nil_of_solid solid (List.singleton_inj.mp (List.append_inj_right' same rfl))
  constructor
  · rintro rfl
    exact filled [] rfl
  · intro last
    obtain ⟨before, rfl⟩ := List.getLast?_eq_some_iff.mp last
    rcases eq_or_ne before [] with rfl | hne
    · exact filled [] rfl
    · exact filled _ (partsOf_append_slash hne [])

/-- **The last part of a path** is followed from the place that the parts before it lead to, which
    has to be a directory. -/
theorem locate_lastPart (h : partsOf path = parts ++ [part]) (solid : isVoid part = false)
    (t : Tree) (here : Place) : t.locate here (String.ofList path) =
      (t.arrive (if lead path = ['/'] then [] else here) (stepNames (lead path) parts)).map
        (Component.ofPart part).next := by
  obtain ⟨hne, noSlash⟩ := solid_end h solid
  have filled := ne_nil_of_solid solid
  have names : stepNames (lead path) (parts ++ [part]) =
      stepNames (lead path) parts ++ [String.ofList part] := by
    rw [stepNames, ← List.append_assoc, partNames_concat filled, stepNames]
  rw [locate_eq hne, if_neg noSlash, List.append_nil, h, names, follow_append, arrive]
  cases t.follow (if lead path = ['/'] then [] else here) (stepNames (lead path) parts) with
  | error e => rfl
  | ok p =>
    show (do t.enter p; t.follow (nextPlace p (String.ofList part)) []) = _
    rw [nextPlace_part filled, component?_of_solid solid]
    show _ = Except.map _ (do t.enter p; pure p)
    cases t.enter p <;> rfl

/-- **The path of a file leads to it** just if the way of its directory is paved, and the file lies
    there under its name. -/
theorem locate_joined {dir file : List Char} (hfile : IsFileName file) (t : Tree) (here p : Place) :
    t.locate here (String.ofList (joined dir file)) = .ok p ↔
      t.Paved (way here (components dir)) ∧
        p = placeOf here (components dir) ++ [String.ofList file] := by
  obtain ⟨front, h⟩ := exists_parts_joined hfile dir
  have solid := isVoid_of_isFileName hfile
  have own : components dir =
      leadComponents (lead (joined dir file)) ++ front.filterMap component? := by
    have whole := components_joined hfile dir
    rw [components, h, List.filterMap_append, List.filterMap_cons, component?_of_solid solid,
      List.filterMap_nil, ← List.append_assoc] at whole
    exact (List.append_inj_left' whole rfl).symm
  have name : Component.ofPart file = .name file := if_neg hfile.noDots
  rw [locate_lastPart h solid, name, own]
  cases arrived : t.arrive (if lead (joined dir file) = ['/'] then [] else here)
      (stepNames (lead (joined dir file)) front) with
  | error e =>
    constructor
    · intro found
      cases found
    · rintro ⟨paved, -⟩
      rw [arrive_stepNames.mpr ⟨paved, rfl⟩] at arrived
      cases arrived
  | ok q =>
    obtain ⟨paved, rfl⟩ := arrive_stepNames.mp arrived
    constructor
    · intro found
      cases found
      exact ⟨paved, rfl⟩
    · rintro ⟨-, rfl⟩
      rfl

end Tree

end CrawlGraph.Disk
