import CrawlGraph.Proofs.Disk.Parts

/-!
# The components of a path

A slash parts a path into the components in front of it and those behind it. So a file that is
joined to a directory has one component more, and taking the last component off gives those of the
directory back.

1. Slashes (`components_append_slash`) and what stands behind them (`componentsIn`).
2. `ComponentRules`, which tell the components of every path.
3. Files in directories (`components_joined`) and directories of files (`components_of_parent?`).
4. The file of a store, and its directory (`components_storeDirectory`).
-/

namespace CrawlGraph.Disk

variable {path front part l : List Char} {parts back : List (List Char)}

/-! ## 1. Slashes -/

theorem Begins.append_slash (h : Begins front l) (hne : front ≠ []) (rest : List Char) :
    Begins (front ++ '/' :: rest) l := by
  cases h with
  | root tail => exact .root _
  | here => exact .behindHere rest
  | behindHere tail => exact .behindHere _
  | plain noRoot notHere notBehind =>
    obtain ⟨c, front, rfl⟩ := List.exists_cons_of_ne_nil hne
    refine .plain noRoot (fun here => ?_) fun tail behind => ?_
    · obtain ⟨-, here⟩ := List.cons_eq_cons.mp here
      exact List.append_ne_nil_of_right_ne_nil _ (List.cons_ne_nil _ _) here
    · obtain ⟨stop, slash⟩ := List.cons_eq_cons.mp behind
      cases front with
      | nil => exact notHere (congrArg (· :: []) stop)
      | cons d front =>
        obtain ⟨slash, -⟩ := List.cons_eq_cons.mp slash
        exact notBehind front (by rw [stop, slash])

theorem lead_append_slash (hne : front ≠ []) (rest : List Char) :
    lead (front ++ '/' :: rest) = lead front := ((begins front).append_slash hne rest).eq_lead

theorem Begins.isPrefix (h : Begins path l) : l <+: path := ⟨_, h.append_drop⟩

/-- **A slash parts a path** into the parts in front of it and those behind it. -/
theorem partsOf_append_slash (hne : front ≠ []) (rest : List Char) :
    partsOf (front ++ '/' :: rest) = partsOf front ++ rest.splitOn '/' := by
  rw [partsOf, lead_append_slash hne,
    List.drop_append_of_le_length (begins front).isPrefix.length_le, Text.splitOn_append_cons,
    partsOf]

/-- The components of a text that stands behind a slash. -/
def componentsIn (text : List Char) : List Component := (text.splitOn '/').filterMap component?

theorem components_append_slash (hne : front ≠ []) (rest : List Char) :
    components (front ++ '/' :: rest) = components front ++ componentsIn rest := by
  rw [components, lead_append_slash hne, partsOf_append_slash hne, List.filterMap_append,
    ← List.append_assoc, ← components, componentsIn]

theorem components_slash (rest : List Char) :
    components ('/' :: rest) = .root :: componentsIn rest := rfl

/-- What says nothing behind a slash says nothing in a path. -/
theorem components_congr {rest rest' : List Char} (h : componentsIn rest = componentsIn rest')
    (front : List Char) :
    components (front ++ '/' :: rest) = components (front ++ '/' :: rest') := by
  rcases eq_or_ne front [] with rfl | hne
  · rw [List.nil_append, List.nil_append, components_slash, components_slash, h]
  · rw [components_append_slash hne, components_append_slash hne, h]

theorem componentsIn_nil : componentsIn [] = [] := rfl

theorem componentsIn_stop : componentsIn ['.'] = [] := rfl

theorem componentsIn_slash (rest : List Char) : componentsIn ('/' :: rest) = componentsIn rest := by
  rw [componentsIn, splitOn_slash]
  rfl

theorem componentsIn_stop_slash (rest : List Char) :
    componentsIn ('.' :: '/' :: rest) = componentsIn rest := by
  rw [componentsIn, ← List.singleton_append, Text.splitOn_append_cons, List.filterMap_append]
  rfl

/-- The component that a part stands for that is not void. -/
def Component.ofPart (part : List Char) : Component :=
  if part = ['.', '.'] then .above else .name part

theorem Component.ofPart_ne_root (part : List Char) : Component.ofPart part ≠ .root := by
  unfold Component.ofPart
  split <;> exact nofun

theorem component?_of_solid (h : isVoid part = false) :
    component? part = some (.ofPart part) := by
  rw [component?, Component.ofPart, if_neg (Bool.eq_false_iff.mp h)]
  split <;> rfl

theorem componentsIn_part (noSlash : '/' ∉ part) (h : isVoid part = false) :
    componentsIn part = [.ofPart part] := by
  rw [componentsIn, List.splitOn_eq_singleton noSlash, List.filterMap_cons,
    component?_of_solid h, List.filterMap_nil]

/-! ## 2. The components of every path -/

/-- **What the components of a path are.** Every path is empty, a full stop or a single part, or it
    is a path with a slash and a part behind it. -/
structure ComponentRules : Prop where
  /-- The empty path has no components. -/
  nothing : components [] = []
  /-- A full stop at the very front is kept. -/
  stopInFront : components ['.'] = [.here]
  /-- A slash at the very front is the root. -/
  root : components ['/'] = [.root]
  /-- Any other part is one component more, two full stops too. -/
  onePart : ∀ part, '/' ∉ part → part ≠ [] → part ≠ ['.'] →
    components part = [.ofPart part] ∧
      ∀ front, components (front ++ '/' :: part) = components (front ++ ['/']) ++ [.ofPart part]
  /-- A slash at the end says nothing behind a path. -/
  slashAtEnd : ∀ front, front ≠ [] → components (front ++ ['/']) = components front
  /-- A full stop behind a slash says nothing at the end. -/
  stopAtEnd : ∀ front, components (front ++ ['/', '.']) = components (front ++ ['/'])
  /-- A full stop between slashes says nothing. -/
  stopInside : ∀ front rest,
    components (front ++ '/' :: '.' :: '/' :: rest) = components (front ++ '/' :: rest)
  /-- One of two slashes says nothing. -/
  slashTwice : ∀ front rest,
    components (front ++ '/' :: '/' :: rest) = components (front ++ '/' :: rest)

theorem components_part (noSlash : '/' ∉ part) (hne : part ≠ []) (noStop : part ≠ ['.']) :
    components part = [.ofPart part] := by
  rw [components, partsOf, lead_part noSlash noStop]
  exact componentsIn_part noSlash (by simp [isVoid, hne, noStop])

theorem componentRules : ComponentRules where
  nothing := rfl
  stopInFront := rfl
  root := rfl
  onePart part noSlash hne noStop := by
    refine ⟨components_part noSlash hne noStop, fun front => ?_⟩
    have own := componentsIn_part noSlash (by simp [isVoid, hne, noStop])
    rcases eq_or_ne front [] with rfl | filled
    · rw [List.nil_append, components_slash, own]
      rfl
    · rw [components_append_slash filled, components_append_slash filled, own, componentsIn_nil,
        List.append_nil]
  slashAtEnd front hne := by rw [components_append_slash hne, componentsIn_nil, List.append_nil]
  stopAtEnd := components_congr componentsIn_stop
  stopInside front rest := components_congr (componentsIn_stop_slash rest) front
  slashTwice front rest := components_congr (componentsIn_slash rest) front

example : components "./a//b/./../.".toList =
    [.here, .name ['a'], .name ['b'], .above] := by decide

/-! ## 3. Files and their directories -/

/-- **A file in a directory** has one component more than the directory: its name. -/
theorem components_joined {file : List Char} (hfile : Tree.IsFileName file) (dir : List Char) :
    components (joined dir file) = components dir ++ [.name file] := by
  have own : Component.ofPart file = .name file := if_neg hfile.noDots
  obtain ⟨alone, behind⟩ := componentRules.onePart file hfile.noSlash hfile.ne_nil hfile.noDot
  rw [own] at alone behind
  rw [joined]
  split
  case isTrue h =>
    rcases h with rfl | h
    · exact alone
    · obtain ⟨before, rfl⟩ := List.getLast?_eq_some_iff.mp h
      rw [List.append_assoc]
      exact behind before
  case isFalse h =>
    rw [behind, componentRules.slashAtEnd dir fun none' => h (.inl none')]

theorem joined_append (dir file rest : List Char) :
    joined dir (file ++ rest) = joined dir file ++ rest := by
  unfold joined
  split
  · rw [List.append_assoc]
  · rw [List.append_assoc, List.cons_append]

/-- The last part of the path of a file in a directory is its name. -/
theorem exists_parts_joined {file : List Char} (hfile : Tree.IsFileName file) (dir : List Char) :
    ∃ front, partsOf (joined dir file) = front ++ [file] := by
  have single : file.splitOn '/' = [file] := List.splitOn_eq_singleton hfile.noSlash
  have behind : ∀ before, ∃ front, partsOf (before ++ '/' :: file) = front ++ [file] := by
    intro before
    rcases eq_or_ne before [] with rfl | hne
    · exact ⟨[], single⟩
    · exact ⟨_, by rw [partsOf_append_slash hne, single]⟩
  rw [joined]
  split
  case isTrue h =>
    rcases h with rfl | h
    · refine ⟨[], ?_⟩
      rw [List.nil_append, partsOf, lead_part hfile.noSlash hfile.noDot]
      exact single
    · obtain ⟨before, rfl⟩ := List.getLast?_eq_some_iff.mp h
      rw [List.append_assoc]
      exact behind before
  case isFalse => exact behind dir

theorem filterMap_of_void (h : ∀ part ∈ parts, isVoid part = true) :
    parts.filterMap component? = [] := by
  refine List.filterMap_eq_nil_iff.mpr fun part hpart => ?_
  rw [component?, if_pos (h part hpart)]

theorem filterMap_withoutVoidEnd (parts : List (List Char)) :
    (withoutVoidEnd parts).filterMap component? = parts.filterMap component? := by
  conv_rhs => rw [← withoutVoidEnd_append parts, List.filterMap_append]
  rw [filterMap_of_void fun part hpart => List.mem_rtakeWhile_imp hpart, List.append_nil]

theorem components_lead (path : List Char) :
    components (lead path) = leadComponents (lead path) := by
  have h := begins path
  generalize lead path = l at h
  cases h <;> rfl

/-- **Front parts with nothing void at their end** have the components that they stand for. -/
theorem components_frontText (h : partsOf path = parts ++ back) (solid : EndsSolid parts) :
    components (lead path ++ ['/'].intercalate parts) =
      leadComponents (lead path) ++ parts.filterMap component? := by
  rcases eq_or_ne parts [] with rfl | hne
  · rw [List.intercalate_nil, List.append_nil, components_lead, List.filterMap_nil,
      List.append_nil]
  · rw [components, lead_frontText h solid, partsOf_frontText h solid hne]

/-- The components of the directory of a path are those of the path without the last one. -/
theorem components_directoryOf (h : withoutVoidEnd (partsOf path) ≠ []) :
    components (directoryOf path) = (components path).dropLast := by
  obtain ⟨before, part, parted⟩ : ∃ before part, withoutVoidEnd (partsOf path) = before ++ [part] :=
    ⟨_, _, (List.dropLast_concat_getLast h).symm⟩
  have solid : isVoid part = false := by
    refine endsSolid_withoutVoidEnd (partsOf path) part ?_
    rw [parted, List.getLast?_concat]
    rfl
  have whole : partsOf path = withoutVoidEnd before ++
      (before.rtakeWhile isVoid ++ ([part] ++ (partsOf path).rtakeWhile isVoid)) := by
    rw [← List.append_assoc, withoutVoidEnd_append, ← List.append_assoc, ← parted,
      withoutVoidEnd_append]
  have own : components path =
      leadComponents (lead path) ++ before.filterMap component? ++ [.ofPart part] := by
    rw [components, ← filterMap_withoutVoidEnd, parted, List.filterMap_append, List.filterMap_cons,
      component?_of_solid solid, List.filterMap_nil, List.append_assoc]
  rw [own, List.dropLast_concat, directoryOf, parted, List.dropLast_concat,
    components_frontText whole (endsSolid_withoutVoidEnd before), filterMap_withoutVoidEnd]

/-- What is void stays in the text of the directory, but not at its end. -/
example : directoryOf "a/.//b/.//linkgraph.db".toList = "a/.//b".toList := by decide

/-- A path with nothing but void parts has the components of its lead alone. -/
theorem components_of_void (h : withoutVoidEnd (partsOf path) = []) :
    components path = leadComponents (lead path) := by
  rw [components, ← filterMap_withoutVoidEnd, h, List.filterMap_nil, List.append_nil]

/-- The root and the working directory are no component of a part. -/
theorem above_or_name_of_component? {part : List Char} {c : Component}
    (h : component? part = some c) : c = .above ∨ c = .name part := by
  unfold component? at h
  split at h
  · cases h
  · split at h
    · exact .inl (Option.some.inj h).symm
    · exact .inr (Option.some.inj h).symm

/-- The working directory is a component in front alone. -/
theorem dropLast_of_here (h : (components path).getLast? = some .here) :
    (components path).dropLast = [] := by
  have alone : (partsOf path).filterMap component? = [] := by
    rcases List.eq_nil_or_concat ((partsOf path).filterMap component?) with none' | ⟨front, c, own⟩
    · exact none'
    · rw [List.concat_eq_append] at own
      rw [components, own, ← List.append_assoc, List.getLast?_concat, Option.some.injEq] at h
      have mem : Component.here ∈ (partsOf path).filterMap component? := by
        rw [own, h]
        exact List.mem_append_right _ List.mem_cons_self
      obtain ⟨part, -, here⟩ := List.mem_filterMap.mp mem
      rcases above_or_name_of_component? here with own | own <;> cases own
  rw [components, alone, List.append_nil, leadComponents]
  split
  · rfl
  · split <;> rfl

/-- **Taking the last component off** leaves the others. -/
theorem components_of_parent? {dir : List Char} (h : parent? path = some dir) :
    components dir = (components path).dropLast := by
  unfold parent? at h
  split at h
  case h_1 => cases h
  case h_2 => cases h
  case h_3 last =>
    cases h
    rw [dropLast_of_here last]
    rfl
  case h_4 c noRoot noHere last =>
    cases h
    refine components_directoryOf fun void => ?_
    rw [components_of_void void, leadComponents] at last
    split at last
    · cases last
      exact noRoot rfl
    · split at last
      · cases last
        exact noHere rfl
      · cases last

/-! ## 4. The file of a store -/

theorem isFileName_store : Tree.IsFileName storeName := by
  constructor <;> decide

theorem components_storePath (home dir : List Char) :
    components (storePath home dir) = components (expandHome home dir) ++ [.name storeName] :=
  components_joined isFileName_store _

theorem parent?_storePath (home dir : List Char) :
    parent? (storePath home dir) = some (storeDirectory home dir) := by
  rw [parent?, components_storePath, List.getLast?_concat]
  rfl

/-- The root is in no directory, but a file in it is. -/
example : parent? ['/'] = none ∧ parent? (storePath [] ['/']) = some ['/'] := by decide

/-- **The file of a store lies in the directory that is named**, whatever is written there. -/
theorem components_storeDirectory (home dir : List Char) :
    components (storeDirectory home dir) = components (expandHome home dir) := by
  rw [components_of_parent? (parent?_storePath home dir), components_storePath,
    List.dropLast_concat]

end CrawlGraph.Disk
