import CrawlGraph.Proofs.Json.Grammar
import CrawlGraph.Proofs.Json.RoundTrip

/-!
# Records and the members of their texts

Which record a text is read as depends on nothing but the members with the names of the record.

1. What a name finds (`only?`), and how it changes with the members.
2. What may follow a value: white space alone (`parse?_append_eq_none`).
3. `ReadByName`, and `links_and_edges_are_read_by_name`.
-/

namespace CrawlGraph.Json

/-! ## 1. Members by name -/

/-- Whether a member has a name. -/
def isNamed (name : String) (m : Member) : Bool := m.1 == some name.toList

/-- The value of the only member with a name. -/
def only? (members : List Member) (name : String) : Option Value :=
  match members.filter (isNamed name) with
  | [m] => some m.2
  | _ => none

theorem fields?_object_eq (names : List String) (members : List Member) :
    Value.fields? names (.object members) =
      if members.all (·.1.isSome) then names.mapM (only? members) else none := rfl

theorem only?_eq_some_iff {members : List Member} {name : String} {v : Value} :
    only? members name = some v ↔ members.filter (isNamed name) = [(some name.toList, v)] := by
  constructor
  · intro h
    unfold only? at h
    split at h
    case h_2 => cases h
    case h_1 m single =>
      cases h
      have found : m ∈ members.filter (isNamed name) := single ▸ List.mem_cons_self
      have same := (List.mem_filter.mp found).2
      rw [isNamed, beq_iff_eq] at same
      rw [single, ← same]
  · intro h
    rw [only?, h]

/-- **What is read depends on what the names find alone**, as long as all names are texts. -/
theorem fields?_congr {names : List String} {ms ns : List Member}
    (texts : ms.all (·.1.isSome) = ns.all (·.1.isSome))
    (found : ∀ name ∈ names, only? ms name = only? ns name) :
    Value.fields? names (.object ms) = Value.fields? names (.object ns) := by
  have all : names.mapM (only? ms) = names.mapM (only? ns) := by
    ext vs
    rw [mapM_eq_some_iff, mapM_eq_some_iff, List.map_congr_left found]
  rw [fields?_object_eq, fields?_object_eq, texts, all]

theorem only?_perm {ms ns : List Member} (h : ms.Perm ns) (name : String) :
    only? ms name = only? ns name := by
  have known := h.filter (isNamed name)
  ext v
  rw [only?_eq_some_iff, only?_eq_some_iff, ← List.perm_singleton, ← List.perm_singleton]
  exact ⟨known.symm.trans, known.trans⟩

/-- The order of the members says nothing. -/
theorem fields?_perm {ms ns : List Member} (h : ms.Perm ns) (names : List String) :
    Value.fields? names (.object ms) = Value.fields? names (.object ns) := by
  refine fields?_congr ?_ fun name _ => only?_perm h name
  rw [Bool.eq_iff_iff, List.all_eq_true, List.all_eq_true]
  exact forall_congr' fun m => by rw [h.mem_iff]

/-- A member with a name that is not asked for says nothing. -/
theorem fields?_extended {names : List String} {name : String} (h : name ∉ names)
    (front back : List Member) (v : Value) :
    Value.fields? names (.object (front ++ (some name.toList, v) :: back)) =
      Value.fields? names (.object (front ++ back)) := by
  refine fields?_congr (by simp) fun known hknown => ?_
  have other : isNamed known (some name.toList, v) = false := by
    rw [isNamed, beq_eq_false_iff_ne, ne_eq, Option.some.injEq, String.toList_inj]
    rintro rfl
    exact h hknown
  rw [only?, only?, List.filter_append, List.filter_append, List.filter_cons, other,
    if_neg Bool.false_ne_true]

/-- **The values that the names find are the only ones**, if each name finds one. -/
theorem fields?_eq_some {names : List String} {members : List Member} {vs ws : List Value}
    (h : Value.fields? names (.object members) = some ws)
    (values : List.Forall₂ (fun name v => (some name.toList, v) ∈ members) names vs) :
    ws = vs := by
  rw [fields?_object_eq] at h
  split at h
  case isFalse => cases h
  case isTrue =>
    rw [mapM_eq_some_iff] at h
    induction values generalizing ws with
    | nil => exact List.map_eq_nil_iff.mp h.symm
    | @cons name v names vs mem _ ih =>
      cases ws with
      | nil => cases h
      | cons w ws =>
        obtain ⟨hw, hws⟩ := List.cons_eq_cons.mp h
        rw [only?_eq_some_iff] at hw
        have named : (some name.toList, v) ∈ members.filter (isNamed name) :=
          List.mem_filter.mpr ⟨mem, beq_self_eq_true _⟩
        rw [hw, List.mem_singleton, Prod.mk.injEq] at named
        rw [named.2, ih hws]

/-- **Each name stands once** among members that are read. -/
theorem countP_of_fields? {names : List String} {members : List Member} {vs : List Value}
    (h : Value.fields? names (.object members) = some vs) {name : String} (hname : name ∈ names) :
    members.countP (isNamed name) = 1 := by
  rw [fields?_object_eq] at h
  split at h
  case isFalse => cases h
  case isTrue =>
    rw [mapM_eq_some_iff] at h
    obtain ⟨v, -, hv⟩ := List.mem_map.mp (h ▸ List.mem_map_of_mem hname)
    rw [eq_comm, only?_eq_some_iff] at hv
    rw [List.countP_eq_length_filter, hv, List.length_singleton]

/-! ## 2. What follows a value -/

/-- Tokens behind a value are too many. -/
theorem ofTokens?_append (v : Value) {us : List Token} (h : us ≠ []) :
    Value.ofTokens? (v.tokens ++ us) = none := by
  cases us with
  | nil => exact absurd rfl h
  | cons u us => rw [Value.ofTokens?, Reader.run?_tokens, Reader.run?, Reader.step?]; rfl

/-- A token that ends where a text begins ends there too when more follows the text. -/
theorem Token.EndsAt.append {t : Token} {c : Char} {tail : List Char} (h : t.EndsAt (c :: tail))
    (rest : List Char) : t.EndsAt (c :: tail ++ rest) := by
  cases t with
  | number => exact h
  | _ => trivial

/-- Tokens that end with no numeral are read from the front of any text. -/
theorem tokens?_append_of_lexed {cs : List Char} {ts : List Token} (h : Lexed cs ts)
    (last : ∀ numeral, ts.getLast? ≠ some (.number numeral)) (rest : List Char) :
    tokens? (cs ++ rest) = (tokens? rest).map (ts ++ ·) := by
  induction h with
  | nil => simp
  | space space _ ih => rw [List.cons_append, tokens?_space space, ih last]
  | @token lexeme tail t ts hlexeme ends lexed ih =>
    have ends' : t.EndsAt (tail ++ rest) := by
      cases tail with
      | cons c tail => exact ends.append rest
      | nil =>
        have none' := tokens?_of_lexed lexed
        rw [tokens?, Option.some.injEq] at none'
        subst none'
        cases t with
        | number numeral => exact absurd rfl (last numeral)
        | _ => trivial
    have lastOfTail : ∀ numeral, ts.getLast? ≠ some (.number numeral) := by
      intro numeral h
      exact last numeral (by rw [List.getLast?_cons, h, Option.getD_some])
    rw [List.append_assoc, tokens?_append hlexeme ends', ih lastOfTail, Option.map_map]
    rfl

/-- A text without tokens is white space. -/
theorem isSpace_of_lexed {cs : List Char} (h : Lexed cs []) : ∀ c ∈ cs, isSpace c = true := by
  generalize hts : ([] : List Token) = ts at h
  induction h with
  | nil => simp
  | space space _ ih =>
    intro c hc
    rcases List.mem_cons.mp hc with rfl | hc
    · exact space
    · exact ih hts c hc
  | token => cases hts

/-- **Nothing but white space may follow the tokens of an object.** -/
theorem parse?_append_eq_none {cs rest : List Char} {members : List Member}
    (h : Lexed cs (Value.object members).tokens) {c : Char} (hc : c ∈ rest)
    (solid : isSpace c = false) : Value.parse? (cs ++ rest) = none := by
  have last : ∀ numeral, (Value.object members).tokens.getLast? ≠ some (.number numeral) := by
    intro numeral
    rw [Value.tokens, List.getLast?_concat]
    exact nofun
  rw [Value.parse?, tokens?_append_of_lexed h last]
  cases hus : tokens? rest with
  | none => rfl
  | some us =>
    refine ofTokens?_append _ fun none' => ?_
    subst none'
    have space := isSpace_of_lexed (lexed_of_tokens? hus List.isChain_nil) c hc
    exact Bool.false_ne_true (solid.symm.trans space)

/-! ## 3. Records -/

/-- Whether a text spells a value: white space apart, it is made of the tokens of the value. -/
def Spells (s : String) (v : Value) : Prop := Lexed s.toList v.tokens

/-- **A kind of record is read by the names of its members.** -/
structure ReadByName {α : Type} (names : List String) (read? : String → Option α) : Prop where
  /-- Every record is read from some object. -/
  readable : ∀ r, ∃ s members, Spells s (.object members) ∧ read? s = some r
  /-- What is read is an object or an array. -/
  container : ∀ s r, read? s = some r →
    (∃ members, Spells s (.object members)) ∨ ∃ elements, Spells s (.array elements)
  /-- White space between the tokens, and the way in which strings are escaped, say nothing. -/
  spaced : ∀ s t tokens, Lexed s.toList tokens → Lexed t.toList tokens → read? s = read? t
  /-- The order of the members says nothing. -/
  permuted : ∀ s t members others, Spells s (.object members) → Spells t (.object others) →
    members.Perm others → read? s = read? t
  /-- A member that no name of the record asks for says nothing, whatever its value is. -/
  extended : ∀ s t front back name v, name ∉ names → Spells s (.object (front ++ back)) →
    Spells t (.object (front ++ (some name.toList, v) :: back)) → read? s = read? t
  /-- The values alone are read as the record, when they stand in the order of the names. -/
  listed : ∀ s t members values r, Spells s (.object members) → read? s = some r →
    List.Forall₂ (fun name v => (some name.toList, v) ∈ members) names values →
    Spells t (.array values) → read? t = some r
  /-- A name of the record has to stand exactly once. -/
  once : ∀ s members name, Spells s (.object members) → name ∈ names →
    members.countP (isNamed name) ≠ 1 → read? s = none
  /-- Nothing but white space may follow an object. -/
  alone : ∀ s rest members, Spells s (.object members) → (∃ c ∈ rest.toList, isSpace c = false) →
    read? (s ++ rest) = none

/-- **A record that is built from what its names find**, and that its row describes, is read by its
    names. -/
theorem readByName_of_fields {α : Type} {names : List String} {of? : Value → Option α}
    {row : α → Row} (described : ∀ r, of? (.object ((row r).map memberOf)) = some r)
    (built : ∃ build, ∀ v, of? v = (v.fields? names).bind build) :
    ReadByName names fun s => (Value.parse? s.toList).bind of? := by
  obtain ⟨build, built⟩ := built
  have spelled : ∀ {s v}, Spells s v →
      (Value.parse? s.toList).bind of? = (v.fields? names).bind build := by
    intro s v h
    rw [parse?_eq_some_iff.mpr h, Option.bind_some, built]
  constructor
  case readable =>
    intro r
    have parsed := (parse?_row (row r)).1
    refine ⟨String.ofList (compact (row r)), (row r).map memberOf, ?_, ?_⟩
    · rw [Spells, String.toList_ofList]
      exact parse?_eq_some_iff.mp parsed
    · rw [String.toList_ofList, parsed, Option.bind_some, described]
  case container =>
    intro s r h
    obtain ⟨v, hv, h⟩ := Option.bind_eq_some_iff.mp h
    rw [parse?_eq_some_iff] at hv
    rw [built] at h
    cases v with
    | object members => exact .inl ⟨members, hv⟩
    | array elements => exact .inr ⟨elements, hv⟩
    | _ => cases h
  case spaced =>
    intro s t ts hs ht
    rw [Value.parse?, Value.parse?, tokens?_of_lexed hs, tokens?_of_lexed ht]
  case permuted =>
    intro s t ms ns hs ht perm
    rw [spelled hs, spelled ht, fields?_perm perm]
  case extended =>
    intro s t front back name v unknown hs ht
    rw [spelled hs, spelled ht, fields?_extended unknown]
  case listed =>
    intro s t ms vs r hs hr values ht
    rw [spelled hs] at hr
    obtain ⟨ws, hws, hr⟩ := Option.bind_eq_some_iff.mp hr
    have same := fields?_eq_some hws values
    subst same
    rw [spelled ht, Value.fields?, if_pos values.length_eq.symm, Option.bind_some, hr]
  case once =>
    intro s ms name hs hname count
    rw [spelled hs]
    cases hvs : Value.fields? names (.object ms) with
    | none => rfl
    | some vs => exact absurd (countP_of_fields? hvs hname) count
  case alone =>
    rintro s rest ms hs ⟨c, hc, solid⟩
    rw [String.toList_append, parse?_append_eq_none hs hc solid, Option.bind_none]

/-- **Links and edges are read by the names of their members**: members in another order, members
    with other names and white space between the tokens make no difference, and neither does
    leaving out the names where the values stand in their order. A member that is missing or
    repeated is refused, and so is anything but white space behind the object. -/
theorem links_and_edges_are_read_by_name :
    ReadByName ["id", "url", "retrieved_at"] readLink? ∧
      ReadByName ["id", "src", "dst", "updated_at"] readEdge? :=
  ⟨readByName_of_fields linkOf?_row ⟨_, fun _ => rfl⟩,
    readByName_of_fields edgeOf?_row ⟨_, fun _ => rfl⟩⟩

end CrawlGraph.Json
