import CrawlGraph.Json.Value
import CrawlGraph.Proofs.Json.Lexical

/-!
# The grammar of JSON values

A value is written in one way as tokens. The reader, which keeps the open containers in a list,
reads these tokens and no others, at any depth.

1. `Value.tokens`, the tokens of a value.
2. The reader goes from a value that has to follow to the value that is complete (`run?_tokens`).
3. What a reader has read can be told from its state (`Reader.soFar`): each step adds its token
   (`soFar_of_step?`).
4. `ofTokens?_eq_some_iff`, and `parse?_eq_some_iff`: which texts spell a value.
-/

namespace CrawlGraph.Json

/-! ## 1. The tokens of a value -/

mutual

/-- The tokens of a value. -/
def Value.tokens : Value → List Token
  | .null => [.null]
  | .bool b => [.bool b]
  | .number numeral => [.number numeral]
  | .string text => [.string text]
  | .array elements => .openBracket :: elementsTokens elements ++ [.closeBracket]
  | .object members => .openBrace :: membersTokens members ++ [.closeBrace]

/-- The tokens between the brackets of an array. -/
def elementsTokens : List Value → List Token
  | [] => []
  | [v] => v.tokens
  | v :: w :: vs => v.tokens ++ .comma :: elementsTokens (w :: vs)

/-- The tokens between the braces of an object. -/
def membersTokens : List (Option (List Char) × Value) → List Token
  | [] => []
  | [(name, v)] => .string name :: .colon :: v.tokens
  | (name, v) :: m :: ms => .string name :: .colon :: v.tokens ++ .comma :: membersTokens (m :: ms)

end

/-- The tokens of elements with a comma behind each. -/
def listed (elements : List Value) : List Token := elements.flatMap fun v => v.tokens ++ [.comma]

/-- The tokens of members with a comma behind each. -/
def listedMembers (members : List Member) : List Token :=
  members.flatMap fun m => .string m.1 :: .colon :: m.2.tokens ++ [.comma]

theorem elementsTokens_concat (vs : List Value) (v : Value) :
    elementsTokens (vs ++ [v]) = listed vs ++ v.tokens := by
  induction vs with
  | nil => rw [listed, List.nil_append, elementsTokens, List.flatMap_nil, List.nil_append]
  | cons w vs ih =>
    obtain ⟨x, xs, hxs⟩ := List.exists_cons_of_ne_nil (List.concat_ne_nil v vs)
    rw [hxs] at ih
    simp [hxs, elementsTokens, ih, listed]

theorem membersTokens_concat (ms : List Member) (m : Member) :
    membersTokens (ms ++ [m]) = listedMembers ms ++ .string m.1 :: .colon :: m.2.tokens := by
  induction ms with
  | nil => rw [listedMembers, List.nil_append, membersTokens, List.flatMap_nil, List.nil_append]
  | cons n ms ih =>
    obtain ⟨x, xs, hxs⟩ := List.exists_cons_of_ne_nil (List.concat_ne_nil m ms)
    rw [hxs] at ih
    simp [hxs, membersTokens, ih, listedMembers]

/-! ## 2. Reading the tokens of a value -/

namespace Reader

/-- Whether a member has to follow in an object with the given members. -/
def Expects (r : Reader) (members : List Member) (outer : List Outer) : Prop :=
  ∀ name, r.step? (.string name) = some (.colon members name outer)

theorem Expects.run?_member {r : Reader} {members : List Member} {outer : List Outer}
    (h : r.Expects members outer) (name : Option (List Char)) (ts : List Token) :
    r.run? (.string name :: .colon :: ts) = (value (.object members name :: outer)).run? ts := by
  have colon : (Reader.colon members name outer).step? .colon =
      some (value (.object members name :: outer)) := rfl
  rw [run?, h name, Option.bind_some, run?, colon, Option.bind_some]

/-- A closing bracket apart, an array that was opened reads on like one whose first element has to
    follow. -/
theorem step?_arrayStart {t : Token} (h : t ≠ .closeBracket) (outer : List Outer) :
    (arrayStart outer).step? t = (value (.array [] :: outer)).step? t := by
  cases t with
  | closeBracket => exact absurd rfl h
  | _ => rfl

/-- A value does not begin with a closing bracket. -/
theorem exists_tokens_cons (v : Value) : ∃ t ts, v.tokens = t :: ts ∧ t ≠ .closeBracket := by
  cases v <;> exact ⟨_, _, by simp only [Value.tokens]; rfl, by simp⟩

theorem run?_arrayStart (v : Value) (vs : List Value) (outer : List Outer) (us : List Token) :
    (arrayStart outer).run? (elementsTokens (v :: vs) ++ us) =
      (value (.array [] :: outer)).run? (elementsTokens (v :: vs) ++ us) := by
  obtain ⟨t, ts, hts, front⟩ := exists_tokens_cons v
  have begins : ∃ rest, elementsTokens (v :: vs) = t :: rest := by
    cases vs with
    | nil => exact ⟨ts, by rw [elementsTokens, hts]⟩
    | cons w vs => exact ⟨_, by rw [elementsTokens, hts, List.cons_append]⟩
  obtain ⟨rest, hrest⟩ := begins
  rw [hrest, List.cons_append, run?, run?, step?_arrayStart front]

mutual

/-- **The tokens of a value complete it**, whatever stands around it and behind it. -/
theorem run?_tokens (outer : List Outer) (us : List Token) :
    ∀ v : Value, (value outer).run? (v.tokens ++ us) = (complete v outer).run? us
  | .array [] => by simp [Value.tokens, elementsTokens, run?, step?, begin?]
  | .array (v :: vs) => by
    have elements := run?_elements [] outer us (v :: vs) (List.cons_ne_nil v vs)
    rw [← run?_arrayStart] at elements
    simpa [Value.tokens, run?, step?, begin?] using elements
  | .object [] => by simp [Value.tokens, membersTokens, run?, step?, begin?]
  | .object (m :: ms) => by
    have start : (objectStart outer).Expects [] outer := fun _ => rfl
    have members := run?_members [] outer us (m :: ms) (List.cons_ne_nil m ms) _ start
    simpa [Value.tokens, run?, step?, begin?] using members
  | .null | .bool _ | .number _ | .string _ => by simp [Value.tokens, run?, step?, begin?]

/-- The elements of an array are read one by one, up to the bracket that closes it. -/
theorem run?_elements (done : List Value) (outer : List Outer) (us : List Token) :
    ∀ vs : List Value, vs ≠ [] →
      (value (.array done :: outer)).run? (elementsTokens vs ++ .closeBracket :: us) =
        (complete (.array (done.reverse ++ vs)) outer).run? us
  | [], h => absurd rfl h
  | [v], _ => by
    rw [elementsTokens, run?_tokens _ _ v]
    simp [run?, step?, continue?]
  | v :: w :: vs, _ => by
    have rest := run?_elements (v :: done) outer us (w :: vs) (List.cons_ne_nil w vs)
    rw [elementsTokens, List.append_assoc, run?_tokens _ _ v, List.cons_append, run?]
    simpa [step?, continue?] using rest

/-- The members of an object are read one by one, up to the brace that closes it. -/
theorem run?_members (done : List Member) (outer : List Outer) (us : List Token) :
    ∀ ms : List (Option (List Char) × Value), ms ≠ [] → ∀ r : Reader, r.Expects done outer →
      r.run? (membersTokens ms ++ .closeBrace :: us) =
        (complete (.object (done.reverse ++ ms)) outer).run? us
  | [], h, _, _ => absurd rfl h
  | [(name, v)], _, r, expects => by
    rw [membersTokens, List.cons_append, List.cons_append, expects.run?_member,
      run?_tokens _ _ v]
    simp [run?, step?, continue?]
  | (name, v) :: m :: ms, _, r, expects => by
    have next : (member ((name, v) :: done) outer).Expects ((name, v) :: done) outer :=
      fun _ => rfl
    have rest := run?_members _ outer us (m :: ms) (List.cons_ne_nil m ms) _ next
    rw [membersTokens, List.cons_append, List.cons_append, List.cons_append, List.cons_append,
      List.append_assoc, expects.run?_member, run?_tokens _ _ v, List.cons_append, run?]
    simpa [step?, continue?] using rest

end

/-! ## 3. What was read -/

/-- The tokens in front of a value, as its open containers hold them. -/
def around : List Outer → List Token
  | [] => []
  | .array done :: outer => around outer ++ .openBracket :: listed done.reverse
  | .object done name :: outer =>
    around outer ++ .openBrace :: listedMembers done.reverse ++ [.string name, .colon]

/-- The tokens that a reader has read. -/
def soFar : Reader → List Token
  | value outer => around outer
  | arrayStart outer => around outer ++ [.openBracket]
  | objectStart outer => around outer ++ [.openBrace]
  | member done outer => around outer ++ .openBrace :: listedMembers done.reverse
  | colon done name outer =>
    around outer ++ .openBrace :: listedMembers done.reverse ++ [.string name]
  | complete v outer => around outer ++ v.tokens

theorem soFar_of_begin? {outer : List Outer} {t : Token} {r : Reader}
    (h : begin? outer t = some r) : r.soFar = around outer ++ [t] := by
  cases t <;> cases h <;> simp [soFar, Value.tokens]

theorem soFar_of_continue? {v : Value} {outer : List Outer} {t : Token} {r : Reader}
    (h : continue? v outer t = some r) : r.soFar = around outer ++ v.tokens ++ [t] := by
  unfold continue? at h
  split at h
  case h_5 => cases h
  all_goals cases h
  · simp [soFar, around, listed]
  · simp [soFar, around, Value.tokens, elementsTokens_concat]
  · simp [soFar, around, listedMembers]
  · simp [soFar, around, Value.tokens, membersTokens_concat]

/-- **A step adds its token to what was read.** -/
theorem soFar_of_step? {r r' : Reader} {t : Token} (h : r.step? t = some r') :
    r'.soFar = r.soFar ++ [t] := by
  unfold step? at h
  split at h
  case h_1 => exact soFar_of_begin? h
  case h_3 =>
    have read := soFar_of_begin? h
    rwa [around, List.reverse_nil, listed, List.flatMap_nil] at read
  case h_8 => exact soFar_of_continue? h
  case h_9 => cases h
  all_goals cases h
  · simp [soFar, Value.tokens, elementsTokens]
  · simp [soFar, Value.tokens, membersTokens]
  · simp [soFar, listedMembers]
  · simp [soFar]
  · simp [soFar, around]

theorem soFar_of_run? {r r' : Reader} {ts : List Token} (h : r.run? ts = some r') :
    r'.soFar = r.soFar ++ ts := by
  induction ts generalizing r with
  | nil =>
    cases h
    exact (List.append_nil _).symm
  | cons t ts ih =>
    obtain ⟨next, hnext, rest⟩ := Option.bind_eq_some_iff.mp h
    rw [ih rest, soFar_of_step? hnext, List.append_assoc, List.singleton_append]

end Reader

/-- **Tokens spell a value just if they are its tokens.** -/
theorem ofTokens?_eq_some_iff {ts : List Token} {v : Value} :
    Value.ofTokens? ts = some v ↔ ts = v.tokens := by
  constructor
  · intro h
    unfold Value.ofTokens? at h
    split at h
    case h_2 => cases h
    case h_1 w run =>
      cases h
      exact (Reader.soFar_of_run? run).symm
  · rintro rfl
    have run := Reader.run?_tokens [] [] v
    rw [List.append_nil] at run
    rw [Value.ofTokens?, run]
    rfl

/-! ## 4. Texts -/

/-- A token that may stand in front of any other one keeps the rest apart. -/
theorem isChain_cons (t : Token) (before : ∀ u, t.Before u) {ts : List Token}
    (chain : ts.IsChain Token.Before) : (t :: ts).IsChain Token.Before :=
  List.isChain_cons.mpr ⟨fun u _ => before u, chain⟩

/-- A name and a colon keep what follows them apart. -/
theorem isChain_member (name : Option (List Char)) {ts : List Token}
    (chain : ts.IsChain Token.Before) : (.string name :: .colon :: ts).IsChain Token.Before :=
  isChain_cons (.string name) (fun _ => trivial) (isChain_cons .colon (fun _ => trivial) chain)

mutual

/-- **Behind each numeral of a value stands what may stand there**, if that holds of what follows
    the value. -/
theorem isChain_tokens {us : List Token} (chain : us.IsChain Token.Before) (behind : Behind us) :
    ∀ v : Value, (v.tokens ++ us).IsChain Token.Before
  | .array vs => by
    have close := isChain_cons .closeBracket (fun _ => trivial) chain
    have elements := isChain_elements close (behind_cons (.inr (.inl rfl)) us) vs
    rw [Value.tokens, List.append_assoc]
    exact isChain_cons .openBracket (fun _ => trivial) elements
  | .object ms => by
    have close := isChain_cons .closeBrace (fun _ => trivial) chain
    have members := isChain_members close (behind_cons (.inr (.inr rfl)) us) ms
    rw [Value.tokens, List.append_assoc]
    exact isChain_cons .openBrace (fun _ => trivial) members
  | .null | .bool _ | .number _ | .string _ => by
    rw [Value.tokens]
    exact List.isChain_cons.mpr ⟨behind.before _, chain⟩

theorem isChain_elements {us : List Token} (chain : us.IsChain Token.Before) (behind : Behind us) :
    ∀ vs : List Value, (elementsTokens vs ++ us).IsChain Token.Before
  | [] => by rwa [elementsTokens]
  | [v] => by
    rw [elementsTokens]
    exact isChain_tokens chain behind v
  | v :: w :: vs => by
    have rest := isChain_elements chain behind (w :: vs)
    rw [elementsTokens, List.append_assoc]
    exact isChain_tokens (isChain_cons .comma (fun _ => trivial) rest) (behind_cons (.inl rfl) _) v

theorem isChain_members {us : List Token} (chain : us.IsChain Token.Before) (behind : Behind us) :
    ∀ ms : List (Option (List Char) × Value), (membersTokens ms ++ us).IsChain Token.Before
  | [] => by rwa [membersTokens]
  | [(name, v)] => by
    rw [membersTokens]
    exact isChain_member name (isChain_tokens chain behind v)
  | (name, v) :: m :: ms => by
    have rest := isChain_members chain behind (m :: ms)
    have value :=
      isChain_tokens (isChain_cons .comma (fun _ => trivial) rest) (behind_cons (.inl rfl) _) v
    rw [membersTokens, List.append_assoc]
    exact isChain_member name value

end

/-- **A text spells a value just if it is made of the tokens of the value.** -/
theorem parse?_eq_some_iff {cs : List Char} {v : Value} :
    Value.parse? cs = some v ↔ Lexed cs v.tokens := by
  constructor
  · intro h
    obtain ⟨ts, hts, tokens⟩ := Option.bind_eq_some_iff.mp h
    rw [ofTokens?_eq_some_iff] at tokens
    subst tokens
    have apart := isChain_tokens List.isChain_nil nofun v
    rw [List.append_nil] at apart
    exact lexed_of_tokens? hts apart
  · intro h
    rw [Value.parse?, tokens?_of_lexed h, Option.bind_some, ofTokens?_eq_some_iff]

end CrawlGraph.Json
