import CrawlGraph.Proofs.Outcomes
import CrawlGraph.Proofs.Tables.Keys

/-!
# What a failed upsert leaves in tables

Tables may hold rows that came in from elsewhere. Storing a record is one statement, which writes
first and gives the row back to be read afterwards: so a row that cannot be read is written all the
same. This module says what is left of the tables then, whatever rows they hold.

1. `raiseLink` and `raiseEdge`, all that a failed upsert may do to tables.
2. `identOf`, the identifier of a row that is given back, and what can be wrong with it.
3. `Failure`, the ways in which a statement fails, and with it the whole upsert.
4. `Contained`, what is left of the tables and of the record, and `contained_of_reached`.
-/

namespace CrawlGraph

namespace Tables

variable {t : Tables}

/-! ## 1. Raised times -/

/-- The tables with the time of the row of a link's URL raised to the link's time, if that is
    later. -/
def raiseLink (t : Tables) (link : Link) : Tables :=
  { t with links := t.links.map fun rows => rows.map fun row =>
      if row.url = .ofString link.url then
        { row with retrievedAt := row.retrievedAt.later link.retrievedAt }
      else row }

/-- The tables with the time of the row of an edge's pair raised to a time, if that is later. -/
def raiseEdge (t : Tables) (edge : Edge) (now : Stamp) : Tables :=
  { t with edges := t.edges.map fun rows => rows.map fun row =>
      if row.src = .ofString edge.src.text ∧ row.dst = .ofString edge.dst.text then
        { row with updatedAt := row.updatedAt.later now }
      else row }

/-- Whether a row of the table of links has the URL, and the value in place of its identifier. -/
def LinkNamed (t : Tables) (url : String) (value : Stored) : Prop :=
  ∃ row ∈ t.links.getD [], row.url = .ofString url ∧ row.id = value

/-- Whether a row of the table of edges has the pair, and the value in place of its identifier. -/
def EdgeNamed (t : Tables) (src dst : String) (value : Stored) : Prop :=
  ∃ row ∈ t.edges.getD [], row.src = .ofString src ∧ row.dst = .ofString dst ∧ row.id = value

/-- A time that stays none when a later one comes is not replaced. -/
theorem later_eq_self {s : Stored} {time : Stamp} (h : (s.later time).stamp? = none) :
    s.later time = s := by
  unfold Stored.later at h ⊢
  split at h
  · cases h
  · rename_i hs
    exact if_neg hs

/-! ## 2. Identifiers given back -/

/-- The identifier that a value of a row stands for. -/
def identOf (op : Operation) (value : Stored) : Except StoreError Ident :=
  readText op 0 "id" value >>= decodeIdent op

theorem invalid_of_decodeIdent {op : Operation} {text : String} {e : StoreError}
    (h : decodeIdent op text = .error e) : ∃ reason, e = .of op (.invalidRecord reason) := by
  unfold decodeIdent at h
  split at h
  · cases h
  · cases h
    exact ⟨_, rfl⟩

/-- What is wrong with the identifier of a row is its text, or its kind; it is never the table. -/
theorem cause_of_identOf {op : Operation} {value : Stored} {e : StoreError}
    (h : identOf op value = .error e) :
    (∃ reason, e = .of op (.invalidRecord reason)) ∨
      ∃ detail, e = .of op (.database detail) ∧
        ∀ name : String, detail ≠ s!"no such table: {name}" := by
  unfold identOf at h
  cases hread : readText op 0 "id" value with
  | ok text =>
    rw [hread] at h
    exact .inl (invalid_of_decodeIdent h)
  | error e' =>
    rw [hread] at h
    cases h
    unfold readText at hread
    -- The wordings differ in their first letters.
    split at hread
    · split at hread
      · cases hread
      · cases hread
        refine .inr ⟨_, rfl, fun name he => ?_⟩
        simpa [toString] using congrArg (·.toList.head?) he
    · cases hread
      refine .inr ⟨_, rfl, fun name he => ?_⟩
      simpa [toString] using congrArg (·.toList.head?) he

/-- A row is not read back for its identifier; or else for its time, which is none. -/
theorem cause_of_returned {op : Operation} {timeName : String} {ident time : Stored}
    {e : StoreError} (h : returned op timeName ident time = .error e) :
    identOf op ident = .error e ∨
      (time.stamp? = none ∧ (∃ detail, e = .of op (.database detail)) ∧
        identOf op ident ≠ .error e) := by
  unfold returned at h
  unfold identOf
  cases hread : readText op 0 "id" ident with
  | error e' =>
    rw [hread] at h
    cases h
    exact .inl rfl
  | ok text =>
    rw [hread] at h
    change (readTime op 1 timeName time >>= fun stamp =>
      decodeIdent op text >>= fun id => pure (id, stamp)) = .error e at h
    change decodeIdent op text = .error e ∨ _
    cases time with
    | int stamp =>
      cases hparse : decodeIdent op text with
      | ok id =>
        rw [hparse] at h
        cases h
      | error e' =>
        rw [hparse] at h
        cases h
        exact .inl rfl
    | _ =>
      cases h
      refine .inr ⟨rfl, ⟨_, rfl⟩, fun hparse => ?_⟩
      obtain ⟨reason, he⟩ := invalid_of_decodeIdent hparse
      cases he

/-! ## 3. Failures -/

/-- **The ways in which storing a record fails**, with the error and the tables afterwards: the time
    of a row is raised if its identifier cannot be given back, and no other failure changes
    anything. -/
inductive Failure (op : Operation) (named : Stored → Prop) (t raised : Tables) :
    StoreError → Tables → Prop where
  | refused {cause : Cause} (valid : ∀ reason, cause ≠ .invalidRecord reason)
    (other : ∀ value, named value → identOf op value ≠ .error (.of op cause)) :
    Failure op named t raised (.of op cause) t
  | misread {value : Stored} {e : StoreError} (held : named value)
    (bad : identOf op value = .error e) : Failure op named t raised e raised

/-- A statement, and the reading of what it gives back, fail only in these ways. -/
structure FailsOnly (op : Operation) (timeName : String) (named : Stored → Prop)
    (t raised : Tables) (result : Except StoreError (Tables × Stored × Stored)) : Prop where
  refused : ∀ e, result = .error e → Failure op named t raised e t
  unread : ∀ t' row e, result = .ok (t', row) → returned op timeName row.1 row.2 = .error e →
    Failure op named t raised e t'

namespace Failure

variable {op : Operation} {named : Stored → Prop} {raised : Tables}

/-- A failure that has to do with neither rows nor tables. -/
theorem of_cause {cause : Cause} (valid : ∀ reason, cause ≠ .invalidRecord reason)
    (sound : ∀ detail, cause ≠ .database detail) : Failure op named t raised (.of op cause) t := by
  refine .refused valid fun value _ h => ?_
  rcases cause_of_identOf h with ⟨reason, he⟩ | ⟨detail, he, -⟩
  · cases he
    exact valid _ rfl
  · cases he
    exact sound _ rfl

theorem of_missingTable (name : String) :
    Failure op named t raised (missingTable op name) t := by
  refine .refused nofun fun value _ h => ?_
  rcases cause_of_identOf h with ⟨reason, he⟩ | ⟨detail, he, other⟩
  · cases he
  · cases he
    exact other _ rfl

end Failure

namespace FailsOnly

variable {op : Operation} {timeName : String} {named : Stored → Prop} {raised t' : Tables}

theorem of_failure {e : StoreError} (h : Failure op named t raised e t) :
    FailsOnly op timeName named t raised (.error e) where
  refused _ he := by
    cases he
    exact h
  unread _ _ _ he := by cases he

/-- A statement that adds a row can give it back. -/
theorem of_canonical (id : Ident) (time : Stamp) :
    FailsOnly op timeName named t raised (.ok (t', .ofString id.text, .int time)) where
  refused := nofun
  unread _ _ _ he hback := by
    cases he
    rw [returned_int] at hback
    cases hback

/-- A statement that raised the time of a row, if it is an earlier one, and gives the row back. -/
theorem of_raised {ident s : Stored} {time : Stamp} (held : ∀ value, named value ↔ ident = value)
    (raised_eq : t' = raised) (unchanged : s.later time = s → t' = t) :
    FailsOnly op timeName named t raised (.ok (t', ident, s.later time)) where
  refused := nofun
  unread t'' row e he hback := by
    cases he
    rcases cause_of_returned hback with bad | ⟨timeless, ⟨detail, rfl⟩, other⟩
    · rw [raised_eq]
      exact .misread ((held _).mpr rfl) bad
    · -- The time was written back as it was found.
      rw [unchanged (later_eq_self timeless)]
      exact .refused nofun fun value hvalue => (held value).mp hvalue ▸ other

/-- A statement that raised the time of the one row of its key, found among the rows of a table. -/
theorem of_found {σ : Type} {rows : List σ} {p : σ → Prop} [DecidablePred p] {row : σ}
    (found : rows.find? (fun r => decide (p r)) = some row) (unique : ∀ r ∈ rows, p r → r = row)
    (ident old : σ → Stored) (put : σ → Stored → σ) (put_old : ∀ r, put r (old r) = r)
    (table : List σ → Tables)
    (held : ∀ value, named value ↔ ∃ r ∈ rows, p r ∧ ident r = value) (time : Stamp) :
    FailsOnly op timeName named (table rows)
      (table (rows.map fun r => if p r then put r ((old r).later time) else r))
      (.ok (table (rows.map fun r => if p r then put r ((old row).later time) else r),
        ident row, (old row).later time)) := by
  refine .of_raised (fun value => (held value).trans ⟨?_, ?_⟩) ?_ (fun same => ?_)
  · rintro ⟨r, hr, hp, rfl⟩
    rw [unique r hr hp]
  · rintro rfl
    have hp : p row := by simpa using List.find?_some found
    exact ⟨row, List.mem_of_find?_eq_some found, hp, rfl⟩
  · rw [map_put_of_unique unique (fun r => (old r).later time) put]
  · rw [same, map_put_of_unique unique old put]
    simp only [put_old, ite_self, List.map_id']

end FailsOnly

theorem failsOnly_writeLink (h : t.Keyed) (id : Ident) (link : Link) :
    FailsOnly .upsertLink linkWriter.timeName (t.LinkNamed link.url) t (t.raiseLink link)
      (t.writeLink id link) := by
  obtain ⟨links, edges⟩ := t
  cases links with
  | none => exact .of_failure (.of_missingTable "links")
  | some rows =>
    simp only [writeLink]
    cases hfind : rows.find? fun row => row.url = .ofString link.url with
    | none => exact .of_canonical id link.retrievedAt
    | some row =>
      have hurl : row.url = .ofString link.url := by simpa using List.find?_some hfind
      have unique : ∀ r ∈ rows, r.url = .ofString link.url → r = row := fun r hr hu =>
        List.inj_on_of_nodup_map h.urls hr (List.mem_of_find?_eq_some hfind) (hu.trans hurl.symm)
      exact .of_found hfind unique (·.id) (·.retrievedAt)
        (fun r time => { r with retrievedAt := time }) (fun _ => rfl) (⟨some ·, edges⟩)
        (fun _ => Iff.rfl) link.retrievedAt

theorem failsOnly_writeEdge (h : t.Keyed) (id : Ident) (now : Stamp) (edge : Edge) :
    FailsOnly .upsertEdge (edgeWriter now).timeName (t.EdgeNamed edge.src.text edge.dst.text) t
      (t.raiseEdge edge now) (t.writeEdge id now edge) := by
  obtain ⟨links, edges⟩ := t
  cases edges with
  | none => exact .of_failure (.of_missingTable "edges")
  | some rows =>
    simp only [writeEdge]
    split
    · exact .of_failure (.of_missingTable "main.links")
    · cases hfind : rows.find? fun row =>
          row.src = .ofString edge.src.text ∧ row.dst = .ofString edge.dst.text with
      | none =>
        dsimp only
        split
        · exact .of_canonical id now
        · exact .of_failure (.of_cause (by simp) (by simp))
      | some row =>
        have hpair : row.src = .ofString edge.src.text ∧ row.dst = .ofString edge.dst.text := by
          simpa using List.find?_some hfind
        have unique : ∀ r ∈ rows,
            r.src = .ofString edge.src.text ∧ r.dst = .ofString edge.dst.text → r = row :=
          fun r hr hp => List.inj_on_of_nodup_map h.pairs hr (List.mem_of_find?_eq_some hfind)
            (Prod.ext (hp.1.trans hpair.1.symm) (hp.2.trans hpair.2.symm))
        exact .of_found hfind unique (·.id) (·.updatedAt)
          (fun r time => { r with updatedAt := time }) (fun _ => rfl) (⟨links, some ·⟩)
          (fun _ => by simp only [EdgeNamed, and_assoc, Option.getD_some]) now

/-- An upsert fails only in the ways of its statement, or for want of an identifier; and the record
    of the caller is as it was. -/
theorem Ending.failure {ρ : Type} {w : RowWriter ρ} {given record : ρ} {t' raised : Tables}
    {named : Stored → Prop} {e : StoreError} (h : Ending w given t (.error e) t' record)
    (fails : ∀ id, FailsOnly w.operation w.timeName named t raised (w.write given id t)) :
    Failure w.operation named t raised e t' ∧ record = given := by
  cases h with
  | exhausted => exact ⟨.of_cause nofun nofun, rfl⟩
  | refused free hw => exact ⟨(fails _).refused _ hw, rfl⟩
  | unread free hw hback => exact ⟨(fails _).unread _ _ _ hw hback, rfl⟩

/-! ## 4. Upserts -/

/-- **What an upsert leaves that found a row whose identifier cannot be given back**: the error says
    so, and the record of the caller is as it was. -/
structure Raised (s : Session Tables) (call : Call) (named : Stored → Prop) (raised : Tables)
    (e : StoreError) : Prop where
  store : (s.after call).store = raised
  record : s.recordAfter? call = call.record?
  misread : ∃ value, named value ∧ identOf call.operation value = .error e

/-- **What a failed upsert leaves**: all as it was, or the time of the row that it found raised. The
    error tells which of the two. -/
def Left (s : Session Tables) (call : Call) (named : Stored → Prop) (raised : Tables)
    (e : StoreError) : Prop :=
  (Unharmed s call e ∧ ∀ value, named value → identOf call.operation value ≠ .error e) ∨
    Raised s call named raised e

theorem left_of_failure {s : Session Tables} {call : Call} {e : StoreError}
    {named : Stored → Prop} {raised : Tables} (record : s.recordAfter? call = call.record?)
    (h : Failure call.operation named s.store raised e (s.after call).store) :
    Left s call named raised e := by
  generalize hstore : (s.after call).store = store at h
  cases h with
  | refused valid other => exact .inl ⟨.of_cause hstore record valid, other⟩
  | misread held bad => exact .inr ⟨hstore, record, _, held, bad⟩

/-- **What every failed upsert leaves**: all as it was, but for the time of the row that it found,
    if the identifier of that row cannot be given back. -/
structure Contained (s : Session Tables) : Prop where
  upsertLink : ∀ link e, s.answer (.upsertLink link) = .error e →
    Left s (.upsertLink link) (s.store.LinkNamed link.url) (s.store.raiseLink link) e
  upsertEdge : ∀ edge e, s.answer (.upsertEdge edge) = .error e →
    Left s (.upsertEdge edge) (s.store.EdgeNamed edge.src.text edge.dst.text)
      (s.store.raiseEdge edge s.supply.now) e

theorem contained_of_keyed {s : Session Tables} (h : s.store.Keyed) : Contained s where
  upsertLink link e he := by
    rw [Session.answer_upsertLink] at he
    have ending := ending_upsertLink link s
    rw [eq_error_of_map he, ← Session.after_upsertLink] at ending
    obtain ⟨failure, record⟩ := ending.failure fun id => failsOnly_writeLink h id link
    exact left_of_failure (congrArg (some ∘ Reply.link) record) failure
  upsertEdge edge e he := by
    rw [Session.answer_upsertEdge] at he
    have ending := ending_upsertEdge edge s
    rw [eq_error_of_map he, ← Session.after_upsertEdge] at ending
    obtain ⟨failure, record⟩ := ending.failure fun id => failsOnly_writeEdge h id s.supply.now edge
    exact left_of_failure (congrArg (some ∘ Reply.edge) record) failure

end Tables

/-- **An upsert that fails changes nothing but the time of a row whose identifier cannot be given
    back**, in every state that calls lead to, whatever rows there were at first. -/
theorem contained_of_reached (first s : Session Tables) (h : first.store.Keyed)
    (reached : first.Reached s) : Tables.Contained s :=
  Tables.contained_of_keyed (Tables.keyed_of_reached h reached)

/-- Three rows from elsewhere: one with an identifier that is none, one without any, and one with a
    time that is none. A link was stored beside them. An upsert of any of the rows fails; the times
    of the first two are raised, and nothing else is changed. -/
theorem contained_of_three_rows :
    let misnamed : LinkRow := ⟨"bad", "a", .int 1⟩
    let nameless : LinkRow := ⟨.null, "b", .int 1⟩
    let timeless : LinkRow := ⟨(Ident.ofNat 9).text, "c", "soon"⟩
    let t : Tables := ⟨some [misnamed, nameless, timeless], some []⟩
    let first : Session Tables := ⟨t, .counting⟩
    let s := first.after (.upsertLink (.unstored "d" 0))
    let again (url : String) : Link := .unstored url 5
    let noIdent : StoreError := .badIdent .upsertLink "bad" (.length 3)
    let noText : StoreError := Tables.badKind .upsertLink 0 "id" .null
    let noTime : StoreError := Tables.badKind .upsertLink 1 "retrieved_at" "soon"
    t.Keyed ∧ first.Reached s ∧
      (s.answer (.upsertLink (again "a")) = .error noIdent ∧
        (s.after (.upsertLink (again "a"))).store = s.store.raiseLink (again "a")) ∧
      (s.answer (.upsertLink (again "b")) = .error noText ∧
        (s.after (.upsertLink (again "b"))).store = s.store.raiseLink (again "b")) ∧
      s.answer (.upsertLink (again "c")) = .error noTime ∧
        Unharmed s (.upsertLink (again "c")) noTime := by
  intro misnamed nameless timeless t first s again noIdent noText noTime
  have keyed : t.Keyed :=
    ⟨by decide +kernel, by decide +kernel, by decide +kernel, by decide +kernel⟩
  have reached : first.Reached s := .call _ .start
  have ident : s.answer (.upsertLink (again "a")) = .error noIdent := by
    decide +kernel
  have text : s.answer (.upsertLink (again "b")) = .error noText := by
    decide +kernel
  have time : s.answer (.upsertLink (again "c")) = .error noTime := by
    decide +kernel
  have named : ∀ row ∈ s.store.links.getD [], row.url = .ofString "c" →
      (Tables.identOf .upsertLink row.id).toOption ≠ none := by
    decide +kernel
  have failed := (contained_of_reached first s keyed reached).upsertLink
  refine ⟨keyed, reached, ⟨ident, ?_⟩, ⟨text, ?_⟩, time, ?_⟩
  · exact ((failed _ _ ident).resolve_left fun left => left.1.cause _ rfl).store
  · refine ((failed _ _ text).resolve_left fun left => ?_).store
    exact left.2 .null ⟨nameless, by decide +kernel, rfl, rfl⟩ rfl
  · refine ((failed _ _ time).resolve_right fun raised => ?_).1
    obtain ⟨value, ⟨row, hrow, hurl, rfl⟩, bad⟩ := raised.misread
    exact named row hrow hurl (congrArg Except.toOption bad)

/-- A row whose identifier is none has its time raised by an upsert that fails. -/
theorem raised_of_failed_upsert :
    let row : LinkRow := ⟨"bad", "a", .int 1⟩
    let t : Tables := ⟨some [row], some []⟩
    let s : Session Tables := ⟨t, .counting⟩
    let again : Call := .upsertLink (.unstored "a" 5)
    t.Keyed ∧
      s.answer again = .error (.badIdent .upsertLink "bad" (.length 3)) ∧
      (s.after again).store = ⟨some [⟨"bad", "a", .int 5⟩], some []⟩ ∧
      (s.after again).store ≠ s.store := by
  intro row t s again
  have keyed : t.Keyed :=
    ⟨by decide +kernel, by decide +kernel, by decide +kernel, by decide +kernel⟩
  have answer : s.answer again = .error (.badIdent .upsertLink "bad" (.length 3)) := by
    decide +kernel
  have after : (s.after again).store = ⟨some [⟨"bad", "a", .int 5⟩], some []⟩ := by
    decide +kernel
  refine ⟨keyed, answer, after, ?_⟩
  rw [after]
  decide +kernel

end CrawlGraph
