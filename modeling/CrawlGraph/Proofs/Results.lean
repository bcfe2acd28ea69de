import Mathlib

/-!
# Lists read one element at a time

A reading that may fail gives a result for each element of a list, or the error of the first element
that it fails on.

1. Readings with and without their errors.
2. All results: when there are some, and where they stand.
3. Finding the one element with a property, and putting others in place of some.
-/

namespace CrawlGraph

variable {ε α β γ : Type}

/-! ## 1. Errors left out -/

theorem eq_ok_of_toOption {x : Except ε α} {a : α} (h : x.toOption = some a) :
    x = .ok a := by
  cases x with
  | error e => cases h
  | ok b =>
    cases h
    rfl

theorem eq_error_of_map {x : Except ε α} {k : α → β} {e : ε} (h : x.map k = .error e) :
    x = .error e := by
  cases x with
  | error e' =>
    cases h
    rfl
  | ok a => cases h

theorem bind_eq_ok_iff {x : Except ε α} {f : α → Except ε β} {b : β} :
    (x >>= f) = .ok b ↔ ∃ a, x = .ok a ∧ f a = .ok b := by
  cases x with
  | error e => exact ⟨nofun, nofun⟩
  | ok a => exact ⟨fun h => ⟨a, rfl, h⟩, fun ⟨_, ha, h⟩ => by cases ha; exact h⟩

theorem toOption_pure (a : α) : (pure a : Except ε α).toOption = some a := rfl

theorem toOption_map (x : Except ε α) (f : α → β) : (x.map f).toOption = x.toOption.map f := by
  cases x <;> rfl

theorem toOption_bind (x : Except ε α) (f : α → Except ε β) :
    (x >>= f).toOption = x.toOption.bind fun a => (f a).toOption := by
  cases x <;> rfl

theorem toOption_mapM (f : α → Except ε β) (l : List α) :
    (l.mapM f).toOption = l.mapM fun a => (f a).toOption := by
  induction l with
  | nil => rfl
  | cons a l ih =>
    rw [List.mapM_cons, List.mapM_cons, ← ih]
    cases f a with
    | error e => rfl
    | ok b => cases l.mapM f <;> rfl

theorem bind_mapM_mapM (f : α → Option β) (g : β → Option γ) (l : List α) :
    ((l.mapM f).bind fun bs => bs.mapM g) = l.mapM fun a => (f a).bind g := by
  induction l with
  | nil => rfl
  | cons a l ih =>
    rw [List.mapM_cons, List.mapM_cons, ← ih]
    cases f a with
    | none => rfl
    | some b =>
      cases l.mapM f with
      | none =>
        simp only [Option.bind_eq_bind, Option.bind_some, Option.bind_none, Option.bind_fun_none]
      | some bs =>
        simp only [Option.bind_eq_bind, Option.bind_some, Option.pure_def, List.mapM_cons]

/-- Elements that are all read give a result each. -/
theorem map_eq_of_mapM_eq_some {f : α → Option β} {l : List α} {bs : List β}
    (h : l.mapM f = some bs) : l.map f = bs.map some := by
  induction l generalizing bs with
  | nil =>
    cases h
    rfl
  | cons a l ih =>
    rw [List.mapM_cons] at h
    obtain ⟨b, hb, h⟩ := Option.bind_eq_some_iff.mp h
    obtain ⟨bs', hbs, h⟩ := Option.bind_eq_some_iff.mp h
    cases h
    rw [List.map_cons, List.map_cons, hb, ih hbs]

/-- **A list is read just if each of its elements is.** -/
theorem mapM_eq_some_iff {f : α → Option β} {l : List α} {bs : List β} :
    l.mapM f = some bs ↔ l.map f = bs.map some := by
  refine ⟨map_eq_of_mapM_eq_some, fun h => ?_⟩
  induction l generalizing bs with
  | nil =>
    rw [List.map_nil, eq_comm, List.map_eq_nil_iff] at h
    rw [h]
    rfl
  | cons a l ih =>
    cases bs with
    | nil => cases h
    | cons b bs =>
      obtain ⟨hb, hbs⟩ := List.cons_eq_cons.mp h
      rw [List.mapM_cons, hb, ih hbs]
      rfl

/-- What was written element by element is read back element by element. -/
theorem mapM_map_eq_some (write : α → β) (read : β → Option γ) (k : α → γ)
    (h : ∀ a, read (write a) = some (k a)) (l : List α) :
    (l.map write).mapM read = some (l.map k) := by
  induction l with
  | nil => rfl
  | cons a l ih =>
    rw [List.map_cons, List.mapM_cons, h, ih]
    rfl

/-! ## 2. Results -/

variable {f : α → Except ε β} {l : List α}

theorem exists_mapM_of_forall (h : ∀ a ∈ l, ∃ b, f a = .ok b) : ∃ bs, l.mapM f = .ok bs := by
  induction l with
  | nil => exact ⟨[], rfl⟩
  | cons a l ih =>
    obtain ⟨b, hb⟩ := h a List.mem_cons_self
    obtain ⟨bs, hbs⟩ := ih fun a' ha' => h a' (List.mem_cons_of_mem a ha')
    rw [List.mapM_cons, hb, hbs]
    exact ⟨b :: bs, rfl⟩

theorem forall₂_of_mapM_eq_ok {bs : List β} (h : l.mapM f = .ok bs) :
    List.Forall₂ (fun a b => f a = .ok b) l bs := by
  induction l generalizing bs with
  | nil =>
    cases h
    exact .nil
  | cons a l ih =>
    rw [List.mapM_cons] at h
    cases hb : f a with
    | error e =>
      rw [hb] at h
      cases h
    | ok b =>
      cases hbs : l.mapM f with
      | error e =>
        rw [hb, hbs] at h
        cases h
      | ok bs' =>
        rw [hb, hbs] at h
        cases h
        exact .cons hb (ih hbs)

/-- Two readings one after the other, of each element or of the whole list, if the first one is of
    all. -/
theorem mapM_bind_of_mapM_eq_ok {g : β → Except ε γ} {bs : List β} (h : l.mapM f = .ok bs) :
    (l.mapM fun a => f a >>= g) = bs.mapM g := by
  have each : List.Forall₂ (fun a b => f a = .ok b) l bs := forall₂_of_mapM_eq_ok h
  clear h
  induction each with
  | nil => rfl
  | cons hb _ ih =>
    rw [List.mapM_cons, List.mapM_cons, hb, ih]
    rfl

theorem exists_of_forall₂ {r : α → β → Prop} {bs : List β} (h : List.Forall₂ r l bs) {i : Nat}
    {a : α} (ha : l[i]? = some a) : ∃ b, bs[i]? = some b ∧ r a b := by
  induction h generalizing i with
  | nil => cases ha
  | @cons a' b as bs hab _ ih =>
    cases i with
    | zero =>
      cases ha
      exact ⟨b, rfl, hab⟩
    | succ i => exact ih ha

theorem getElem?_zipIdx_iff {i k : Nat} {a : α} :
    l.zipIdx[i]? = some (a, k) ↔ l[i]? = some a ∧ i = k := by
  rw [List.getElem?_zipIdx, Nat.zero_add, Option.map_eq_some_iff]
  simp only [Prod.mk.injEq]
  constructor
  · intro h
    obtain ⟨b, hb, rfl, rfl⟩ := h
    exact ⟨hb, rfl⟩
  · intro h
    obtain ⟨ha, rfl⟩ := h
    exact ⟨a, ha, rfl, rfl⟩

theorem map_eq_map_of_getElem? {g : α → γ} {k : β → γ} {bs : List β}
    (length : l.length = bs.length)
    (h : ∀ i < l.length, ∃ a b, l[i]? = some a ∧ bs[i]? = some b ∧ g a = k b) :
    l.map g = bs.map k := by
  refine List.ext_getElem? fun i => ?_
  rw [List.getElem?_map, List.getElem?_map]
  by_cases hi : i < l.length
  · obtain ⟨a, b, ha, hb, hab⟩ := h i hi
    rw [ha, hb, Option.map_some, Option.map_some, hab]
  · rw [List.getElem?_eq_none (Nat.le_of_not_lt hi),
      List.getElem?_eq_none (length ▸ Nat.le_of_not_lt hi)]
    rfl

/-- The error is the one of the first element that has an error. -/
theorem exists_of_mapM_eq_error {e : ε} (h : l.mapM f = .error e) :
    ∃ (i : Nat) (a : α), l[i]? = some a ∧ f a = .error e ∧
      ∀ j < i, ∀ a', l[j]? = some a' → ∃ b, f a' = .ok b := by
  induction l with
  | nil => cases h
  | cons a l ih =>
    rw [List.mapM_cons] at h
    cases hb : f a with
    | error e' =>
      rw [hb] at h
      cases h
      exact ⟨0, a, rfl, hb, fun j hj => absurd hj (Nat.not_lt_zero j)⟩
    | ok b =>
      rw [hb] at h
      cases hbs : l.mapM f with
      | ok bs =>
        rw [hbs] at h
        cases h
      | error e' =>
        rw [hbs] at h
        cases h
        obtain ⟨i, a', ha', he, before⟩ := ih hbs
        refine ⟨i + 1, a', ha', he, fun j hj a'' ha'' => ?_⟩
        cases j with
        | zero =>
          cases ha''
          exact ⟨b, hb⟩
        | succ j => exact before j (Nat.lt_of_succ_lt_succ hj) a'' ha''

/-! ## 3. One element -/

/-- The one element with a property is the one that is found. -/
theorem find?_of_unique {p : α → Bool} {a : α} (h : a ∈ l) (ha : p a = true)
    (unique : ∀ b ∈ l, p b = true → b = a) : l.find? p = some a := by
  cases hf : l.find? p with
  | none => exact absurd ha (List.find?_eq_none.mp hf a h)
  | some b => rw [unique b (List.mem_of_find?_eq_some hf) (List.find?_some hf)]

/-- What takes the place of some elements and looks like them leaves nothing to be seen. -/
theorem map_replace {p : α → Prop} [DecidablePred p] {new : α → α} (g : α → β)
    (h : ∀ a ∈ l, p a → g (new a) = g a) :
    (l.map fun a => if p a then new a else a).map g = l.map g := by
  rw [List.map_map]
  refine List.map_congr_left fun a ha => ?_
  rw [Function.comp_apply]
  split
  · rename_i hp
    exact h a ha hp
  · rfl

/-- What the one element with a property gives can be put into each element with the property. -/
theorem map_put_of_unique {p : α → Prop} [DecidablePred p] {a : α} (unique : ∀ b ∈ l, p b → b = a)
    (g : α → β) (put : α → β → α) :
    (l.map fun b => if p b then put b (g a) else b) =
      l.map fun b => if p b then put b (g b) else b := by
  refine List.map_congr_left fun b hb => ?_
  split
  · rename_i hp
    rw [unique b hb hp]
  · rfl

end CrawlGraph
