import CrawlGraph.Proofs.Contract.Calls

/-!
# Which identifier is drawn

A record that comes in gets the first identifier drawn for it that can be used; the draws before
that one are lost. This module counts them.

1. `Supply.draw` and `Supply.afterDraws`, the draws to come by their numbers.
2. `Supply.Search`, how a search for an unused identifier ends, and `search_fresh`.
3. `Action.drawIdent_cases`, the same for the action that draws the identifier of a record.
-/

namespace CrawlGraph

namespace Supply

variable (s : Supply)

/-! ## 1. Draws to come -/

/-- The identifier that is drawn after `k` others. -/
def draw (k : Nat) : Ident := s.idents (s.draws + k)

/-- The supply after some draws. -/
def afterDraws (n : Nat) : Supply := { s with draws := s.draws + n }

theorem draw_succ (k : Nat) : s.draw (k + 1) = s.afterDraw.draw k := by
  simp only [draw, afterDraw, Nat.add_assoc, Nat.add_comm 1 k]

theorem afterDraws_succ (n : Nat) : s.afterDraws (n + 1) = s.afterDraw.afterDraws n := by
  simp only [afterDraws, afterDraw, Nat.add_assoc, Nat.add_comm 1 n]

theorem later_afterDraws (n : Nat) : s.Later (s.afterDraws n) :=
  ⟨rfl, rfl, Nat.le_refl _, Nat.le_add_right _ _⟩

/-! ## 2. Searching -/

/-- The draws that can be used among the next ones: neither nil nor taken. -/
def usable (taken : Ident → Prop) (attempts : Nat) : Set Nat :=
  {k | k < attempts ∧ s.draw k ≠ .nil ∧ ¬taken (s.draw k)}

theorem usable_congr {taken taken' : Ident → Prop} (h : ∀ id, taken id ↔ taken' id)
    (attempts : Nat) : s.usable taken attempts = s.usable taken' attempts := by
  ext k
  simp only [usable, Set.mem_ofPred_eq, h]

/-- **How a search among the next draws ends**: it takes the first one that can be used, and is out
    of draws if there is none. -/
inductive Search (taken : Ident → Prop) (attempts : Nat) : Option Ident × Supply → Prop where
  | found {k : Nat} (first : IsLeast (s.usable taken attempts) k) :
    Search taken attempts (some (s.draw k), s.afterDraws (k + 1))
  | exhausted (unusable : s.usable taken attempts = ∅) :
    Search taken attempts (none, s.afterDraws attempts)

variable {s} {taken : Ident → Prop} {attempts : Nat}

/-- One draw earlier a search ends in the same way, if that draw cannot be used. -/
theorem Search.of_afterDraw (lost : s.nextIdent = .nil ∨ taken s.nextIdent)
    {result : Option Ident × Supply} (h : s.afterDraw.Search taken attempts result) :
    s.Search taken (attempts + 1) result := by
  have first_not : 0 ∉ s.usable taken (attempts + 1) := by
    intro h
    obtain ⟨-, hnil, hfree⟩ := h
    exact lost.elim hnil hfree
  have succ_mem : ∀ k, k + 1 ∈ s.usable taken (attempts + 1) ↔
      k ∈ s.afterDraw.usable taken attempts := by
    intro k
    simp only [usable, Set.mem_ofPred_eq, draw_succ, Nat.add_lt_add_iff_right]
  cases h with
  | @found k first =>
    rw [← draw_succ, ← afterDraws_succ]
    refine .found ⟨(succ_mem k).mpr first.1, fun j hj => ?_⟩
    cases j with
    | zero => exact absurd hj first_not
    | succ j => exact Nat.succ_le_succ (first.2 ((succ_mem j).mp hj))
  | exhausted unusable =>
    rw [← afterDraws_succ]
    refine .exhausted (Set.eq_empty_iff_forall_notMem.mpr fun j hj => ?_)
    cases j with
    | zero => exact first_not hj
    | succ j => exact Set.eq_empty_iff_forall_notMem.mp unusable j ((succ_mem j).mp hj)

/-- **A search takes the first draw that can be used**, and just the draws up to it. -/
theorem search_fresh (taken : Ident → Bool) (attempts : Nat) (s : Supply) :
    s.Search (fun id => taken id = true) attempts (fresh taken attempts s) := by
  induction attempts generalizing s with
  | zero =>
    refine .exhausted (Set.eq_empty_iff_forall_notMem.mpr fun k hk => ?_)
    exact Nat.not_lt_zero k hk.1
  | succ n ih =>
    rw [fresh]
    split
    · rename_i lost
      rw [Bool.or_eq_true, Ident.isNil_iff] at lost
      exact (ih s.afterDraw).of_afterDraw lost
    · rename_i good
      rw [Bool.or_eq_true, Ident.isNil_iff, not_or] at good
      exact .found (k := 0) ⟨⟨Nat.zero_lt_succ n, good⟩, fun j _ => Nat.zero_le j⟩

end Supply

/-! ## 3. The identifier of a record -/

/-- **The identifier of a record is the first draw that can be used**; without one among the draws
    that are allowed, the action fails. The store stays in both cases. -/
theorem Action.drawIdent_cases {σ : Type} (op : Operation) (taken : σ → Ident → Bool)
    (s : Session σ) :
    (∃ k, IsLeast (s.supply.usable (fun id => taken s.store id = true) maxAttempts) k ∧
      Action.drawIdent op taken s =
        .ok (s.supply.draw k) { s with supply := s.supply.afterDraws (k + 1) }) ∨
    (s.supply.usable (fun id => taken s.store id = true) maxAttempts = ∅ ∧
      Action.drawIdent op taken s = .error (.of op (.identsExhausted maxAttempts))
        { s with supply := s.supply.afterDraws maxAttempts }) := by
  have search := Supply.search_fresh (taken s.store) maxAttempts s.supply
  unfold Action.drawIdent
  generalize s.supply.fresh (taken s.store) maxAttempts = result at search ⊢
  cases search with
  | found first => exact .inl ⟨_, first, rfl⟩
  | exhausted unusable => exact .inr ⟨unusable, rfl⟩

end CrawlGraph
