import Mathlib.Order.Lattice
import GhgTool.Loop

/-!
# Tables filled one row at a time

A table is any state with a list of stored rows. One insertion either fails or appends its row;
it succeeds exactly when the row itself is admitted and clashes with no stored row. A sequence
of insertions then succeeds exactly when every row is admitted, none clashes with a row stored
before, and no two of them clash.
-/

universe u

namespace GhgTool

/-- What a constrained insertion does, said once: when it succeeds and what it stores. -/
structure InsertSpec {ε : Type*} {τ α : Type u} (ins : τ → α → Except ε τ) (rows : τ → List α)
    (fits : α → Prop) (clash : α → α → Prop) : Prop where
  stores : ∀ {t r t'}, ins t r = .ok t' → rows t' = rows t ++ [r]
  succeeds : ∀ t r, (∃ t', ins t r = .ok t') ↔ fits r ∧ ∀ s ∈ rows t, ¬ clash s r

namespace InsertSpec

variable {ε : Type*} {τ α : Type u} {ins : τ → α → Except ε τ} {rows : τ → List α}
  {fits : α → Prop} {clash : α → α → Prop}

theorem stores_all (spec : InsertSpec ins rows fits clash) {rs : List α} {t t' : τ}
    (h : rs.foldlM ins t = .ok t') : rows t' = rows t ++ rs := by
  induction rs generalizing t with
  | nil =>
      have ht : t = t' := by simpa [pure, Except.pure] using h
      simp [ht]
  | cons r rs ih =>
      rw [List.foldlM_cons, bind_eq_ok] at h
      obtain ⟨t₁, h₁, h₂⟩ := h
      rw [ih h₂, spec.stores h₁, List.append_assoc, List.singleton_append]

/-- A sequence of insertions succeeds exactly when its rows are admitted and apart, from each
other and from what the table held. -/
theorem succeeds_all (spec : InsertSpec ins rows fits clash) (t : τ) (rs : List α) :
    (∃ t', rs.foldlM ins t = .ok t') ↔
      (∀ r ∈ rs, fits r) ∧ (∀ s ∈ rows t, ∀ r ∈ rs, ¬ clash s r) ∧
        rs.Pairwise (fun r s => ¬ clash r s) := by
  induction rs generalizing t with
  | nil => simp [pure, Except.pure]
  | cons r rs ih =>
      constructor
      · rintro ⟨t', h⟩
        rw [List.foldlM_cons, bind_eq_ok] at h
        obtain ⟨t₁, h₁, h₂⟩ := h
        obtain ⟨hfits, hclash⟩ := (spec.succeeds t r).mp ⟨t₁, h₁⟩
        obtain ⟨hall, hold, hpair⟩ := (ih t₁).mp ⟨t', h₂⟩
        rw [spec.stores h₁] at hold
        refine ⟨by simpa using ⟨hfits, hall⟩, ?_, List.pairwise_cons.mpr ⟨?_, hpair⟩⟩
        · intro s hs x hx
          rcases List.mem_cons.mp hx with rfl | hx
          · exact hclash s hs
          · exact hold s (by simp [hs]) x hx
        · exact hold r (by simp)
      · rintro ⟨hall, hold, hpair⟩
        obtain ⟨hr, hpair⟩ := List.pairwise_cons.mp hpair
        obtain ⟨t₁, h₁⟩ := (spec.succeeds t r).mpr
          ⟨hall r (by simp), fun s hs => hold s hs r (by simp)⟩
        obtain ⟨t', h₂⟩ := (ih t₁).mpr ⟨fun x hx => hall x (by simp [hx]), by
          rw [spec.stores h₁]
          intro s hs x hx
          rcases List.mem_append.mp hs with hs | hs
          · exact hold s hs x (by simp [hx])
          · rw [List.mem_singleton.mp hs]
            exact hr x hx, hpair⟩
        exact ⟨t', by rw [List.foldlM_cons, bind_eq_ok]; exact ⟨t₁, h₁, h₂⟩⟩

end InsertSpec

theorem lt_foldr_max {α : Type*} (id : α → ℕ) {rows : List α} {a : α} (h : a ∈ rows) :
    id a < rows.foldr (fun b m => max (id b + 1) m) 1 := by
  induction rows with
  | nil => cases h
  | cons b rows ih =>
      rcases List.mem_cons.mp h with rfl | h
      · exact lt_of_lt_of_le (Nat.lt_succ_self _) (le_max_left _ _)
      · exact lt_of_lt_of_le (ih h) (le_max_right _ _)

end GhgTool
