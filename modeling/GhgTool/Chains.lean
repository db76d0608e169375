import Mathlib.Data.List.Basic
import Mathlib.Logic.Relation
import Mathlib.Order.Nat
import Mathlib.Tactic.TypeStar

/-!
# Chains in a finite list

A relation that raises a rank has no cycles. When moreover every element of a finite list is final or
related to an element of the list, then following the relation from any of them reaches a final one.
-/

namespace GhgTool

open Relation (TransGen ReflTransGen)

variable {α : Type*} {rel : α → α → Prop} {rank : α → ℕ}

theorem rank_lt_of_transGen (hrank : ∀ a b, rel a b → rank a < rank b) {a b : α}
    (h : TransGen rel a b) : rank a < rank b := by
  induction h with
  | single hab => exact hrank _ _ hab
  | tail _ hbc ih => exact ih.trans (hrank _ _ hbc)

theorem not_transGen_self (rank : α → ℕ) (hrank : ∀ a b, rel a b → rank a < rank b) (a : α) :
    ¬ TransGen rel a a :=
  fun h => lt_irrefl _ (rank_lt_of_transGen hrank h)

theorem exists_rank_bound (rank : α → ℕ) (l : List α) : ∃ n, ∀ a ∈ l, rank a < n := by
  induction l with
  | nil => exact ⟨0, by simp⟩
  | cons b l ih =>
      obtain ⟨n, hn⟩ := ih
      refine ⟨max n (rank b + 1), ?_⟩
      intro a ha
      rcases List.mem_cons.mp ha with rfl | ha
      · exact lt_of_lt_of_le (Nat.lt_succ_self _) (le_max_right _ _)
      · exact lt_of_lt_of_le (hn a ha) (le_max_left _ _)

theorem exists_final {l : List α} {final : α → Prop} (rank : α → ℕ)
    (hrank : ∀ a b, rel a b → rank a < rank b)
    (hnext : ∀ a ∈ l, final a ∨ ∃ b ∈ l, rel a b) {a : α} (ha : a ∈ l) :
    ∃ b ∈ l, final b ∧ ReflTransGen rel a b := by
  obtain ⟨n, hn⟩ := exists_rank_bound rank l
  -- the distance of the rank to the bound falls at every step
  induction hd : n - rank a using Nat.strong_induction_on generalizing a with
  | h d ih =>
      rcases hnext a ha with hfinal | ⟨b, hb, hab⟩
      · exact ⟨a, ha, hfinal, .refl⟩
      · have hlt := hrank a b hab
        have hbn := hn b hb
        obtain ⟨c, hc, hfinal, hbc⟩ := ih (n - rank b) (by omega) hb rfl
        exact ⟨c, hc, hfinal, .head hab hbc⟩

end GhgTool
