import Mathlib.Data.List.Flatten
import Mathlib.Data.List.Sort

/-!
# Neighbours in a sorted list

The pairs of entries that stand next to each other, as a loop over `xs[i]` and `xs[i + 1]` visits
them. In a strictly sorted list of numbers they are the pairs with nothing between them, and the
consecutive numbers among them are those of the list whose successor is in the list.
-/

namespace GhgTool

variable {α β : Type*}

def neighbours (xs : List α) : List (α × α) :=
  xs.zip xs.tail

theorem neighbours_cons_cons (a b : α) (xs : List α) :
    neighbours (a :: b :: xs) = (a, b) :: neighbours (b :: xs) :=
  rfl

theorem mem_neighbours [LinearOrder α] {xs : List α} (h : xs.Pairwise (· < ·)) {a b : α} :
    (a, b) ∈ neighbours xs ↔ a ∈ xs ∧ b ∈ xs ∧ a < b ∧ ∀ y ∈ xs, ¬(a < y ∧ y < b) := by
  induction xs with
  | nil => simp [neighbours]
  | cons x xs ih =>
      cases xs with
      | nil =>
          simp only [neighbours, List.tail_cons, List.zip_nil_right, List.not_mem_nil, false_iff]
          rintro ⟨ha, hb, hlt, -⟩
          rw [List.mem_singleton.mp ha, List.mem_singleton.mp hb] at hlt
          exact lt_irrefl _ hlt
      | cons z xs =>
          obtain ⟨hx, htail⟩ := List.pairwise_cons.mp h
          have hxz : x < z := hx z (by simp)
          have hz : ∀ y ∈ z :: xs, z ≤ y := by
            intro y hy
            rcases List.mem_cons.mp hy with rfl | hy
            · exact le_rfl
            · exact ((List.pairwise_cons.mp htail).1 y hy).le
          rw [neighbours_cons_cons, List.mem_cons, ih htail]
          constructor
          · rintro (heq | ⟨ha, hb, hlt, hbetween⟩)
            · cases heq
              refine ⟨by simp, by simp, hxz, ?_⟩
              rintro y hy ⟨hlow, hhigh⟩
              rcases List.mem_cons.mp hy with rfl | hy
              · exact lt_irrefl _ hlow
              · exact absurd hhigh (not_lt.mpr (hz y hy))
            · refine ⟨List.mem_cons_of_mem _ ha, List.mem_cons_of_mem _ hb, hlt, ?_⟩
              rintro y hy ⟨hlow, hhigh⟩
              rcases List.mem_cons.mp hy with rfl | hy
              · exact lt_asymm hlow (hx a ha)
              · exact hbetween y hy ⟨hlow, hhigh⟩
          · rintro ⟨ha, hb, hlt, hbetween⟩
            rcases List.mem_cons.mp ha with rfl | hlater
            · left
              rcases List.mem_cons.mp hb with rfl | hb
              · exact absurd hlt (lt_irrefl _)
              · have hle : b ≤ z := not_lt.mp fun hzb => hbetween z (by simp) ⟨hxz, hzb⟩
                rw [le_antisymm hle (hz b hb)]
            · right
              have hne : b ≠ x := by
                rintro rfl
                exact lt_asymm hlt (hx a hlater)
              refine ⟨hlater, (List.mem_cons.mp hb).resolve_left hne, hlt, ?_⟩
              exact fun y hy => hbetween y (List.mem_cons_of_mem _ hy)

/-- Among the neighbours, a number and its successor. -/
theorem neighbours_succ {xs : List ℕ} (h : xs.Pairwise (· < ·)) :
    (neighbours xs).filter (fun p => p.2 = p.1 + 1) =
      (xs.filter fun n => n + 1 ∈ xs).map fun n => (n, n + 1) := by
  induction xs with
  | nil => rfl
  | cons x xs ih =>
      obtain ⟨hx, htail⟩ := List.pairwise_cons.mp h
      have hsame : xs.filter (fun n => n + 1 ∈ x :: xs) = xs.filter fun n => n + 1 ∈ xs := by
        apply List.filter_congr
        intro n hn
        have hne : n + 1 ≠ x := by
          have := hx n hn
          omega
        simp [hne]
      cases xs with
      | nil => simp [neighbours]
      | cons z xs =>
          have hxz : x < z := hx z (by simp)
          have hmem : x + 1 ∈ x :: z :: xs ↔ z = x + 1 := by
            constructor
            · intro hmem
              have hmem' : x + 1 ∈ z :: xs := (List.mem_cons.mp hmem).resolve_left (by omega)
              rcases List.mem_cons.mp hmem' with heq | hlater
              · exact heq.symm
              · have := (List.pairwise_cons.mp htail).1 _ hlater
                omega
            · rintro rfl
              simp
          rw [neighbours_cons_cons, List.filter_cons, List.filter_cons, hsame, ih htail]
          by_cases hsucc : z = x + 1
          · rw [if_pos (by simpa using hsucc), if_pos (by simpa using hmem.mpr hsucc),
              List.map_cons, hsucc]
          · rw [if_neg (by simpa using hsucc), if_neg (by simpa using mt hmem.mp hsucc)]

/-- A filter changes what a list is mapped to exactly when it leaves out an entry that counts. -/
theorem flatMap_filter_eq_iff {p : α → Bool} {f : α → List β} {xs : List α} :
    xs.flatMap f = (xs.filter p).flatMap f ↔ ∀ x ∈ xs, p x = false → f x = [] := by
  induction xs with
  | nil => simp
  | cons x xs ih =>
      rw [List.forall_mem_cons, ← ih, List.flatMap_cons, List.filter_cons]
      cases hp : p x with
      | true => simp
      | false =>
          have hshort : ((xs.filter p).flatMap f).length ≤ (xs.flatMap f).length :=
            (List.filter_sublist.flatMap f).length_le
          simp only [Bool.false_eq_true, if_false, forall_const]
          constructor
          · intro h
            have hlength := congrArg List.length h
            rw [List.length_append] at hlength
            have hnil : f x = [] := List.length_eq_zero_iff.mp (by omega)
            rw [hnil, List.nil_append] at h
            exact ⟨hnil, h⟩
          · rintro ⟨hnil, h⟩
            rw [hnil, List.nil_append, h]

theorem eq_of_sorted_of_mem_iff [LinearOrder α] {xs ys : List α} (hx : xs.Pairwise (· < ·))
    (hy : ys.Pairwise (· < ·)) (h : ∀ a, a ∈ xs ↔ a ∈ ys) : xs = ys := by
  have hperm : xs.Perm ys := (List.perm_ext_iff_of_nodup (hx.imp ne_of_lt) (hy.imp ne_of_lt)).mpr h
  exact hperm.eq_of_pairwise (fun a b _ _ hab hba => absurd hab (lt_asymm hba)) hx hy

end GhgTool
