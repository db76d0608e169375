import Mathlib.Data.List.Nodup
import Mathlib.Data.List.Dedup

/-!
# Lists made of tagged blocks

A report that is the concatenation of blocks, each block under a tag of its own, has no repeated
entry exactly when no block has one.
-/

namespace GhgTool

variable {σ β : Type*}

def tagBlocks (blocks : List (σ × List β)) : List (σ × β) :=
  blocks.flatMap fun b => b.2.map (Prod.mk b.1)

@[simp] theorem tagBlocks_nil : tagBlocks ([] : List (σ × List β)) = [] := rfl

@[simp] theorem tagBlocks_cons (b : σ × List β) (blocks : List (σ × List β)) :
    tagBlocks (b :: blocks) = b.2.map (Prod.mk b.1) ++ tagBlocks blocks := rfl

theorem fst_mem_of_mem_tagBlocks {blocks : List (σ × List β)} {x : σ × β}
    (h : x ∈ tagBlocks blocks) : x.1 ∈ blocks.map Prod.fst := by
  obtain ⟨b, hb, hx⟩ := List.mem_flatMap.mp h
  obtain ⟨y, -, rfl⟩ := List.mem_map.mp hx
  exact List.mem_map.mpr ⟨b, hb, rfl⟩

theorem forall_mem_tagBlocks {blocks : List (σ × List β)} {P : σ × β → Prop} :
    (∀ x ∈ tagBlocks blocks, P x) ↔ ∀ b ∈ blocks, ∀ y ∈ b.2, P (b.1, y) := by
  constructor
  · intro h b hb y hy
    exact h _ (List.mem_flatMap.mpr ⟨b, hb, List.mem_map.mpr ⟨y, hy, rfl⟩⟩)
  · intro h x hx
    obtain ⟨b, hb, hx⟩ := List.mem_flatMap.mp hx
    obtain ⟨y, hy, rfl⟩ := List.mem_map.mp hx
    exact h b hb y hy

theorem nodup_tagBlocks {blocks : List (σ × List β)} (htags : (blocks.map Prod.fst).Nodup) :
    (tagBlocks blocks).Nodup ↔ ∀ b ∈ blocks, b.2.Nodup := by
  induction blocks with
  | nil => simp
  | cons b blocks ih =>
      rw [List.map_cons, List.nodup_cons] at htags
      have hinj : Function.Injective (Prod.mk b.1 : β → σ × β) := fun x y h => by simpa using h
      have hdisj : List.Disjoint (b.2.map (Prod.mk b.1)) (tagBlocks blocks) := by
        intro x hx hx'
        obtain ⟨y, -, rfl⟩ := List.mem_map.mp hx
        exact htags.1 (fst_mem_of_mem_tagBlocks hx')
      rw [tagBlocks_cons, List.nodup_append', List.nodup_map_iff hinj, ih htags.2,
        List.forall_mem_cons]
      exact ⟨fun h => ⟨h.1, h.2.1⟩, fun h => ⟨h.1, h.2, hdisj⟩⟩

theorem nodup_map_const {α : Type*} {l : List α} {f : α → β} {c : β} (h : ∀ a ∈ l, f a = c) :
    (l.map f).Nodup ↔ l.length ≤ 1 := by
  rw [List.map_congr_left h, List.map_const', List.nodup_replicate]

theorem length_le_one_iff {l : List β} (h : l.Nodup) :
    l.length ≤ 1 ↔ ∀ x ∈ l, ∀ y ∈ l, x = y := by
  match l with
  | [] => simp
  | [x] => simp
  | x :: y :: l =>
      have hxy : x ≠ y := fun heq => (List.nodup_cons.mp h).1 (by simp [heq])
      refine ⟨fun hlen => absurd hlen (by simp), fun hall => ?_⟩
      exact absurd (hall x (by simp) y (by simp)) hxy

end GhgTool
