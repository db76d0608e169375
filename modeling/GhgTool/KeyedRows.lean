import Mathlib.Data.List.Nodup
import Mathlib.Tactic.TypeStar

/-!
# Rows with a key

A table as a list of rows, each named by its key: looking a row up, and updating the row under one
key. Where keys are unique, a row is updated exactly when it is the one named.
-/

namespace GhgTool

variable {α κ : Type*} [DecidableEq κ] {key : α → κ} {k : κ} {f : α → α} {rows : List α} {a b : α}

def findRow (key : α → κ) (k : κ) (rows : List α) : Option α :=
  rows.find? fun a => key a = k

def updateRow (key : α → κ) (k : κ) (f : α → α) (rows : List α) : List α :=
  rows.map fun a => if key a = k then f a else a

theorem findRow_some (h : findRow key k rows = some a) : a ∈ rows ∧ key a = k :=
  ⟨List.mem_of_find?_eq_some h, by simpa using List.find?_some h⟩

theorem findRow_of_mem (hkeys : (rows.map key).Nodup) (ha : a ∈ rows) :
    findRow key (key a) rows = some a := by
  cases hfind : findRow key (key a) rows with
  | none => exact absurd (List.find?_eq_none.mp hfind a ha) (by simp)
  | some b =>
      obtain ⟨hb, hkey⟩ := findRow_some hfind
      rw [List.inj_on_of_nodup_map hkeys hb ha hkey]

theorem nodup_updateRow (hkeys : (rows.map key).Nodup) (hf : ∀ a, key (f a) = key a) :
    ((updateRow key k f rows).map key).Nodup := by
  have hsame : (updateRow key k f rows).map key = rows.map key := by
    unfold updateRow
    rw [List.map_map]
    apply List.map_congr_left
    intro a _
    dsimp only [Function.comp_apply]
    split_ifs
    · exact hf a
    · rfl
  rw [hsame]
  exact hkeys

omit [DecidableEq κ] in
theorem nodup_append_row (hkeys : (rows.map key).Nodup) (hfresh : ∀ b ∈ rows, key b ≠ key a) :
    ((rows ++ [a]).map key).Nodup := by
  rw [List.map_append, List.map_singleton]
  apply hkeys.append (List.nodup_singleton _)
  intro k hk ha
  obtain ⟨b, hb, rfl⟩ := List.mem_map.mp hk
  exact hfresh b hb (List.mem_singleton.mp ha)

theorem mem_updateRow :
    b ∈ updateRow key k f rows ↔ (b ∈ rows ∧ key b ≠ k) ∨ ∃ a ∈ rows, key a = k ∧ b = f a := by
  unfold updateRow
  rw [List.mem_map]
  constructor
  · rintro ⟨a, ha, rfl⟩
    by_cases hkey : key a = k
    · rw [if_pos hkey]
      exact .inr ⟨a, ha, hkey, rfl⟩
    · rw [if_neg hkey]
      exact .inl ⟨ha, hkey⟩
  · rintro (⟨hb, hkey⟩ | ⟨a, ha, hkey, rfl⟩)
    · exact ⟨b, hb, if_neg hkey⟩
    · exact ⟨a, ha, if_pos hkey⟩

theorem mem_updateRow_of_ne (hb : b ∈ rows) (hkey : key b ≠ k) : b ∈ updateRow key k f rows :=
  mem_updateRow.mpr (.inl ⟨hb, hkey⟩)

theorem mem_updateRow_self (ha : a ∈ rows) (hkey : key a = k) : f a ∈ updateRow key k f rows :=
  mem_updateRow.mpr (.inr ⟨a, ha, hkey, rfl⟩)

theorem exists_mem_updateRow (key : α → κ) (k : κ) (f : α → α) (ha : a ∈ rows) :
    ∃ b ∈ updateRow key k f rows, (key a ≠ k ∧ b = a) ∨ (key a = k ∧ b = f a) := by
  by_cases hkey : key a = k
  · exact ⟨f a, mem_updateRow_self ha hkey, .inr ⟨hkey, rfl⟩⟩
  · exact ⟨a, mem_updateRow_of_ne ha hkey, .inl ⟨hkey, rfl⟩⟩

end GhgTool
