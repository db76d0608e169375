import Mathlib.Data.List.Sort
import GhgTool.Dict

/-!
# Dictionaries that sum quantities by key

`tally key qty rows` is the loop `d[key(row)] = d.get(key(row), 0) + qty(row)` over the rows that
have a key; a dictionary keeps its keys in order of first insertion.
-/

namespace GhgTool

variable {α κ : Type*} [DecidableEq κ]

def addTo (k : κ) (q : ℚ) : List (κ × ℚ) → List (κ × ℚ)
  | [] => [(k, 0 + q)]
  | entry :: rest =>
    if entry.1 = k then (entry.1, entry.2 + q) :: rest else entry :: addTo k q rest

def tallyStep (key : α → Option κ) (qty : α → ℚ) (d : List (κ × ℚ)) (a : α) : List (κ × ℚ) :=
  match key a with
  | none => d
  | some k => addTo k (qty a) d

def tally (key : α → Option κ) (qty : α → ℚ) (rows : List α) : List (κ × ℚ) :=
  rows.foldl (tallyStep key qty) []

theorem addTo_eq (k : κ) (q : ℚ) (d : List (κ × ℚ)) :
    addTo k q d = upsertKey k (fun old => old.getD 0 + q) d := by
  induction d with
  | nil => rfl
  | cons entry rest ih => simp only [addTo, upsertKey, ih, Option.getD_some]

theorem mem_keys_addTo {k k' : κ} {q : ℚ} {d : List (κ × ℚ)} :
    k' ∈ (addTo k q d).map Prod.fst ↔ k' = k ∨ k' ∈ d.map Prod.fst := by
  rw [addTo_eq, mem_keys_upsertKey]

theorem nodup_keys_addTo {k : κ} {q : ℚ} {d : List (κ × ℚ)} (h : (d.map Prod.fst).Nodup) :
    ((addTo k q d).map Prod.fst).Nodup := by
  rw [addTo_eq]
  exact nodup_keys_upsertKey h

theorem sum_addTo (k : κ) (q : ℚ) (d : List (κ × ℚ)) :
    ((addTo k q d).map Prod.snd).sum = (d.map Prod.snd).sum + q := by
  induction d with
  | nil => simp [addTo]
  | cons entry rest ih =>
      by_cases h : entry.1 = k
      · simp only [addTo, if_pos h, List.map_cons, List.sum_cons]
        ring
      · simp only [addTo, if_neg h, List.map_cons, List.sum_cons, ih]
        ring

theorem mem_keys_tally {key : α → Option κ} {qty : α → ℚ} {rows : List α} {k : κ} :
    k ∈ (tally key qty rows).map Prod.fst ↔ ∃ a ∈ rows, key a = some k := by
  suffices h : ∀ d : List (κ × ℚ), k ∈ (rows.foldl (tallyStep key qty) d).map Prod.fst ↔
      k ∈ d.map Prod.fst ∨ ∃ a ∈ rows, key a = some k by
    have h₀ := h []
    rwa [List.map_nil, List.mem_nil_iff, false_or] at h₀
  induction rows with
  | nil => simp
  | cons a rows ih =>
      intro d
      rw [List.foldl_cons, ih]
      cases hk : key a with
      | none => simp [tallyStep, hk]
      | some k' =>
          simp only [tallyStep, hk, mem_keys_addTo, List.mem_cons, exists_eq_or_imp,
            Option.some.injEq]
          constructor
          · rintro ((rfl | h) | h)
            · exact .inr (.inl rfl)
            · exact .inl h
            · exact .inr (.inr h)
          · rintro (h | rfl | h)
            · exact .inl (.inr h)
            · exact .inl (.inl rfl)
            · exact .inr h

theorem nodup_keys_tally (key : α → Option κ) (qty : α → ℚ) (rows : List α) :
    ((tally key qty rows).map Prod.fst).Nodup := by
  suffices h : ∀ d : List (κ × ℚ), (d.map Prod.fst).Nodup →
      ((rows.foldl (tallyStep key qty) d).map Prod.fst).Nodup from h [] (by simp)
  induction rows with
  | nil => exact fun d hd => hd
  | cons a rows ih =>
      intro d hd
      refine ih _ ?_
      cases hk : key a with
      | none => simpa only [tallyStep, hk] using hd
      | some k => simpa only [tallyStep, hk] using nodup_keys_addTo hd

section Sums

variable [BEq κ] [LawfulBEq κ]

theorem lookup_addTo (k k' : κ) (q : ℚ) (d : List (κ × ℚ)) :
    ((addTo k q d).lookup k').getD 0 = (d.lookup k').getD 0 + if k = k' then q else 0 := by
  rw [addTo_eq, lookup_upsertKey]
  by_cases h : k = k'
  · rw [if_pos h, if_pos h, h, Option.getD_some]
  · rw [if_neg h, if_neg h, add_zero]

theorem lookup_tally (key : α → Option κ) (qty : α → ℚ) (rows : List α) (k : κ) :
    ((tally key qty rows).lookup k).getD 0 =
      (rows.map fun a => if key a = some k then qty a else 0).sum := by
  suffices h : ∀ d : List (κ × ℚ), ((rows.foldl (tallyStep key qty) d).lookup k).getD 0 =
      (d.lookup k).getD 0 + (rows.map fun a => if key a = some k then qty a else 0).sum by
    have h₀ := h []
    rwa [List.lookup_nil, Option.getD_none, zero_add] at h₀
  induction rows with
  | nil => simp
  | cons a rows ih =>
      intro d
      rw [List.foldl_cons, ih, List.map_cons, List.sum_cons, ← add_assoc]
      congr 1
      cases hk : key a with
      | none => simp [tallyStep, hk]
      | some k' =>
          simp only [tallyStep, hk, Option.some.injEq]
          exact lookup_addTo k' k (qty a) d

end Sums

theorem sum_tally (key : α → Option κ) (qty : α → ℚ) (rows : List α) :
    ((tally key qty rows).map Prod.snd).sum =
      (rows.map fun a => if (key a).isSome then qty a else 0).sum := by
  induction rows using List.reverseRecOn with
  | nil => rfl
  | append_singleton rows a ih =>
      unfold tally at ih ⊢
      rw [List.foldl_append, List.map_append, List.sum_append, ← ih, List.foldl_cons,
        List.foldl_nil, List.map_singleton, List.sum_singleton]
      cases hk : key a with
      | none => simp [tallyStep, hk]
      | some k => simp [tallyStep, hk, sum_addTo]

/-- Sorted keys depend on which keys there are, not on the order of the rows. -/
theorem sorted_keys_tally {r : κ → κ → Prop} [DecidableRel r] [Std.Total r] [IsTrans κ r]
    [Std.Antisymm r] {key : α → Option κ} {qty : α → ℚ} {rows rows' : List α}
    (h : ∀ k, (∃ a ∈ rows', key a = some k) ↔ ∃ a ∈ rows, key a = some k) :
    ((tally key qty rows').map Prod.fst).insertionSort r =
      ((tally key qty rows).map Prod.fst).insertionSort r := by
  have hperm : ((tally key qty rows').map Prod.fst).Perm ((tally key qty rows).map Prod.fst) := by
    rw [List.perm_ext_iff_of_nodup (nodup_keys_tally key qty rows') (nodup_keys_tally key qty rows)]
    intro k
    rw [mem_keys_tally, mem_keys_tally, h]
  exact List.Perm.eq_of_pairwise' (List.pairwise_insertionSort r _)
    (List.pairwise_insertionSort r _)
    ((List.perm_insertionSort r _).trans (hperm.trans (List.perm_insertionSort r _).symm))

end GhgTool
