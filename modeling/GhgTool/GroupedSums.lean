import Mathlib.Algebra.Order.BigOperators.Group.List
import Mathlib.Algebra.Order.Field.Rat
import Mathlib.Data.List.Dedup
import Mathlib.Tactic.Ring
import Mathlib.Tactic.TypeStar

/-!
# Sums over the rows of a table

What `SELECT SUM(..) .. WHERE ..` and `GROUP BY` give: a filter splits a sum in two, and the sums
over the groups of any key add up to the sum over all rows.
-/

namespace GhgTool

variable {α κ : Type*} {rows : List α} {f : α → ℚ}

theorem sum_map_filter (p : α → Prop) [DecidablePred p] (f : α → ℚ) (rows : List α) :
    ((rows.filter p).map f).sum = (rows.map fun a => if p a then f a else 0).sum := by
  induction rows with
  | nil => rfl
  | cons a rows ih =>
      by_cases h : p a
      · simp [h, ih]
      · simp [h, ih]

theorem sum_filter_add (p q : α → Prop) [DecidablePred p] [DecidablePred q] (f : α → ℚ)
    (rows : List α) :
    ((rows.filter p).map f).sum = ((rows.filter fun a => p a ∧ q a).map f).sum +
      ((rows.filter fun a => p a ∧ ¬ q a).map f).sum := by
  rw [sum_map_filter, sum_map_filter, sum_map_filter, ← List.sum_map_add]
  congr 1
  refine List.map_congr_left fun a _ => ?_
  by_cases hp : p a
  · by_cases hq : q a
    · simp [hp, hq]
    · simp [hp, hq]
  · simp [hp]

theorem sum_filter_eq_zero (hnonneg : ∀ a ∈ rows, 0 ≤ f a) (p : α → Prop) [DecidablePred p] :
    ((rows.filter p).map f).sum = 0 ↔ ∀ a ∈ rows, p a → f a = 0 := by
  constructor
  · intro h a ha hp
    refine List.all_zero_of_le_zero_le_of_sum_eq_zero ?_ h
      (List.mem_map_of_mem (List.mem_filter.mpr ⟨ha, decide_eq_true hp⟩))
    intro x hx
    obtain ⟨b, hb, rfl⟩ := List.mem_map.mp hx
    exact hnonneg b (List.mem_of_mem_filter hb)
  · intro h
    refine List.sum_eq_zero fun x hx => ?_
    obtain ⟨a, ha, rfl⟩ := List.mem_map.mp hx
    exact h a (List.mem_of_mem_filter ha) (of_decide_eq_true (List.mem_filter.mp ha).2)

theorem sum_map_eq_of_keys {items : List α} {keys : List κ} {part : α → κ} {g : κ → ℚ}
    (hitems : (items.map part).Nodup) (hkeys : keys.Nodup)
    (hmem : ∀ k, k ∈ items.map part ↔ k ∈ keys) (hvalue : ∀ a ∈ items, f a = g (part a)) :
    (items.map f).sum = (keys.map g).sum := by
  have hperm : (items.map part).Perm keys := (List.perm_ext_iff_of_nodup hitems hkeys).mpr hmem
  calc (items.map f).sum = ((items.map part).map g).sum := by
        rw [List.map_map]
        exact congrArg List.sum (List.map_congr_left hvalue)
    _ = (keys.map g).sum := (hperm.map g).sum_eq

/-! ## Groups -/

variable [DecidableEq κ] {key : α → κ}

def distinctKeys (key : α → κ) (rows : List α) : List κ :=
  (rows.map key).dedup

def groupSum (key : α → κ) (f : α → ℚ) (rows : List α) (k : κ) : ℚ :=
  ((rows.filter fun a => key a = k).map f).sum

/-- `SELECT key, SUM(f) .. GROUP BY key`. -/
def groupBy (key : α → κ) (f : α → ℚ) (rows : List α) : List (κ × ℚ) :=
  (distinctKeys key rows).map fun k => (k, groupSum key f rows k)

theorem mem_distinctKeys {k : κ} : k ∈ distinctKeys key rows ↔ ∃ a ∈ rows, key a = k := by
  rw [distinctKeys, List.mem_dedup, List.mem_map]

theorem nodup_distinctKeys (key : α → κ) (rows : List α) : (distinctKeys key rows).Nodup :=
  List.nodup_dedup _

theorem sum_single {keys : List κ} (hkeys : keys.Nodup) {k : κ} (hk : k ∈ keys) (x : ℚ) :
    (keys.map fun k' => if k = k' then x else 0).sum = x := by
  induction keys with
  | nil => cases hk
  | cons k' keys ih =>
      rw [List.nodup_cons] at hkeys
      rw [List.map_cons, List.sum_cons]
      rcases List.mem_cons.mp hk with rfl | hlater
      · have hrest : (keys.map fun k' => if k = k' then x else 0).sum = 0 := by
          refine List.sum_eq_zero fun y hy => ?_
          obtain ⟨k', hk', rfl⟩ := List.mem_map.mp hy
          refine if_neg ?_
          rintro rfl
          exact hkeys.1 hk'
        rw [if_pos rfl, hrest, add_zero]
      · have hne : k ≠ k' := by
          rintro rfl
          exact hkeys.1 hlater
        rw [if_neg hne, zero_add, ih hkeys.2 hlater]

theorem sum_groups {keys : List κ} (hkeys : keys.Nodup) (f : α → ℚ)
    (hmem : ∀ a ∈ rows, key a ∈ keys) :
    (keys.map (groupSum key f rows)).sum = (rows.map f).sum := by
  unfold groupSum
  simp only [sum_map_filter]
  induction rows with
  | nil => simp
  | cons a rows ih =>
      simp only [List.map_cons, List.sum_cons, List.sum_map_add]
      rw [sum_single hkeys (hmem a (by simp)), ih fun b hb => hmem b (by simp [hb])]

/-- The groups whose key satisfies `p` hold the rows whose key does. -/
theorem sum_filter_groups (key : α → κ) (f : α → ℚ) (rows : List α) (p : κ → Prop)
    [DecidablePred p] :
    (((distinctKeys key rows).filter p).map (groupSum key f rows)).sum =
      ((rows.filter fun a => p (key a)).map f).sum := by
  have hgroup : ∀ k, (if p k then groupSum key f rows k else 0) =
      groupSum key (fun a => if p (key a) then f a else 0) rows k := by
    intro k
    unfold groupSum
    rw [sum_map_filter, sum_map_filter]
    by_cases hp : p k
    · rw [if_pos hp]
      refine congrArg List.sum (List.map_congr_left fun a _ => ?_)
      by_cases hk : key a = k
      · rw [if_pos hk, if_pos hk, hk, if_pos hp]
      · rw [if_neg hk, if_neg hk]
    · rw [if_neg hp]
      symm
      refine List.sum_eq_zero fun x hx => ?_
      obtain ⟨a, -, rfl⟩ := List.mem_map.mp hx
      by_cases hk : key a = k
      · rw [if_pos hk, hk, if_neg hp]
      · rw [if_neg hk]
  rw [sum_map_filter, sum_map_filter, List.map_congr_left fun k _ => hgroup k]
  exact sum_groups (nodup_distinctKeys key rows) _ fun a ha => mem_distinctKeys.mpr ⟨a, ha, rfl⟩

theorem groupSum_groupBy {μ : Type*} [DecidableEq μ] (part : κ → μ) (f : α → ℚ) (rows : List α)
    (m : μ) : groupSum (fun e : κ × ℚ => part e.1) Prod.snd (groupBy key f rows) m =
      groupSum (fun a => part (key a)) f rows m := by
  have hfilter : (groupBy key f rows).filter (fun e => part e.1 = m) =
      ((distinctKeys key rows).filter fun k => part k = m).map
        fun k => (k, groupSum key f rows k) := by
    rw [groupBy, List.filter_map]
    rfl
  rw [groupSum, hfilter, List.map_map]
  exact sum_filter_groups key f rows fun k => part k = m

theorem mem_distinctKeys_groupBy {μ : Type*} [DecidableEq μ] {part : κ → μ} {m : μ} :
    m ∈ distinctKeys (fun e : κ × ℚ => part e.1) (groupBy key f rows) ↔
      ∃ a ∈ rows, part (key a) = m := by
  simp only [mem_distinctKeys, groupBy, List.mem_map]
  constructor
  · rintro ⟨_, ⟨_, ⟨a, ha, rfl⟩, rfl⟩, rfl⟩
    exact ⟨a, ha, rfl⟩
  · rintro ⟨a, ha, rfl⟩
    exact ⟨_, ⟨_, ⟨a, ha, rfl⟩, rfl⟩, rfl⟩

/-! ## The first row of each key -/

/-- `SELECT DISTINCT ON (key) .. ORDER BY key, last`. -/
def distinctOn (key : α → κ) (last : α → Bool) (rows : List α) : List α :=
  (distinctKeys key rows).filterMap fun k =>
    ((rows.filter fun a => key a = k ∧ last a = false) ++
      rows.filter fun a => key a = k ∧ last a = true).head?

theorem head?_group {last : α → Bool} {k : κ} (hk : k ∈ distinctKeys key rows) :
    ∃ a ∈ rows, key a = k ∧ ((rows.filter fun a => key a = k ∧ last a = false) ++
      rows.filter fun a => key a = k ∧ last a = true).head? = some a := by
  obtain ⟨b, hb, hbk⟩ := mem_distinctKeys.mp hk
  cases hhead : ((rows.filter fun a => key a = k ∧ last a = false) ++
      rows.filter fun a => key a = k ∧ last a = true).head? with
  | none =>
      have hempty := List.append_eq_nil_iff.mp (List.head?_eq_none_iff.mp hhead)
      exfalso
      cases hlast : last b with
      | false => exact List.filter_eq_nil_iff.mp hempty.1 b hb (by simp [hbk, hlast])
      | true => exact List.filter_eq_nil_iff.mp hempty.2 b hb (by simp [hbk, hlast])
  | some a =>
      refine ⟨a, ?_⟩
      rcases List.mem_append.mp (List.mem_of_head? hhead) with ha | ha
      · obtain ⟨harows, hak⟩ := List.mem_filter.mp ha
        exact ⟨harows, (of_decide_eq_true hak).1, rfl⟩
      · obtain ⟨harows, hak⟩ := List.mem_filter.mp ha
        exact ⟨harows, (of_decide_eq_true hak).1, rfl⟩

theorem mem_of_mem_distinctOn {last : α → Bool} {a : α} (ha : a ∈ distinctOn key last rows) :
    a ∈ rows := by
  obtain ⟨k, hk, hhead⟩ := List.mem_filterMap.mp ha
  obtain ⟨b, hb, -, hb'⟩ := head?_group  hk
  rw [hb'] at hhead
  cases hhead
  exact hb

theorem map_distinctOn (key : α → κ) (last : α → Bool) (rows : List α) :
    (distinctOn key last rows).map key = distinctKeys key rows := by
  have hpick : ∀ keys : List κ, (∀ k ∈ keys, k ∈ distinctKeys key rows) →
      (keys.filterMap fun k => ((rows.filter fun a => key a = k ∧ last a = false) ++
        rows.filter fun a => key a = k ∧ last a = true).head?).map key = keys := by
    intro keys hkeys
    induction keys with
    | nil => rfl
    | cons k keys ih =>
        obtain ⟨a, -, hak, hhead⟩ := head?_group  (hkeys k (by simp))
        rw [List.filterMap_cons, hhead, List.map_cons, hak,
          ih fun k hk => hkeys k (List.mem_cons_of_mem _ hk)]
  exact hpick _ fun _ hk => hk

end GhgTool
