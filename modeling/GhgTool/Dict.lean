import Mathlib.Algebra.BigOperators.Group.List.Basic
import Mathlib.Algebra.Order.Field.Rat
import Mathlib.Data.List.Induction
import Mathlib.Tactic.Ring
import GhgTool.KeyedRows

/-!
# Dictionaries

A dictionary is an association list whose keys are distinct, in order of first insertion;
`upsertKey` writes one key.
`Dict.indexBy key rows` is the loop `d[key(row)] = row`: under each key it keeps the last row, and
the rows before it are overwritten.
-/

namespace GhgTool

structure Dict (κ ν : Type*) where
  entries : List (κ × ν)
  nodup_keys : (entries.map Prod.fst).Nodup

variable {α κ ν : Type*} [DecidableEq κ]

/-- `d[k] = f(d.get(k))`. -/
def upsertKey (k : κ) (f : Option ν → ν) : List (κ × ν) → List (κ × ν)
  | [] => [(k, f none)]
  | entry :: d =>
    if entry.1 = k then (entry.1, f (some entry.2)) :: d else entry :: upsertKey k f d

section Upsert

variable {k k' : κ} {f : Option ν → ν} {d : List (κ × ν)}

theorem mem_keys_upsertKey :
    k' ∈ (upsertKey k f d).map Prod.fst ↔ k' = k ∨ k' ∈ d.map Prod.fst := by
  induction d with
  | nil => simp [upsertKey]
  | cons entry d ih =>
      by_cases h : entry.1 = k
      · rw [upsertKey, if_pos h]
        simp only [List.map_cons, List.mem_cons, h]
        tauto
      · simp only [upsertKey, if_neg h, List.map_cons, List.mem_cons, ih]
        tauto

theorem nodup_keys_upsertKey (h : (d.map Prod.fst).Nodup) :
    ((upsertKey k f d).map Prod.fst).Nodup := by
  induction d with
  | nil => simp [upsertKey]
  | cons entry d ih =>
      rw [List.map_cons, List.nodup_cons] at h
      by_cases hk : entry.1 = k
      · rw [upsertKey, if_pos hk]
        exact List.nodup_cons.mpr h
      · rw [upsertKey, if_neg hk, List.map_cons, List.nodup_cons, mem_keys_upsertKey]
        exact ⟨fun hmem => hmem.elim hk h.1, ih h.2⟩

theorem lookup_upsertKey [BEq κ] [LawfulBEq κ] :
    (upsertKey k f d).lookup k' = if k = k' then some (f (d.lookup k)) else d.lookup k' := by
  induction d with
  | nil =>
      by_cases h : k = k'
      · simp [upsertKey, h]
      · simp [upsertKey, List.lookup_cons, h, beq_eq_false_iff_ne.mpr (Ne.symm h)]
  | cons entry d ih =>
      obtain ⟨key, value⟩ := entry
      by_cases hk : key = k
      · rw [upsertKey, if_pos hk, ← hk]
        by_cases h : key = k'
        · simp [h]
        · simp [List.lookup_cons, h, beq_eq_false_iff_ne.mpr (Ne.symm h)]
      · rw [upsertKey, if_neg hk]
        by_cases h : k' = key
        · simp [h, Ne.symm hk]
        · simp [List.lookup_cons, beq_eq_false_iff_ne.mpr h, beq_eq_false_iff_ne.mpr (Ne.symm hk),
            ih]

end Upsert

namespace Dict

def empty : Dict κ ν := ⟨[], by simp⟩

def keys (d : Dict κ ν) : List κ := d.entries.map Prod.fst

def get? (d : Dict κ ν) (k : κ) : Option ν := d.entries.lookup k

def set (d : Dict κ ν) (k : κ) (v : ν) : Dict κ ν :=
  ⟨upsertKey k (fun _ => v) d.entries, nodup_keys_upsertKey d.nodup_keys⟩

def upsert (d : Dict κ ν) (k : κ) (f : Option ν → ν) : Dict κ ν :=
  ⟨upsertKey k f d.entries, nodup_keys_upsertKey d.nodup_keys⟩

def indexBy (key : α → κ) (rows : List α) : Dict κ α :=
  rows.foldl (fun d a => d.set (key a) a) empty

theorem get?_set (d : Dict κ ν) (k k' : κ) (v : ν) :
    (d.set k v).get? k' = if k = k' then some v else d.get? k' :=
  lookup_upsertKey

theorem get?_upsert (d : Dict κ ν) (k k' : κ) (f : Option ν → ν) :
    (d.upsert k f).get? k' = if k = k' then some (f (d.get? k)) else d.get? k' :=
  lookup_upsertKey

theorem mem_keys_upsert {d : Dict κ ν} {k k' : κ} {f : Option ν → ν} :
    k' ∈ (d.upsert k f).keys ↔ k' = k ∨ k' ∈ d.keys :=
  mem_keys_upsertKey

theorem get?_eq_some_iff {d : Dict κ ν} {k : κ} {v : ν} :
    d.get? k = some v ↔ (k, v) ∈ d.entries := by
  obtain ⟨entries, hnodup⟩ := d
  simp only [get?]
  induction entries with
  | nil => simp
  | cons entry rest ih =>
      obtain ⟨key, value⟩ := entry
      rw [List.map_cons, List.nodup_cons] at hnodup
      rw [List.lookup_cons, List.mem_cons, ← ih hnodup.2]
      by_cases h : k = key
      · subst h
        have hrest : List.lookup k rest ≠ some v := by
          rw [ne_eq, ih hnodup.2]
          exact fun hmem => hnodup.1 (List.mem_map.mpr ⟨(k, v), hmem, rfl⟩)
        simp [hrest, eq_comm]
      · simp [beq_eq_false_iff_ne.mpr h, h]

variable {key : α → κ} {rows : List α} {k : κ} {a : α}

theorem indexBy_concat : indexBy key (rows ++ [a]) = (indexBy key rows).set (key a) a := by
  simp [indexBy, List.foldl_append]

theorem mem_keys_indexBy : k ∈ (indexBy key rows).keys ↔ k ∈ rows.map key := by
  induction rows using List.reverseRecOn with
  | nil => simp [indexBy, empty, keys]
  | append_singleton rows a ih =>
      rw [keys] at ih ⊢
      rw [indexBy_concat, set, mem_keys_upsertKey, ih, List.map_append, List.mem_append,
        List.map_singleton, List.mem_singleton]
      exact or_comm

theorem get?_indexBy : (indexBy key rows).get? k = findRow key k rows.reverse := by
  induction rows using List.reverseRecOn with
  | nil => simp [indexBy, empty, get?, findRow]
  | append_singleton rows a ih =>
      rw [indexBy_concat, get?_set, ih, List.reverse_append, List.reverse_singleton,
        List.singleton_append, findRow, findRow, List.find?_cons]
      by_cases h : key a = k
      · simp [h]
      · simp [h]

theorem mem_of_get?_indexBy (h : (indexBy key rows).get? k = some a) : a ∈ rows ∧ key a = k := by
  rw [get?_indexBy] at h
  obtain ⟨ha, hk⟩ := findRow_some h
  exact ⟨List.mem_reverse.mp ha, hk⟩

theorem get?_indexBy_eq_none : (indexBy key rows).get? k = none ↔ k ∉ rows.map key := by
  rw [get?_indexBy, findRow, List.find?_eq_none]
  simp

theorem get?_indexBy_perm {rows' : List α} (hperm : rows'.Perm rows) (k : κ) :
    ((indexBy key rows').get? k = none ∧ (indexBy key rows).get? k = none) ∨
      ∃ a' ∈ rows, ∃ a ∈ rows, key a' = k ∧ key a = k ∧
        (indexBy key rows').get? k = some a' ∧ (indexBy key rows).get? k = some a := by
  have hkeys : k ∈ rows'.map key ↔ k ∈ rows.map key := (hperm.map key).mem_iff
  by_cases hk : k ∈ rows.map key
  · obtain ⟨a', ha'⟩ := Option.ne_none_iff_exists'.mp
      (mt get?_indexBy_eq_none.mp (not_not.mpr (hkeys.mpr hk)))
    obtain ⟨a, ha⟩ := Option.ne_none_iff_exists'.mp (mt get?_indexBy_eq_none.mp (not_not.mpr hk))
    obtain ⟨hmem', hkey'⟩ := mem_of_get?_indexBy ha'
    obtain ⟨hmem, hkey⟩ := mem_of_get?_indexBy ha
    exact .inr ⟨a', hperm.mem_iff.mp hmem', a, hmem, hkey', hkey, ha', ha⟩
  · exact .inl ⟨get?_indexBy_eq_none.mpr (mt hkeys.mp hk), get?_indexBy_eq_none.mpr hk⟩

theorem exists_perm_get? (key : α → κ) (ha : a ∈ rows) :
    ∃ rows', rows'.Perm rows ∧ (indexBy key rows').get? (key a) = some a := by
  obtain ⟨before, after, rfl⟩ := List.append_of_mem ha
  refine ⟨before ++ after ++ [a], ?_, ?_⟩
  · rw [List.append_assoc]
    exact List.perm_append_comm.append_left before
  · rw [indexBy_concat, get?_set, if_pos rfl]

theorem get?_indexBy_cons : (indexBy key (a :: rows)).get? k =
    ((indexBy key rows).get? k).or (if key a = k then some a else none) := by
  rw [get?_indexBy, get?_indexBy, List.reverse_cons, findRow, findRow, List.find?_append,
    List.find?_singleton]
  simp

end Dict

/-- The rows whose key comes again. -/
def overwritten (key : α → κ) : List α → List α
  | [] => []
  | a :: rows => if key a ∈ rows.map key then a :: overwritten key rows else overwritten key rows

theorem exists_of_mem_overwritten {key : α → κ} {rows : List α} {R : α → α → Prop}
    (hpair : rows.Pairwise R) {a : α} (ha : a ∈ overwritten key rows) :
    a ∈ rows ∧ ∃ b ∈ rows, key a = key b ∧ R a b := by
  induction rows with
  | nil => cases ha
  | cons b rows ih =>
      obtain ⟨hfirst, hrest⟩ := List.pairwise_cons.mp hpair
      have hlater : a ∈ overwritten key rows →
          a ∈ b :: rows ∧ ∃ c ∈ b :: rows, key a = key c ∧ R a c := by
        intro hmem
        obtain ⟨hrow, c, hc, hac⟩ := ih hrest hmem
        exact ⟨List.mem_cons_of_mem _ hrow, c, List.mem_cons_of_mem _ hc, hac⟩
      rw [overwritten] at ha
      split at ha
      next hagain =>
        rcases List.mem_cons.mp ha with rfl | hmem
        · obtain ⟨c, hc, hkey⟩ := List.mem_map.mp hagain
          exact ⟨List.mem_cons_self, c, List.mem_cons_of_mem _ hc, hkey.symm, hfirst c hc⟩
        · exact hlater hmem
      next => exact hlater ha

open Dict in
theorem sum_indexBy {key : α → κ} {rows : List α} (f : α → ℚ) {keys : List κ}
    (hkeys : keys.Nodup) (hmem : ∀ k ∈ rows.map key, k ∈ keys) :
    (keys.map fun k => ((indexBy key rows).get? k).elim 0 f).sum +
      ((overwritten key rows).map f).sum = (rows.map f).sum := by
  induction rows with
  | nil => simp [indexBy, empty, get?, overwritten]
  | cons a rows ih =>
      have hrest := ih fun k hk => hmem k (List.mem_cons_of_mem _ hk)
      obtain ⟨before, after, rfl⟩ := List.append_of_mem (hmem (key a) List.mem_cons_self)
      -- only the entry under the key of the new row can change
      have hother : ∀ l : List κ, key a ∉ l →
          (l.map fun k => ((indexBy key (a :: rows)).get? k).elim 0 f) =
            l.map fun k => ((indexBy key rows).get? k).elim 0 f := by
        intro l hl
        refine List.map_congr_left fun k hk => ?_
        have hne : key a ≠ k := by
          rintro rfl
          exact hl hk
        rw [get?_indexBy_cons, if_neg hne, Option.or_none]
      obtain ⟨hbefore, hafter⟩ : key a ∉ before ∧ key a ∉ after := by
        rw [List.nodup_middle, List.nodup_cons, List.mem_append, not_or] at hkeys
        exact hkeys.1
      rw [List.map_append, List.sum_append, List.map_cons, List.sum_cons] at hrest ⊢
      rw [hother before hbefore, hother after hafter, List.map_cons, List.sum_cons, ← hrest,
        get?_indexBy_cons, if_pos rfl]
      by_cases hagain : key a ∈ rows.map key
      · have hsome : (indexBy key rows).get? (key a) ≠ none := by
          rw [ne_eq, get?_indexBy_eq_none, not_not]
          exact hagain
        obtain ⟨b, hb⟩ := Option.ne_none_iff_exists'.mp hsome
        rw [overwritten, if_pos hagain, List.map_cons, List.sum_cons, hb, Option.some_or]
        ring
      · rw [overwritten, if_neg hagain, get?_indexBy_eq_none.mpr hagain, Option.none_or,
          Option.elim_some, Option.elim_none]
        ring

end GhgTool
