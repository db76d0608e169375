import Mathlib.Data.List.Nodup
import Mathlib.Tactic.TypeStar

/-!
# Insertions that skip known keys

`INSERT .. ON CONFLICT (key) DO NOTHING`, one row after another. All rows are stored exactly when
their keys are new and distinct, and none is exactly when all their keys are known.
-/

namespace GhgTool

variable {α κ : Type*} [DecidableEq κ] {key : α → κ} {rows rs : List α} {r : α} {k : κ}

def insertNew (key : α → κ) (rows : List α) (r : α) : List α :=
  if key r ∈ rows.map key then rows else rows ++ [r]

def insertAllNew (key : α → κ) (rows rs : List α) : List α :=
  rs.foldl (insertNew key) rows

theorem insertNew_known (h : key r ∈ rows.map key) : insertNew key rows r = rows :=
  if_pos h

theorem insertNew_new (h : key r ∉ rows.map key) : insertNew key rows r = rows ++ [r] :=
  if_neg h

theorem insertAllNew_cons :
    insertAllNew key rows (r :: rs) = insertAllNew key (insertNew key rows r) rs :=
  rfl

/-- Rows are only appended, and only rows that were to be inserted. -/
theorem insertAllNew_appends (key : α → κ) (rows rs : List α) :
    ∃ added, insertAllNew key rows rs = rows ++ added ∧ added.Sublist rs := by
  induction rs generalizing rows with
  | nil => exact ⟨[], (List.append_nil rows).symm, .refl []⟩
  | cons r rs ih =>
      rw [insertAllNew_cons]
      by_cases h : key r ∈ rows.map key
      · obtain ⟨added, hadded, hsub⟩ := ih rows
        rw [insertNew_known h]
        exact ⟨added, hadded, hsub.cons r⟩
      · obtain ⟨added, hadded, hsub⟩ := ih (rows ++ [r])
        rw [insertNew_new h]
        exact ⟨r :: added, by rw [hadded, List.append_assoc, List.singleton_append],
          hsub.cons_cons r⟩

theorem length_le_insertAllNew (key : α → κ) (rows rs : List α) :
    rows.length ≤ (insertAllNew key rows rs).length := by
  obtain ⟨added, hadded, -⟩ := insertAllNew_appends key rows rs
  rw [hadded, List.length_append]
  omega

/-- Every row is stored exactly when the keys are new and no two of them agree. -/
theorem insertAllNew_eq_append_iff : insertAllNew key rows rs = rows ++ rs ↔
    (rs.map key).Nodup ∧ ∀ r ∈ rs, key r ∉ rows.map key := by
  induction rs generalizing rows with
  | nil => simp [insertAllNew]
  | cons r rs ih =>
      rw [insertAllNew_cons]
      by_cases h : key r ∈ rows.map key
      · rw [insertNew_known h]
        constructor
        · intro heq
          obtain ⟨added, hadded, hsub⟩ := insertAllNew_appends key rows rs
          have hlen := hsub.length_le
          rw [hadded] at heq
          rw [List.append_cancel_left heq, List.length_cons] at hlen
          omega
        · intro hnew
          exact absurd h (hnew.2 r (by simp))
      · have hcons : rows ++ r :: rs = rows ++ [r] ++ rs := List.append_cons rows r rs
        rw [insertNew_new h, hcons, ih]
        simp only [List.map_cons, List.nodup_cons, List.map_append, List.mem_append,
          List.map_nil, List.mem_cons, List.not_mem_nil, or_false, List.mem_map]
        constructor
        · rintro ⟨hnodup, hnew⟩
          refine ⟨⟨?_, hnodup⟩, ?_⟩
          · rintro ⟨s, hs, hkey⟩
            exact hnew s hs (.inr hkey)
          · rintro s (rfl | hs)
            · simpa using h
            · exact fun hmem => hnew s hs (.inl hmem)
        · rintro ⟨⟨hfirst, hnodup⟩, hnew⟩
          refine ⟨hnodup, fun s hs => ?_⟩
          rintro (hmem | hkey)
          · exact hnew s (.inr hs) hmem
          · exact hfirst ⟨s, hs, hkey⟩

/-- Nothing is stored exactly when every key is known. -/
theorem insertAllNew_eq_self_iff :
    insertAllNew key rows rs = rows ↔ ∀ r ∈ rs, key r ∈ rows.map key := by
  induction rs generalizing rows with
  | nil => simp [insertAllNew]
  | cons r rs ih =>
      rw [insertAllNew_cons]
      by_cases h : key r ∈ rows.map key
      · rw [insertNew_known h, ih, List.forall_mem_cons]
        exact (and_iff_right h).symm
      · rw [insertNew_new h]
        constructor
        · intro heq
          have hlen := length_le_insertAllNew key (rows ++ [r]) rs
          rw [heq, List.length_append, List.length_singleton] at hlen
          omega
        · intro hall
          exact absurd (hall r (by simp)) h

/-- A row that the insertion stores: the first of its key, which no row has yet. -/
def FirstNew (key : α → κ) (rows rs : List α) (r : α) : Prop :=
  key r ∉ rows.map key ∧ ∃ before after, rs = before ++ r :: after ∧ key r ∉ before.map key

omit [DecidableEq κ] in
theorem firstNew_cons_known {s : α} (h : key s ∈ rows.map key) :
    FirstNew key rows (s :: rs) r ↔ FirstNew key rows rs r := by
  constructor
  · rintro ⟨hnew, before, after, heq, hfirst⟩
    cases before with
    | nil =>
        obtain ⟨rfl, -⟩ := List.cons.inj heq
        exact absurd h hnew
    | cons b before =>
        obtain ⟨rfl, rfl⟩ := List.cons.inj heq
        exact ⟨hnew, before, after, rfl, fun hmem => hfirst (by simp [hmem])⟩
  · rintro ⟨hnew, before, after, rfl, hfirst⟩
    refine ⟨hnew, s :: before, after, rfl, ?_⟩
    rw [List.map_cons, List.mem_cons, not_or]
    exact ⟨fun heq => hnew (heq ▸ h), hfirst⟩

omit [DecidableEq κ] in
theorem firstNew_cons_new {s : α} (h : key s ∉ rows.map key) :
    FirstNew key rows (s :: rs) r ↔ r = s ∨ FirstNew key (rows ++ [s]) rs r := by
  constructor
  · rintro ⟨hnew, before, after, heq, hfirst⟩
    cases before with
    | nil => exact .inl (List.cons.inj heq).1.symm
    | cons b before =>
        obtain ⟨rfl, rfl⟩ := List.cons.inj heq
        rw [List.map_cons, List.mem_cons, not_or] at hfirst
        exact .inr ⟨by simpa [hnew] using hfirst.1, before, after, rfl, hfirst.2⟩
  · rintro (rfl | ⟨hnew, before, after, rfl, hfirst⟩)
    · exact ⟨h, [], rs, rfl, by simp⟩
    · simp only [List.map_append, List.mem_append, not_or, List.map_singleton,
        List.mem_singleton] at hnew
      exact ⟨hnew.1, s :: before, after, rfl, by simpa [hnew.2] using hfirst⟩

theorem mem_insertAllNew :
    r ∈ insertAllNew key rows rs ↔ r ∈ rows ∨ FirstNew key rows rs r := by
  induction rs generalizing rows with
  | nil => simp [insertAllNew, FirstNew]
  | cons s rs ih =>
      rw [insertAllNew_cons]
      by_cases h : key s ∈ rows.map key
      · rw [insertNew_known h, ih, firstNew_cons_known h]
      · rw [insertNew_new h, ih, firstNew_cons_new h, List.mem_append, List.mem_singleton, or_assoc]

theorem key_mem_insertAllNew (h : r ∈ rs) : key r ∈ (insertAllNew key rows rs).map key := by
  induction rs generalizing rows with
  | nil => cases h
  | cons s rs ih =>
      rw [insertAllNew_cons]
      rcases List.mem_cons.mp h with rfl | h
      · obtain ⟨added, hadded, -⟩ := insertAllNew_appends key (insertNew key rows r) rs
        rw [hadded, List.map_append]
        apply List.mem_append_left
        by_cases hknown : key r ∈ rows.map key
        · rwa [insertNew_known hknown]
        · rw [insertNew_new hknown]
          simp
      · exact ih h

end GhgTool
