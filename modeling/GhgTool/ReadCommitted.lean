import Mathlib.Data.List.Basic
import Mathlib.Data.List.Pairwise
import Mathlib.Tactic.TypeStar

/-!
# Tables under read-committed transactions

A table holds the committed rows and those written by transactions still open, each version with
its owner. Inserting a row that clashes with a committed row, or with one of the transaction's own,
fails; a clash with a row of another open transaction makes the statement wait. Commit and
rollback settle the versions of one owner.

The second half is about the part of a table that satisfies a predicate on rows: the operations
act on it alone whenever clashes do not leave it.
-/

namespace GhgTool

variable {ι α β : Type*}

structure Version (ι α : Type*) where
  row : α
  owner : Option ι

/-- What an insertion statement comes to. -/
inductive Insertion (β : Type*)
  | conflict
  | blocked
  | inserted (table : β)

def Insertion.map {γ : Type*} (f : β → γ) : Insertion β → Insertion γ
  | .conflict => .conflict
  | .blocked => .blocked
  | .inserted table => .inserted (f table)

section Tables

variable {clash : α → α → Prop} {p : α → Bool} {i : ι} {r : α} {vs : List (Version ι α)}

/-- No two rows of the table clash, committed or not. -/
def Apart (clash : α → α → Prop) (vs : List (Version ι α)) : Prop :=
  vs.Pairwise fun v w => ¬ clash v.row w.row

theorem Apart.inserted (h : Apart clash vs) (hfree : ∀ v ∈ vs, ¬ clash v.row r) :
    Apart clash (vs ++ [⟨r, some i⟩]) :=
  List.pairwise_append.mpr ⟨h, List.pairwise_singleton _ _, by simpa using hfree⟩

/-- Under a symmetric clash, two versions that clash are one. -/
theorem Apart.eq_of_clash (h : Apart clash vs) (hsymm : ∀ a b, clash a b → clash b a)
    {v w : Version ι α} (hv : v ∈ vs) (hw : w ∈ vs) (hclash : clash v.row w.row) : v = w := by
  by_contra hne
  have : Std.Symm fun v w : Version ι α => ¬ clash v.row w.row :=
    ⟨fun a b hab hba => hab (hsymm _ _ hba)⟩
  exact h.forall hv hw hne hclash

/-- The versions whose row satisfies `p`. -/
def restrict (p : α → Bool) (vs : List (Version ι α)) : List (Version ι α) :=
  vs.filter fun v => p v.row

theorem mem_restrict {v : Version ι α} : v ∈ restrict p vs ↔ v ∈ vs ∧ p v.row = true :=
  List.mem_filter

theorem restrict_append_other (hr : p r = false) :
    restrict p (vs ++ [⟨r, some i⟩]) = restrict p vs := by
  simp [restrict, List.filter_append, hr]

end Tables

section Operations

variable [DecidableEq ι]

def Version.Visible (i : ι) (v : Version ι α) : Prop :=
  v.owner = none ∨ v.owner = some i

instance (i : ι) (v : Version ι α) : Decidable (v.Visible i) :=
  inferInstanceAs (Decidable (_ ∨ _))

def insertVersion (clash : α → α → Prop) [DecidableRel clash] (i : ι) (r : α)
    (vs : List (Version ι α)) : Insertion (List (Version ι α)) :=
  if ∃ v ∈ vs, v.Visible i ∧ clash v.row r then .conflict
  else if ∃ v ∈ vs, clash v.row r then .blocked
  else .inserted (vs ++ [⟨r, some i⟩])

def commitVersions (i : ι) (vs : List (Version ι α)) : List (Version ι α) :=
  vs.map fun v => if v.owner = some i then { v with owner := none } else v

def rollbackVersions (i : ι) (vs : List (Version ι α)) : List (Version ι α) :=
  vs.filter fun v => decide (v.owner ≠ some i)

variable {clash : α → α → Prop} {i : ι} {r : α} {vs vs' : List (Version ι α)}

theorem insertVersion_eq_inserted [DecidableRel clash] :
    insertVersion clash i r vs = .inserted vs' ↔
      vs' = vs ++ [⟨r, some i⟩] ∧ ∀ v ∈ vs, ¬ clash v.row r := by
  unfold insertVersion
  by_cases hclash : ∃ v ∈ vs, clash v.row r
  · have hnot : ¬ ∀ v ∈ vs, ¬ clash v.row r := by
      intro h
      obtain ⟨v, hv, hvr⟩ := hclash
      exact h v hv hvr
    simp only [if_pos hclash, hnot, and_false, iff_false]
    split_ifs <;> simp
  · have hvisible : ¬ ∃ v ∈ vs, v.Visible i ∧ clash v.row r := by
      rintro ⟨v, hv, -, hvr⟩
      exact hclash ⟨v, hv, hvr⟩
    rw [if_neg hvisible, if_neg hclash, Insertion.inserted.injEq]
    constructor
    · intro h
      exact ⟨h.symm, fun v hv hvr => hclash ⟨v, hv, hvr⟩⟩
    · intro h
      exact h.1.symm

theorem Apart.commit (h : Apart clash vs) : Apart clash (commitVersions i vs) := by
  refine List.pairwise_map.mpr (h.imp fun hvw => ?_)
  split_ifs <;> exact hvw

theorem Apart.rollback (h : Apart clash vs) : Apart clash (rollbackVersions i vs) :=
  h.filter _

/-- A version after a commit is a version before it, perhaps with its owner released. -/
theorem mem_commitVersions {v : Version ι α} :
    v ∈ commitVersions i vs ↔
      (v ∈ vs ∧ v.owner ≠ some i) ∨ (v.owner = none ∧ ⟨v.row, some i⟩ ∈ vs) := by
  unfold commitVersions
  rw [List.mem_map]
  constructor
  · rintro ⟨w, hw, rfl⟩
    by_cases howner : w.owner = some i
    · rw [if_pos howner]
      exact .inr ⟨rfl, by rw [← howner]; exact hw⟩
    · rw [if_neg howner]
      exact .inl ⟨hw, howner⟩
  · rintro (⟨hv, howner⟩ | ⟨howner, hv⟩)
    · exact ⟨v, hv, if_neg howner⟩
    · refine ⟨_, hv, ?_⟩
      rw [if_pos rfl]
      cases v
      cases howner
      rfl

theorem mem_rollbackVersions {v : Version ι α} :
    v ∈ rollbackVersions i vs ↔ v ∈ vs ∧ v.owner ≠ some i := by
  rw [rollbackVersions, List.mem_filter, decide_eq_true_iff]

theorem commitVersions_of_absent (h : ∀ v ∈ vs, v.owner ≠ some i) :
    commitVersions i vs = vs := by
  unfold commitVersions
  rw [List.map_congr_left fun v hv => if_neg (h v hv), List.map_id']

theorem rollbackVersions_of_absent (h : ∀ v ∈ vs, v.owner ≠ some i) :
    rollbackVersions i vs = vs :=
  List.filter_eq_self.mpr fun v hv => decide_eq_true (h v hv)

end Operations

section Restriction

variable [DecidableEq ι] {p : α → Bool} {clash : α → α → Prop} {i : ι} {r : α}
  {vs : List (Version ι α)}

theorem restrict_commitVersions (p : α → Bool) (i : ι) (vs : List (Version ι α)) :
    restrict p (commitVersions i vs) = commitVersions i (restrict p vs) := by
  unfold restrict commitVersions
  rw [List.filter_map]
  congr 1
  refine List.filter_congr fun v _ => ?_
  show p (if v.owner = some i then { v with owner := none } else v).row = p v.row
  split_ifs <;> rfl

theorem restrict_rollbackVersions (p : α → Bool) (i : ι) (vs : List (Version ι α)) :
    restrict p (rollbackVersions i vs) = rollbackVersions i (restrict p vs) := by
  unfold restrict rollbackVersions
  rw [List.filter_filter, List.filter_filter]
  exact List.filter_congr fun v _ => Bool.and_comm _ _

/-- A row that clashes only inside the restriction is inserted as if nothing else were there. -/
theorem restrict_insertVersion [DecidableRel clash] (hr : p r = true)
    (hclash : ∀ v ∈ vs, clash v.row r → p v.row = true) :
    (insertVersion clash i r vs).map (restrict p) = insertVersion clash i r (restrict p vs) := by
  have hex : (∃ v ∈ restrict p vs, clash v.row r) ↔ ∃ v ∈ vs, clash v.row r := by
    constructor
    · rintro ⟨v, hv, hvr⟩
      exact ⟨v, (mem_restrict.mp hv).1, hvr⟩
    · rintro ⟨v, hv, hvr⟩
      exact ⟨v, mem_restrict.mpr ⟨hv, hclash v hv hvr⟩, hvr⟩
  have hvisible : (∃ v ∈ restrict p vs, v.Visible i ∧ clash v.row r) ↔
      ∃ v ∈ vs, v.Visible i ∧ clash v.row r := by
    constructor
    · rintro ⟨v, hv, hvi, hvr⟩
      exact ⟨v, (mem_restrict.mp hv).1, hvi, hvr⟩
    · rintro ⟨v, hv, hvi, hvr⟩
      exact ⟨v, mem_restrict.mpr ⟨hv, hclash v hv hvr⟩, hvi, hvr⟩
  unfold insertVersion
  by_cases h₁ : ∃ v ∈ vs, v.Visible i ∧ clash v.row r
  · rw [if_pos h₁, if_pos (hvisible.mpr h₁)]
    rfl
  · rw [if_neg h₁, if_neg fun h => h₁ (hvisible.mp h)]
    by_cases h₂ : ∃ v ∈ vs, clash v.row r
    · rw [if_pos h₂, if_pos (hex.mpr h₂)]
      rfl
    · rw [if_neg h₂, if_neg fun h => h₂ (hex.mp h)]
      simp [Insertion.map, restrict, List.filter_append, hr]

end Restriction

/-! ## Swept tables -/

/-- In the second table, committed rows that are `dead` may be missing. -/
inductive Swept (dead : α → Prop) : List (Version ι α) → List (Version ι α) → Prop
  | nil : Swept dead [] []
  | keep (v : Version ι α) {vs ws : List (Version ι α)} :
      Swept dead vs ws → Swept dead (v :: vs) (v :: ws)
  | drop {v : Version ι α} {vs ws : List (Version ι α)} (howner : v.owner = none)
      (hdead : dead v.row) : Swept dead vs ws → Swept dead (v :: vs) ws

namespace Swept

variable {dead dead' : α → Prop} {vs ws : List (Version ι α)}

theorem refl (vs : List (Version ι α)) : Swept dead vs vs := by
  induction vs with
  | nil => exact .nil
  | cons v vs ih => exact .keep v ih

theorem mono (himp : ∀ r, dead r → dead' r) (h : Swept dead vs ws) : Swept dead' vs ws := by
  induction h with
  | nil => exact .nil
  | keep v _ ih => exact .keep v ih
  | drop howner hdead _ ih => exact .drop howner (himp _ hdead) ih

theorem append (h : Swept dead vs ws) (v : Version ι α) : Swept dead (vs ++ [v]) (ws ++ [v]) := by
  induction h with
  | nil => exact .keep v .nil
  | keep w _ ih => exact .keep w ih
  | drop howner hdead _ ih => exact .drop howner hdead ih

theorem filter (h : Swept dead vs ws) {p : Version ι α → Bool}
    (hp : ∀ v, p v = false → v.owner = none ∧ dead v.row) : Swept dead vs (ws.filter p) := by
  induction h with
  | nil => exact .nil
  | keep v _ ih =>
      cases hv : p v with
      | true =>
          rw [List.filter_cons_of_pos hv]
          exact .keep v ih
      | false =>
          rw [List.filter_cons_of_neg (by simp [hv])]
          exact .drop (hp v hv).1 (hp v hv).2 ih
  | drop howner hdead _ ih => exact .drop howner hdead ih

/-- What holds of no dead committed row is found in both tables or in neither. -/
theorem exists_iff (h : Swept dead vs ws) {P : Version ι α → Prop}
    (hP : ∀ v ∈ vs, v.owner = none → dead v.row → ¬ P v) :
    (∃ v ∈ ws, P v) ↔ ∃ v ∈ vs, P v := by
  induction h with
  | nil => exact Iff.rfl
  | keep v _ ih =>
      simp only [List.mem_cons, exists_eq_or_imp]
      rw [ih fun w hw => hP w (List.mem_cons_of_mem _ hw)]
  | drop howner hdead _ ih =>
      simp only [List.mem_cons, exists_eq_or_imp]
      rw [ih fun w hw => hP w (List.mem_cons_of_mem _ hw),
        or_iff_right (hP _ List.mem_cons_self howner hdead)]

theorem find?_eq (h : Swept dead vs ws) {p : Version ι α → Bool}
    (hp : ∀ v ∈ vs, v.owner = none → dead v.row → p v = false) : ws.find? p = vs.find? p := by
  induction h with
  | nil => rfl
  | keep v _ ih =>
      rw [List.find?_cons, List.find?_cons, ih fun w hw => hp w (List.mem_cons_of_mem _ hw)]
  | drop howner hdead _ ih =>
      rw [List.find?_cons, hp _ List.mem_cons_self howner hdead,
        ih fun w hw => hp w (List.mem_cons_of_mem _ hw)]

variable [DecidableEq ι]

theorem commit (h : Swept dead vs ws) (i : ι) :
    Swept dead (commitVersions i vs) (commitVersions i ws) := by
  unfold commitVersions
  induction h with
  | nil => exact .nil
  | keep v _ ih => exact .keep _ ih
  | drop howner hdead _ ih =>
      rw [List.map_cons, if_neg (by simp [howner])]
      exact .drop howner hdead ih

theorem rollback (h : Swept dead vs ws) (i : ι) :
    Swept dead (rollbackVersions i vs) (rollbackVersions i ws) := by
  unfold rollbackVersions
  induction h with
  | nil => exact .nil
  | keep v _ ih =>
      by_cases hv : v.owner = some i
      · simpa [List.filter_cons, hv] using ih
      · simpa [List.filter_cons, hv] using Swept.keep v ih
  | drop howner hdead _ ih =>
      rw [List.filter_cons_of_pos (by simp [howner])]
      exact .drop howner hdead ih

/-- An insertion that clashes with no dead row comes to the same in both tables. -/
theorem insertVersion (h : Swept dead vs ws) (clash : α → α → Prop) [DecidableRel clash] (i : ι)
    (r : α) (hfree : ∀ v ∈ vs, v.owner = none → dead v.row → ¬ clash v.row r) :
    (GhgTool.insertVersion clash i r vs = .conflict ∧
        GhgTool.insertVersion clash i r ws = .conflict) ∨
      (GhgTool.insertVersion clash i r vs = .blocked ∧
        GhgTool.insertVersion clash i r ws = .blocked) ∨
      (GhgTool.insertVersion clash i r vs = .inserted (vs ++ [⟨r, some i⟩]) ∧
        GhgTool.insertVersion clash i r ws = .inserted (ws ++ [⟨r, some i⟩])) := by
  have hvisible : (∃ v ∈ ws, v.Visible i ∧ clash v.row r) ↔
      ∃ v ∈ vs, v.Visible i ∧ clash v.row r :=
    h.exists_iff fun v hv howner hdead hclash => hfree v hv howner hdead hclash.2
  have hany : (∃ v ∈ ws, clash v.row r) ↔ ∃ v ∈ vs, clash v.row r :=
    h.exists_iff hfree
  unfold GhgTool.insertVersion
  simp only [hvisible, hany]
  by_cases h₁ : ∃ v ∈ vs, v.Visible i ∧ clash v.row r
  · exact .inl ⟨if_pos h₁, if_pos h₁⟩
  · by_cases h₂ : ∃ v ∈ vs, clash v.row r
    · rw [if_neg h₁, if_neg h₁, if_pos h₂, if_pos h₂]
      exact .inr (.inl ⟨rfl, rfl⟩)
    · rw [if_neg h₁, if_neg h₁, if_neg h₂, if_neg h₂]
      exact .inr (.inr ⟨rfl, rfl⟩)

end Swept

end GhgTool
