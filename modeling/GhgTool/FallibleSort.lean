import Mathlib.Data.List.Nodup
import Mathlib.Order.Lattice
import GhgTool.Loop

/-!
# Sorting by a comparison that may raise

`lt a b` compares two entries or raises. Whatever its algorithm, a sort compares the entries that
end up next to each other, so it gets through exactly when no two of its entries are incomparable;
`sorted` is an insertion sort.
-/

namespace GhgTool

variable {ε : Type*} {α β : Type}

/-- A strict order of which some pairs cannot be compared. -/
structure StrictLt (lt : α → α → Except ε Bool) : Prop where
  irrefl : ∀ a, lt a a = .ok false
  asymm : ∀ a b, lt a b = .ok true → lt b a = .ok false
  connected : ∀ a b, lt a b = .ok false → a = b ∨ lt b a = .ok true
  trans : ∀ a b c, lt a b = .ok true → lt b c = .ok true → lt a c = .ok true

def Comparable (lt : α → α → Except ε Bool) (a b : α) : Prop :=
  ∃ c, lt a b = .ok c

/-! ## Tuples -/

section Orders

def scalarLt [LT α] [DecidableRel ((· < ·) : α → α → Prop)] (a b : α) : Except ε Bool :=
  .ok (a < b)

/-- An entry that may be missing. Tuples skip equal entries, so two missing ones do not raise. -/
def optionLt [LT α] [DecidableRel ((· < ·) : α → α → Prop)] (e : ε) :
    Option α → Option α → Except ε Bool
  | some a, some b => .ok (a < b)
  | none, none => .ok false
  | _, _ => .error e

/-- Tuples are compared at the first place where they differ. -/
def tupleLt [DecidableEq α] (lt₁ : α → α → Except ε Bool) (lt₂ : β → β → Except ε Bool)
    (a b : α × β) : Except ε Bool :=
  if a.1 = b.1 then lt₂ a.2 b.2 else lt₁ a.1 b.1

theorem strictLt_scalar [LinearOrder α] : StrictLt (scalarLt : α → α → Except ε Bool) where
  irrefl a := by simp [scalarLt]
  asymm a b h := by
    simp only [scalarLt, Except.ok.injEq, decide_eq_true_eq, decide_eq_false_iff_not] at h ⊢
    exact lt_asymm h
  connected a b h := by
    simp only [scalarLt, Except.ok.injEq, decide_eq_true_eq, decide_eq_false_iff_not] at h ⊢
    exact (eq_or_lt_of_not_gt h).imp_left Eq.symm
  trans a b c h h' := by
    simp only [scalarLt, Except.ok.injEq, decide_eq_true_eq] at h h' ⊢
    exact lt_trans h h'

theorem strictLt_option [LinearOrder α] (e : ε) :
    StrictLt (optionLt e : Option α → Option α → Except ε Bool) where
  irrefl a := by cases a <;> simp [optionLt]
  asymm a b h := by
    cases a <;> cases b <;> simp [optionLt] at h ⊢
    exact le_of_lt h
  connected a b h := by
    cases a <;> cases b <;> simp [optionLt] at h ⊢
    exact (eq_or_lt_of_le h).imp_left Eq.symm
  trans a b c h h' := by
    cases a <;> cases b <;> cases c <;> simp [optionLt] at h h' ⊢
    exact lt_trans h h'

theorem StrictLt.tuple [DecidableEq α] {lt₁ : α → α → Except ε Bool}
    {lt₂ : β → β → Except ε Bool} (h₁ : StrictLt lt₁) (h₂ : StrictLt lt₂) :
    StrictLt (tupleLt lt₁ lt₂) where
  irrefl a := by simp [tupleLt, h₂.irrefl]
  asymm a b h := by
    by_cases hab : a.1 = b.1
    · simp only [tupleLt, hab, if_true] at h ⊢
      exact h₂.asymm _ _ h
    · simp only [tupleLt, hab, Ne.symm hab, if_false] at h ⊢
      exact h₁.asymm _ _ h
  connected a b h := by
    by_cases hab : a.1 = b.1
    · simp only [tupleLt, hab, if_true] at h ⊢
      exact (h₂.connected _ _ h).imp_left fun hsnd => Prod.ext hab hsnd
    · simp only [tupleLt, hab, Ne.symm hab, if_false] at h ⊢
      exact .inr ((h₁.connected _ _ h).resolve_left hab)
  trans a b c h h' := by
    by_cases hab : a.1 = b.1
    · by_cases hbc : b.1 = c.1
      · simp only [tupleLt, hab, hbc, if_true] at h h' ⊢
        exact h₂.trans _ _ _ h h'
      · simp only [tupleLt, hab, hbc, if_true, if_false] at h h' ⊢
        exact h'
    · by_cases hbc : b.1 = c.1
      · simp only [tupleLt, ← hbc, hab, if_true, if_false] at h h' ⊢
        exact h
      · simp only [tupleLt, hab, hbc, if_false] at h h'
        have hlt := h₁.trans _ _ _ h h'
        have hac : a.1 ≠ c.1 := by
          intro heq
          rw [heq, h₁.irrefl] at hlt
          cases hlt
        simpa only [tupleLt, hac, if_false] using hlt

theorem comparable_scalar [LT α] [DecidableRel ((· < ·) : α → α → Prop)] (a b : α) :
    Comparable (scalarLt : α → α → Except ε Bool) a b :=
  ⟨_, rfl⟩

theorem comparable_option [LT α] [DecidableRel ((· < ·) : α → α → Prop)] {e : ε}
    {a b : Option α} : Comparable (optionLt e) a b ↔ (a = none ↔ b = none) := by
  cases a <;> cases b <;> simp [Comparable, optionLt]

theorem comparable_tuple [DecidableEq α] {lt₁ : α → α → Except ε Bool}
    {lt₂ : β → β → Except ε Bool} {a b : α × β} (h₁ : Comparable lt₁ a.1 b.1) :
    Comparable (tupleLt lt₁ lt₂) a b ↔ (a.1 = b.1 → Comparable lt₂ a.2 b.2) := by
  unfold Comparable at h₁ ⊢
  by_cases h : a.1 = b.1
  · simp only [tupleLt, h, if_true, true_imp_iff]
  · simpa only [tupleLt, h, if_false, false_imp_iff, iff_true] using h₁

theorem comparable_tuple_left [DecidableEq α] {lt₁ : α → α → Except ε Bool}
    {lt₂ : β → β → Except ε Bool} {a b : α × β} (h : StrictLt lt₁) (h₂ : Comparable lt₂ a.2 b.2) :
    Comparable (tupleLt lt₁ lt₂) a b ↔ Comparable lt₁ a.1 b.1 := by
  unfold Comparable at h₂ ⊢
  by_cases hab : a.1 = b.1
  · simpa [tupleLt, hab, h.irrefl] using h₂
  · simp only [tupleLt, hab, if_false]

section Raises

variable {E : ε → Prop}

theorem outcome_optionLt [LT α] [DecidableRel ((· < ·) : α → α → Prop)] {e : ε} (he : E e)
    {a b : Option α} : Outcome (optionLt e a b) (fun _ => True) E := by
  cases a <;> cases b <;> trivial

theorem outcome_tupleLt [DecidableEq α] {lt₁ : α → α → Except ε Bool}
    {lt₂ : β → β → Except ε Bool} {a b : α × β}
    (h₁ : Outcome (lt₁ a.1 b.1) (fun _ => True) E) (h₂ : Outcome (lt₂ a.2 b.2) (fun _ => True) E) :
    Outcome (tupleLt lt₁ lt₂ a b) (fun _ => True) E := by
  unfold tupleLt
  split_ifs
  · exact h₂
  · exact h₁

end Raises

end Orders

/-! ## Insertion sort -/

section Insertion

variable (lt : α → α → Except ε Bool)

def insertSorted (x : α) : List α → Except ε (List α)
  | [] => .ok [x]
  | y :: l => do
    if ← lt x y then return x :: y :: l
    else
      let out ← insertSorted x l
      return y :: out

def sorted : List α → Except ε (List α)
  | [] => .ok []
  | x :: l => do
    let out ← sorted l
    insertSorted lt x out

variable {lt} {x : α} {l l' out out' : List α}

theorem insertSorted_cons {y : α} :
    insertSorted lt x (y :: l) = .ok out ↔ (lt x y = .ok true ∧ out = x :: y :: l) ∨
      (lt x y = .ok false ∧ ∃ rest, insertSorted lt x l = .ok rest ∧ out = y :: rest) := by
  rw [insertSorted, bind_eq_ok]
  constructor
  · rintro ⟨c, hc, h⟩
    cases c with
    | true =>
        cases h
        exact .inl ⟨hc, rfl⟩
    | false =>
        obtain ⟨rest, hrest, h⟩ := bind_eq_ok.mp h
        cases h
        exact .inr ⟨hc, rest, hrest, rfl⟩
  · rintro (⟨hc, rfl⟩ | ⟨hc, rest, hrest, rfl⟩)
    · exact ⟨true, hc, rfl⟩
    · exact ⟨false, hc, bind_eq_ok.mpr ⟨rest, hrest, rfl⟩⟩

theorem insertSorted_perm (h : insertSorted lt x l = .ok out) : out.Perm (x :: l) := by
  induction l generalizing out with
  | nil =>
      cases h
      exact .refl _
  | cons y l ih =>
      rcases insertSorted_cons.mp h with ⟨-, rfl⟩ | ⟨-, rest, hrest, rfl⟩
      · exact .refl _
      · exact ((ih hrest).cons y).trans (List.Perm.swap x y l)

theorem sorted_perm (h : sorted lt l = .ok out) : out.Perm l := by
  induction l generalizing out with
  | nil =>
      cases h
      exact .refl _
  | cons x l ih =>
      obtain ⟨out₀, hout, h⟩ := bind_eq_ok.mp h
      exact (insertSorted_perm h).trans ((ih hout).cons x)

/-- A sort raises only what its comparison raises. -/
theorem outcome_sorted {E : ε → Prop} (hE : ∀ a b, Outcome (lt a b) (fun _ => True) E)
    (l : List α) : Outcome (sorted lt l) (fun _ => True) E := by
  have hinsert : ∀ x l, Outcome (insertSorted lt x l) (fun _ => True) E := by
    intro x l
    induction l with
    | nil => trivial
    | cons y l ih =>
        refine (hE x y).bind fun c _ => ?_
        cases c with
        | true => trivial
        | false => exact ih.bind fun _ _ => trivial
  induction l with
  | nil => trivial
  | cons x l ih => exact ih.bind fun out _ => hinsert x out

section Order

variable (hlt : StrictLt lt)

include hlt

theorem insertSorted_pairwise (hx : x ∉ l) (hl : l.Pairwise (lt · · = .ok true))
    (h : insertSorted lt x l = .ok out) : out.Pairwise (lt · · = .ok true) := by
  induction l generalizing out with
  | nil =>
      cases h
      exact List.pairwise_singleton _ _
  | cons y l ih =>
      obtain ⟨hy, hl'⟩ := List.pairwise_cons.mp hl
      rcases insertSorted_cons.mp h with ⟨hxy, rfl⟩ | ⟨hxy, rest, hrest, rfl⟩
      · refine List.pairwise_cons.mpr ⟨fun z hz => ?_, hl⟩
        rcases List.mem_cons.mp hz with rfl | hz
        · exact hxy
        · exact hlt.trans _ _ _ hxy (hy z hz)
      · rw [List.mem_cons, not_or] at hx
        refine List.pairwise_cons.mpr ⟨fun z hz => ?_, ih hx.2 hl' hrest⟩
        rcases List.mem_cons.mp ((insertSorted_perm hrest).mem_iff.mp hz) with rfl | hz
        · exact (hlt.connected _ _ hxy).resolve_left hx.1
        · exact hy z hz

/-- An entry that gets inserted was compared with every entry, or is known to be less. -/
theorem insertSorted_succeeds (hl : l.Pairwise (lt · · = .ok true)) :
    (∃ out, insertSorted lt x l = .ok out) ↔ ∀ y ∈ l, Comparable lt x y := by
  induction l with
  | nil => simp [insertSorted]
  | cons y l ih =>
      obtain ⟨hy, hl'⟩ := List.pairwise_cons.mp hl
      constructor
      · rintro ⟨out, h⟩ z hz
        rcases insertSorted_cons.mp h with ⟨hxy, -⟩ | ⟨hxy, rest, hrest, -⟩
        · rcases List.mem_cons.mp hz with rfl | hz
          · exact ⟨true, hxy⟩
          · exact ⟨true, hlt.trans _ _ _ hxy (hy z hz)⟩
        · rcases List.mem_cons.mp hz with rfl | hz
          · exact ⟨false, hxy⟩
          · exact (ih hl').mp ⟨rest, hrest⟩ z hz
      · intro h
        obtain ⟨c, hc⟩ := h y List.mem_cons_self
        cases c with
        | true => exact ⟨_, insertSorted_cons.mpr (.inl ⟨hc, rfl⟩)⟩
        | false =>
            obtain ⟨rest, hrest⟩ := (ih hl').mpr fun z hz => h z (List.mem_cons_of_mem _ hz)
            exact ⟨_, insertSorted_cons.mpr (.inr ⟨hc, rest, hrest, rfl⟩)⟩

theorem comparable_symm {a b : α} (h : Comparable lt a b) : Comparable lt b a := by
  obtain ⟨c, hc⟩ := h
  cases c with
  | true => exact ⟨false, hlt.asymm a b hc⟩
  | false =>
      rcases hlt.connected a b hc with rfl | hba
      · exact ⟨false, hc⟩
      · exact ⟨true, hba⟩

theorem sorted_pairwise (hnodup : l.Nodup) (h : sorted lt l = .ok out) :
    out.Pairwise (lt · · = .ok true) := by
  induction l generalizing out with
  | nil =>
      cases h
      exact .nil
  | cons x l ih =>
      obtain ⟨hx, hnodup⟩ := List.nodup_cons.mp hnodup
      obtain ⟨out₀, hout, h⟩ := bind_eq_ok.mp h
      refine insertSorted_pairwise hlt ?_ (ih hnodup hout) h
      rwa [(sorted_perm hout).mem_iff]

/-- A sort gets through exactly when its entries are comparable. -/
theorem sorted_succeeds (hnodup : l.Nodup) :
    (∃ out, sorted lt l = .ok out) ↔ ∀ a ∈ l, ∀ b ∈ l, Comparable lt a b := by
  induction l with
  | nil => simp [sorted]
  | cons x l ih =>
      obtain ⟨hx, hnodup⟩ := List.nodup_cons.mp hnodup
      have hself : Comparable lt x x := ⟨false, hlt.irrefl x⟩
      constructor
      · rintro ⟨out, h⟩
        obtain ⟨out₀, hout, h⟩ := bind_eq_ok.mp h
        have hrest := (ih hnodup).mp ⟨out₀, hout⟩
        have hnew : ∀ y ∈ l, Comparable lt x y := by
          intro y hy
          refine (insertSorted_succeeds hlt (sorted_pairwise hlt hnodup hout)).mp ⟨out, h⟩ y ?_
          rwa [(sorted_perm hout).mem_iff]
        rw [List.forall_mem_cons]
        refine ⟨List.forall_mem_cons.mpr ⟨hself, hnew⟩, fun a ha => ?_⟩
        exact List.forall_mem_cons.mpr ⟨comparable_symm hlt (hnew a ha), hrest a ha⟩
      · intro h
        obtain ⟨out₀, hout⟩ := (ih hnodup).mpr fun a ha b hb =>
          h a (List.mem_cons_of_mem _ ha) b (List.mem_cons_of_mem _ hb)
        have hnew : ∀ y ∈ out₀, Comparable lt x y := by
          intro y hy
          rw [(sorted_perm hout).mem_iff] at hy
          exact h x List.mem_cons_self y (List.mem_cons_of_mem _ hy)
        obtain ⟨out, h⟩ := (insertSorted_succeeds hlt (sorted_pairwise hlt hnodup hout)).mpr hnew
        exact ⟨out, bind_eq_ok.mpr ⟨out₀, hout, h⟩⟩

/-- A sort of distinct entries does not depend on the order in which they come. -/
theorem sorted_of_perm (hnodup : l.Nodup) (hperm : l'.Perm l) (h : sorted lt l = .ok out) :
    sorted lt l' = .ok out := by
  have hnodup' := hperm.nodup_iff.mpr hnodup
  have hcomp := (sorted_succeeds hlt hnodup).mp ⟨out, h⟩
  obtain ⟨out', h'⟩ := (sorted_succeeds hlt hnodup').mpr fun a ha b hb =>
    hcomp a (hperm.mem_iff.mp ha) b (hperm.mem_iff.mp hb)
  have hsame : out'.Perm out := (sorted_perm h').trans (hperm.trans (sorted_perm h).symm)
  have heq : out' = out := by
    refine hsame.eq_of_pairwise (fun a b _ _ hab hba => ?_) (sorted_pairwise hlt hnodup' h')
      (sorted_pairwise hlt hnodup h)
    rw [hlt.asymm a b hab] at hba
    cases hba
  rw [h', heq]

end Order

end Insertion

end GhgTool
