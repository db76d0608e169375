import Mathlib.Data.List.Basic
import Mathlib.Tactic.TypeStar

/-!
# SQL's three-valued logic

A nullable value is an `Option`, and a truth value is a nullable `Bool`: `none` is unknown. `<>` is
unknown as soon as one side is `NULL`, `IS DISTINCT FROM` never is, and a branch is taken only
when its condition is true.
-/

namespace GhgTool

variable {α : Type*} [DecidableEq α]

/-- `a <> b`. -/
def sqlNe : Option α → Option α → Option Bool
  | some a, some b => some (decide (a ≠ b))
  | _, _ => none

/-- `a = b`. -/
def sqlEq : Option α → Option α → Option Bool
  | some a, some b => some (decide (a = b))
  | _, _ => none

/-- `a IS DISTINCT FROM b`. -/
def isDistinctFrom (a b : Option α) : Option Bool :=
  some (decide (a ≠ b))

def sqlOr : Option Bool → Option Bool → Option Bool
  | some true, _ => some true
  | _, some true => some true
  | some false, some false => some false
  | _, _ => none

def sqlAnd : Option Bool → Option Bool → Option Bool
  | some false, _ => some false
  | _, some false => some false
  | some true, some true => some true
  | _, _ => none

def sqlNot : Option Bool → Option Bool :=
  Option.map (!·)

/-- The condition of an `IF` or a `WHERE` holds. -/
def IsTrue (t : Option Bool) : Prop :=
  t = some true

instance (t : Option Bool) : Decidable (IsTrue t) :=
  inferInstanceAs (Decidable (t = some true))

/-- Both sides are known, and they differ. -/
def VisiblyDiffer (a b : Option α) : Prop :=
  a.isSome ∧ b.isSome ∧ a ≠ b

@[simp]
theorem isTrue_sqlOr (t u : Option Bool) : IsTrue (sqlOr t u) ↔ IsTrue t ∨ IsTrue u := by
  cases t with
  | none =>
      cases u with
      | none => decide
      | some u => cases u <;> decide
  | some t =>
      cases u with
      | none => cases t <;> decide
      | some u => cases t <;> cases u <;> decide

@[simp]
theorem isTrue_sqlAnd (t u : Option Bool) : IsTrue (sqlAnd t u) ↔ IsTrue t ∧ IsTrue u := by
  cases t with
  | none =>
      cases u with
      | none => decide
      | some u => cases u <;> decide
  | some t =>
      cases u with
      | none => cases t <;> decide
      | some u => cases t <;> cases u <;> decide

/-- `=` is true of two known values that agree, and of nothing else. -/
theorem isTrue_sqlEq (a b : Option α) : IsTrue (sqlEq a b) ↔ a = b ∧ a.isSome := by
  cases a <;> cases b <;> simp [sqlEq, IsTrue]

@[simp]
theorem isTrue_not_isDistinctFrom (a b : Option α) :
    IsTrue (sqlNot (isDistinctFrom a b)) ↔ a = b := by
  simp [isDistinctFrom, sqlNot, IsTrue]

@[simp]
theorem isTrue_sqlNe (a b : Option α) : IsTrue (sqlNe a b) ↔ VisiblyDiffer a b := by
  cases a <;> cases b <;> simp [sqlNe, IsTrue, VisiblyDiffer]

@[simp]
theorem isTrue_isDistinctFrom (a b : Option α) : IsTrue (isDistinctFrom a b) ↔ a ≠ b := by
  simp [isDistinctFrom, IsTrue]

/-- A disjunction is true exactly when one of its members is. -/
theorem isTrue_foldr_sqlOr (ts : List (Option Bool)) (u : Option Bool) :
    IsTrue (ts.foldr sqlOr u) ↔ (∃ t ∈ ts, IsTrue t) ∨ IsTrue u := by
  induction ts with
  | nil => simp
  | cons t ts ih =>
      rw [List.foldr_cons, isTrue_sqlOr, ih, List.exists_mem_cons_iff, or_assoc]

/-- What a comparison with `<>` leaves open: the sides agree, or one of them is `NULL`. -/
theorem not_visiblyDiffer_iff {a b : Option α} :
    ¬ VisiblyDiffer a b ↔ a = b ∨ a.isNone ≠ b.isNone := by
  cases a <;> cases b <;> simp [VisiblyDiffer]

end GhgTool
