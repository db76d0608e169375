import Mathlib.Data.List.Infix
import Mathlib.Tactic.TypeStar

/-!
# Anchored patterns and first occurrences

A pattern is a sequence of items, each one character of a class or a run of at least one. It is
matched at the start of a text, the longest runs first, with backtracking. `replaceFirst` replaces
the first occurrence of a word in a text.
-/

namespace GhgTool

namespace Rewriting

variable {α : Type*}

/-! ## Patterns at the start of a text -/

inductive Item (α : Type*)
  | one (p : α → Bool)
  | many (p : α → Bool)

/-- What is left of a text after the match of a pattern. -/
def remainder : List (Item α) → List α → Option (List α)
  | [], s => some s
  | _ :: _, [] => none
  | .one p :: items, c :: s => if p c then remainder items s else none
  | .many p :: items, c :: s =>
    -- the run goes on where the rest of the pattern matches later, else it ends here
    if p c then (remainder (.many p :: items) s).or (remainder items s) else none

/-- The substitution of a pattern that is anchored at the start. -/
def substituteStart (items : List (Item α)) (new s : List α) : List α :=
  match remainder items s with
  | some rest => new ++ rest
  | none => s

def literal [DecidableEq α] (word : List α) : List (Item α) :=
  word.map fun c => .one fun c' => c' = c

theorem remainder_nil (s : List α) : remainder [] s = some s := by
  cases s <;> rfl

theorem remainder_many_of_not {p : α → Bool} {items : List (Item α)} {s : List α}
    (h : ∀ c ∈ s.head?, p c = false) : remainder (.many p :: items) s = none := by
  cases s with
  | nil => rfl
  | cons c s =>
    have hc : p c = false := h c rfl
    simp [remainder, hc]

theorem remainder_many {p : α → Bool} {items : List (Item α)} {run s rest : List α}
    (hne : run ≠ []) (hrun : ∀ c ∈ run, p c = true) (hs : ∀ c ∈ s.head?, p c = false)
    (hrest : remainder items s = some rest) :
    remainder (.many p :: items) (run ++ s) = some rest := by
  induction run with
  | nil => exact absurd rfl hne
  | cons c run ih =>
    have hc : p c = true := hrun c List.mem_cons_self
    have htail : ∀ c' ∈ run, p c' = true := fun c' h => hrun c' (List.mem_cons_of_mem c h)
    rw [List.cons_append, remainder, if_pos hc]
    by_cases hlast : run = []
    · rw [hlast, List.nil_append, remainder_many_of_not hs, hrest]
      rfl
    · rw [ih hlast htail]
      rfl

theorem not_prefix_append {word start : List α} (h : ¬ start <+: word) (h' : ¬ word <+: start)
    (s : List α) : ¬ word <+: start ++ s := by
  intro hfront
  rcases List.prefix_or_prefix_of_prefix hfront (List.prefix_append start s) with hword | hword
  · exact h' hword
  · exact h hword

variable [DecidableEq α]

theorem remainder_literal (word : List α) (items : List (Item α)) (s : List α) :
    remainder (literal word ++ items) (word ++ s) = remainder items s := by
  induction word with
  | nil => rfl
  | cons c word ih =>
    have hstep : literal (c :: word) ++ items =
        .one (fun c' => c' = c) :: (literal word ++ items) := rfl
    rw [hstep, List.cons_append, remainder, if_pos (decide_eq_true rfl), ih]

/-- Where the word does not stand the pattern does not match. -/
theorem remainder_literal_eq_none {word s : List α} (items : List (Item α))
    (h : ¬ word <+: s) : remainder (literal word ++ items) s = none := by
  induction word generalizing s with
  | nil => exact absurd List.nil_prefix h
  | cons c word ih =>
    have hstep : literal (c :: word) ++ items =
        .one (fun c' => c' = c) :: (literal word ++ items) := rfl
    rw [hstep]
    cases s with
    | nil => rfl
    | cons c' s =>
      rw [remainder]
      split_ifs with hc
      · have heq : c' = c := of_decide_eq_true hc
        apply ih
        intro hfront
        apply h
        rw [heq]
        exact List.cons_prefix_cons.mpr ⟨rfl, hfront⟩
      · rfl

/-! ## The first occurrence of a word -/

/-- The replacement of the first occurrence, if there is one. -/
def replaceFirst (old new : List α) : List α → List α
  | [] => if old <+: [] then new else []
  | c :: s =>
    if old <+: c :: s then new ++ (c :: s).drop old.length else c :: replaceFirst old new s

variable {old new : List α}

theorem replaceFirst_of_start {s : List α} (h : old <+: s) :
    replaceFirst old new s = new ++ s.drop old.length := by
  cases s with
  | nil => simp [replaceFirst, h]
  | cons c s => rw [replaceFirst, if_pos h]

theorem replaceFirst_append (s : List α) : replaceFirst old new (old ++ s) = new ++ s := by
  rw [replaceFirst_of_start (List.prefix_append old s), List.drop_left]

theorem replaceFirst_of_absent {s : List α} (h : ¬ old <:+: s) :
    replaceFirst old new s = s := by
  induction s with
  | nil =>
    have hstart : ¬ old <+: [] := fun hfront => h hfront.isInfix
    rw [replaceFirst, if_neg hstart]
  | cons c s ih =>
    have hstart : ¬ old <+: c :: s := fun hfront => h hfront.isInfix
    have htail : ¬ old <:+: s := fun hinside => h (List.infix_cons hinside)
    rw [replaceFirst, if_neg hstart, ih htail]

theorem length_replaceFirst {s : List α} (h : old <:+: s) :
    (replaceFirst old new s).length + old.length = s.length + new.length := by
  induction s with
  | nil =>
    have hnil : old = [] := List.infix_nil.mp h
    rw [hnil, replaceFirst, if_pos List.nil_prefix]
    simp
  | cons c s ih =>
    by_cases hstart : old <+: c :: s
    · have hle := hstart.length_le
      rw [replaceFirst_of_start hstart, List.length_append, List.length_drop]
      omega
    · have hinside : old <:+: s := (List.infix_cons_iff.mp h).resolve_left hstart
      have htail := ih hinside
      rw [replaceFirst, if_neg hstart, List.length_cons, List.length_cons]
      omega

/-- Where the lengths differ, a text without the word is the only one that stays. -/
theorem replaceFirst_eq_self_iff (hne : old.length ≠ new.length) {s : List α} :
    replaceFirst old new s = s ↔ ¬ old <:+: s := by
  constructor
  · intro heq hinside
    have hlength : (replaceFirst old new s).length + old.length = s.length + new.length :=
      length_replaceFirst hinside
    rw [heq] at hlength
    omega
  · exact replaceFirst_of_absent

/-- A start at no place of which the word can begin is copied. -/
theorem replaceFirst_append_of_skips {start : List α}
    (h : ∀ tail ∈ start.tails, tail ≠ [] → ¬ tail <+: old ∧ ¬ old <+: tail) (s : List α) :
    replaceFirst old new (start ++ s) = start ++ replaceFirst old new s := by
  induction start with
  | nil => rfl
  | cons c start ih =>
    have hself : c :: start ∈ (c :: start).tails := (List.mem_tails _ _).mpr (List.suffix_refl _)
    have hhere := h (c :: start) hself (List.cons_ne_nil c start)
    have hstart : ¬ old <+: c :: (start ++ s) := not_prefix_append hhere.1 hhere.2 s
    have htail : ∀ tail ∈ start.tails, tail ≠ [] → ¬ tail <+: old ∧ ¬ old <+: tail := by
      intro tail hmem
      apply h
      exact (List.mem_tails _ _).mpr
        (((List.mem_tails _ _).mp hmem).trans (List.suffix_cons c start))
    rw [List.cons_append, replaceFirst, if_neg hstart, ih htail, List.cons_append]

end Rewriting

end GhgTool
