import Mathlib.Data.List.Infix
import Mathlib.Tactic.TypeStar

/-!
# Runs of a step function

A run applies its events one after another. `Along step C s es` says that the condition `C` holds
of every event of the run in the state it meets; what one step preserves or establishes under
the condition then holds along the whole run.
-/

namespace GhgTool

variable {σ ε : Type*} {step : σ → ε → σ} {I : σ → Prop} {C D : σ → ε → Prop}

def run (step : σ → ε → σ) (s : σ) (es : List ε) : σ :=
  es.foldl step s

def Along (step : σ → ε → σ) (C : σ → ε → Prop) : σ → List ε → Prop
  | _, [] => True
  | s, e :: es => C s e ∧ Along step C (step s e) es

instance decidableAlong [∀ s e, Decidable (C s e)] : ∀ s es, Decidable (Along step C s es)
  | _, [] => inferInstanceAs (Decidable True)
  | s, e :: es =>
      have := decidableAlong (step s e) es
      inferInstanceAs (Decidable (C s e ∧ Along step C (step s e) es))

theorem run_nil (s : σ) : run step s [] = s :=
  rfl

theorem run_cons (s : σ) (e : ε) (es : List ε) :
    run step s (e :: es) = run step (step s e) es :=
  rfl

theorem run_append (s : σ) (as bs : List ε) :
    run step s (as ++ bs) = run step (run step s as) bs :=
  List.foldl_append

/-- The invariant rule: a property kept by every step that meets the condition holds at the end of
every run whose steps meet it. -/
theorem Along.run_invariant {s : σ} {es : List ε} (hC : Along step C s es) (hs : I s)
    (hstep : ∀ s e, I s → C s e → I (step s e)) : I (run step s es) := by
  induction es generalizing s with
  | nil => exact hs
  | cons e es ih => exact ih hC.2 (hstep s e hs hC.1)

/-- The step rule: what every step establishes under the invariant and the condition, every step
of the run establishes. -/
theorem Along.imp {s : σ} {es : List ε} (hC : Along step C s es) (hs : I s)
    (hstep : ∀ s e, I s → C s e → I (step s e)) (hD : ∀ s e, I s → C s e → D s e) :
    Along step D s es := by
  induction es generalizing s with
  | nil => trivial
  | cons e es ih => exact ⟨hD s e hs hC.1, ih hC.2 (hstep s e hs hC.1)⟩

/-- A condition that a kept property gives on every event of a kind holds along every run made of
such events. -/
theorem along_of_forall {P : ε → Prop} {s : σ} {es : List ε} (hs : I s) (hes : ∀ e ∈ es, P e)
    (hstep : ∀ s e, I s → P e → I (step s e)) (hC : ∀ s e, I s → P e → C s e) :
    Along step C s es := by
  induction es generalizing s with
  | nil => trivial
  | cons e es ih =>
      have he : P e := hes e (by simp)
      exact ⟨hC s e hs he, ih (hstep s e hs he) fun e' he' => hes e' (by simp [he'])⟩

/-- The rule for both directions: where a step meets the condition exactly when it keeps a property,
the steps of a run meet it exactly when the property holds in every state that the run reaches. -/
theorem along_iff_forall_initial {P : σ → Prop} {s : σ} {es : List ε} (hs : I s) (hP : P s)
    (hstep : ∀ s e, I s → I (step s e)) (hC : ∀ s e, I s → P s → (C s e ↔ P (step s e))) :
    Along step C s es ↔ ∀ pre, pre <+: es → P (run step s pre) := by
  induction es generalizing s with
  | nil =>
      refine iff_of_true trivial ?_
      intro pre hpre
      rw [List.prefix_nil.mp hpre]
      exact hP
  | cons e es ih =>
      constructor
      · intro h pre hpre
        cases pre with
        | nil => exact hP
        | cons e' pre =>
            obtain ⟨rfl, hrest⟩ := List.cons_prefix_cons.mp hpre
            have hnext := (hC s e' hs hP).mp h.1
            exact (ih (hstep s e' hs) hnext).mp h.2 pre hrest
      · intro h
        have hnext : P (step s e) := h [e] (List.cons_prefix_cons.mpr ⟨rfl, List.nil_prefix⟩)
        refine ⟨(hC s e hs hP).mpr hnext, (ih (hstep s e hs) hnext).mpr ?_⟩
        intro pre hpre
        exact h (e :: pre) (List.cons_prefix_cons.mpr ⟨rfl, hpre⟩)

/-- The unwinding rule. If the events outside `keep` do not change the view of a state, and those
inside act on the view as on a state, then the view of a run is the run of the kept events. -/
theorem Along.run_view {view : σ → σ} {keep : ε → Bool} {s : σ} {es : List ε}
    (hC : Along step C s es) (hs : I s) (hstep : ∀ s e, I s → C s e → I (step s e))
    (hskip : ∀ s e, I s → C s e → keep e = false → view (step s e) = view s)
    (hkeep : ∀ s e, I s → C s e → keep e = true → view (step s e) = step (view s) e) :
    view (run step s es) = run step (view s) (es.filter keep) := by
  induction es generalizing s with
  | nil => rfl
  | cons e es ih =>
      have hrest := ih hC.2 (hstep s e hs hC.1)
      rw [run_cons, hrest]
      cases h : keep e with
      | false => rw [List.filter_cons_of_neg (by simp [h]), hskip s e hs hC.1 h]
      | true => rw [List.filter_cons_of_pos h, run_cons, hkeep s e hs hC.1 h]

end GhgTool
