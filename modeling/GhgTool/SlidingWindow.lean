import Mathlib.Algebra.Order.Group.Defs
import Mathlib.Data.List.Basic
import Mathlib.Data.List.Induction
import Mathlib.Logic.Function.Basic
import GhgTool.Runs

/-!
# Sliding windows

A machine answers each event of a run and moves on. The sliding window admits an event when fewer
than `limit` events have been admitted in the last `W` units of time. It is defined on the log of
all admitted times; a queue that forgets what has left the window gives the same answers as long
as time does not run backwards.
-/

namespace GhgTool

/-! ## Machines that answer -/

section Answers

variable {σ ε β κ : Type*} (step : σ → ε → β × σ)

/-- The events of a run, each with the answer it gets. -/
def answers : σ → List ε → List (ε × β)
  | _, [] => []
  | s, e :: es => (e, (step s e).1) :: answers (step s e).2 es

/-- The state in which a run ends. -/
abbrev afterAnswers (s : σ) (es : List ε) : σ :=
  run (fun s e => (step s e).2) s es

theorem answers_append (s : σ) (as bs : List ε) :
    answers step s (as ++ bs) = answers step s as ++ answers step (afterAnswers step s as) bs := by
  induction as generalizing s with
  | nil => rfl
  | cons a as ih =>
      simp only [List.cons_append, answers]
      rw [ih]
      rfl

theorem answers_snoc (s : σ) (es : List ε) (e : ε) :
    answers step s (es ++ [e]) =
      answers step s es ++ [(e, (step (afterAnswers step s es) e).1)] :=
  answers_append step s es [e]

theorem afterAnswers_snoc (s : σ) (es : List ε) (e : ε) :
    afterAnswers step s (es ++ [e]) = (step (afterAnswers step s es) e).2 := by
  unfold afterAnswers
  rw [run_append]
  rfl

theorem answers_map_fst (s : σ) (es : List ε) : (answers step s es).map Prod.fst = es := by
  induction es generalizing s with
  | nil => rfl
  | cons e es ih => simp [answers, ih]

theorem answers_take (s : σ) (es : List ε) (i : ℕ) :
    (answers step s es).take i = answers step s (es.take i) := by
  induction es generalizing s i with
  | nil => simp [answers]
  | cons e es ih =>
      cases i with
      | zero => rfl
      | succ i => simpa [answers] using ih (step s e).2 i

theorem answers_getElem? (s : σ) (es : List ε) (i : ℕ) :
    (answers step s es)[i]? =
      es[i]?.map fun e => (e, (step (afterAnswers step s (es.take i)) e).1) := by
  induction es generalizing s i with
  | nil => simp [answers]
  | cons e es ih =>
      cases i with
      | zero => rfl
      | succ i => simpa [answers, afterAnswers, run_cons] using ih (step s e).2 i

/-- One machine for every key; an event goes to the machine of its key. -/
def keyedStep [DecidableEq κ] (key : ε → κ) (s : κ → σ) (e : ε) : β × (κ → σ) :=
  ((step (s (key e)) e).1, Function.update s (key e) (step (s (key e)) e).2)

variable [DecidableEq κ] (key : ε → κ) (s : κ → σ) (es : List ε) (k : κ)

theorem keyedStep_of_ne {e : ε} (h : key e ≠ k) : (keyedStep step key s e).2 k = s k :=
  Function.update_of_ne h.symm _ _

theorem keyedStep_self (e : ε) :
    (keyedStep step key s e).2 (key e) = (step (s (key e)) e).2 :=
  Function.update_self _ _ _

/-- What the events of other keys do is not seen in the answers to the events of a key. -/
theorem answers_keyedStep :
    (answers (keyedStep step key) s es).filter (fun a => decide (key a.1 = k)) =
      answers step (s k) (es.filter fun e => decide (key e = k)) := by
  induction es generalizing s with
  | nil => rfl
  | cons e es ih =>
      have hrest := ih (keyedStep step key s e).2
      by_cases he : key e = k
      · rw [List.filter_cons_of_pos (by simpa using he), answers,
          List.filter_cons_of_pos (by simpa using he), hrest, answers]
        subst he
        rw [keyedStep_self]
        rfl
      · rw [List.filter_cons_of_neg (by simpa using he), answers,
          List.filter_cons_of_neg (by simpa using he), hrest, keyedStep_of_ne step key s k he]

/-- Two machines whose related states answer alike and stay related answer alike throughout. -/
theorem answers_eq_of_simulation {σ' : Type*} {step' : σ' → ε → β × σ'}
    {R : List ε → σ → σ' → Prop} {s : σ} {s' : σ'} (h₀ : R [] s s')
    {es : List ε}
    (hstep : ∀ past e t t', past ++ [e] <+: es → R past t t' →
      (step t e).1 = (step' t' e).1 ∧ R (past ++ [e]) (step t e).2 (step' t' e).2) :
    answers step s es = answers step' s' es ∧
      R es (afterAnswers step s es) (afterAnswers step' s' es) := by
  induction es using List.reverseRecOn with
  | nil => exact ⟨rfl, h₀⟩
  | append_singleton es e ih =>
      obtain ⟨hanswers, hrel⟩ := ih fun past e' t t' hpre =>
        hstep past e' t t' (hpre.trans (List.prefix_append es [e]))
      obtain ⟨hanswer, hnext⟩ := hstep es e _ _ (List.prefix_refl _) hrel
      refine ⟨?_, ?_⟩
      · rw [answers_snoc, answers_snoc, hanswers, hanswer]
      · rw [afterAnswers_snoc, afterAnswers_snoc]
        exact hnext

end Answers

/-! ## The log of admitted times -/

section Window

variable {τ : Type*}

/-- The times of the events that were admitted. -/
def admittedAt {ε : Type*} (time : ε → τ) (as : List (ε × Bool)) : List τ :=
  (as.filter (·.2)).map fun a => time a.1

theorem admittedAt_append {ε : Type*} (time : ε → τ) (as bs : List (ε × Bool)) :
    admittedAt time (as ++ bs) = admittedAt time as ++ admittedAt time bs := by
  simp [admittedAt]

variable [AddCommGroup τ] [LinearOrder τ] (W : τ) (limit : ℕ)

/-- The times of a log that still count at `now`. -/
def counted (now : τ) (log : List τ) : List τ :=
  log.filter fun t => decide (now - W ≤ t)

/-- The sliding window on the whole log. -/
def admitCall (log : List τ) (now : τ) : Bool × List τ :=
  if (counted W now log).length < limit then (true, log ++ [now]) else (false, log)

theorem counted_append (now : τ) (as bs : List τ) :
    counted W now (as ++ bs) = counted W now as ++ counted W now bs :=
  List.filter_append as bs

variable {ε : Type*} (time : ε → τ) (es : List ε)

/-- The window over events that have a time. -/
def admitEvent (log : List τ) (e : ε) : Bool × List τ :=
  admitCall W limit log (time e)

theorem afterAnswers_admitEvent :
    afterAnswers (admitEvent W limit time) [] es =
      admittedAt time (answers (admitEvent W limit time) [] es) := by
  induction es using List.reverseRecOn with
  | nil => rfl
  | append_singleton es e ih =>
      rw [afterAnswers_snoc, answers_snoc, admittedAt_append, ← ih]
      unfold admitEvent admitCall
      split <;> simp [admittedAt]

/-- The bound: of a set of times that lie within one window of each other, at most `limit` are
admitted. The last of them found the earlier ones still counted. -/
theorem admittedAt_filter_length_le {P : τ → Bool}
    (hP : ∀ s t, P s = true → P t = true → t - W ≤ s) :
    ((admittedAt time (answers (admitEvent W limit time) [] es)).filter P).length ≤ limit := by
  induction es using List.reverseRecOn with
  | nil => simp [answers, admittedAt]
  | append_singleton es e ih =>
      rw [answers_snoc, admittedAt_append, ← afterAnswers_admitEvent]
      rw [← afterAnswers_admitEvent] at ih
      generalize afterAnswers (admitEvent W limit time) [] es = log at ih ⊢
      unfold admitEvent admitCall
      by_cases hroom : (counted W (time e) log).length < limit
      · rw [if_pos hroom]
        by_cases he : P (time e) = true
        · have hsub : (log.filter P).length ≤ (counted W (time e) log).length := by
            apply List.Sublist.length_le
            apply List.monotone_filter_right
            intro t ht
            simpa using hP t (time e) ht he
          simp only [admittedAt, List.filter_append, List.length_append]
          simp [he]
          omega
        · simpa [admittedAt, he] using ih
      · simpa [admittedAt, if_neg hroom] using ih

/-- An event is refused exactly when the window ending at it holds `limit` admitted events. -/
theorem admitEvent_eq_false_iff (e : ε) :
    (admitEvent W limit time (afterAnswers (admitEvent W limit time) [] es) e).1 = false ↔
      limit ≤ (counted W (time e)
        (admittedAt time (answers (admitEvent W limit time) [] es))).length := by
  rw [afterAnswers_admitEvent]
  unfold admitEvent admitCall
  split <;> simp <;> omega

/-! ## The queue -/

/-- The queue less what has left the window, from the left. -/
def prune (now : τ) (queue : List τ) : List τ :=
  queue.dropWhile fun t => decide (t < now - W)

/-- The sliding window on a queue of times. -/
def admitPruned (queue : List τ) (now : τ) : Bool × List τ :=
  if limit ≤ (prune W now queue).length then (false, prune W now queue)
  else (true, prune W now queue ++ [now])

theorem prune_eq_counted {now : τ} {queue : List τ} (hsorted : queue.Pairwise (· ≤ ·)) :
    prune W now queue = counted W now queue := by
  induction queue with
  | nil => rfl
  | cons t queue ih =>
      obtain ⟨hle, hrest⟩ := List.pairwise_cons.mp hsorted
      by_cases ht : t < now - W
      · have hcons : ¬ now - W ≤ t := not_le.mpr ht
        simpa [prune, counted, ht, hcons] using ih hrest
      · have hall : ∀ u ∈ queue, now - W ≤ u := fun u hu => (not_lt.mp ht).trans (hle u hu)
        have hcounted : counted W now queue = queue := by
          apply List.filter_eq_self.mpr
          intro u hu
          simpa using hall u hu
        have hhead : now - W ≤ t := not_lt.mp ht
        rw [prune, List.dropWhile_cons_of_neg (by simpa using ht), counted,
          List.filter_cons_of_pos (by simpa using hhead)]
        exact congrArg (t :: ·) hcounted.symm

/-- A queue stands for a log from `now` on: it is in order, nothing in it lies ahead, and whatever
counts at a later time is in both. -/
structure StandsFor (now : τ) (queue log : List τ) : Prop where
  sorted : queue.Pairwise (· ≤ ·)
  past : ∀ t ∈ queue, t ≤ now
  counted_eq : ∀ later, now ≤ later → counted W later queue = counted W later log

variable {W} {now : τ} {queue log : List τ}

theorem StandsFor.mono (h : StandsFor W now queue log) {next : τ} (hnext : now ≤ next) :
    StandsFor W next queue log :=
  ⟨h.sorted, fun t ht => (h.past t ht).trans hnext,
    fun later hlater => h.counted_eq later (hnext.trans hlater)⟩

variable [IsOrderedAddMonoid τ]

theorem counted_counted {later : τ} (h : now ≤ later) :
    counted W later (counted W now queue) = counted W later queue := by
  unfold counted
  rw [List.filter_filter]
  apply List.filter_congr
  intro t _
  have hle : now - W ≤ later - W := sub_le_sub_right h W
  by_cases ht : later - W ≤ t
  · simp [ht, hle.trans ht]
  · simp [ht]

theorem StandsFor.pruned (h : StandsFor W now queue log) {next : τ} (hnext : now ≤ next) :
    StandsFor W next (prune W next queue) log ∧
      (prune W next queue).length = (counted W next log).length := by
  have hprune : prune W next queue = counted W next queue := prune_eq_counted W h.sorted
  refine ⟨⟨?_, ?_, ?_⟩, ?_⟩
  · exact h.sorted.sublist (List.dropWhile_sublist _)
  · intro t ht
    exact (h.past t ((List.dropWhile_sublist _).subset ht)).trans hnext
  · intro later hlater
    rw [hprune, counted_counted hlater]
    exact h.counted_eq later (hnext.trans hlater)
  · rw [hprune, h.counted_eq next hnext]

/-- One event: the queue answers as the log does, and stands for the new log. -/
theorem StandsFor.step (h : StandsFor W now queue log) {next : τ} (hnext : now ≤ next) :
    (admitPruned W limit queue next).1 = (admitCall W limit log next).1 ∧
      StandsFor W next (admitPruned W limit queue next).2 (admitCall W limit log next).2 := by
  obtain ⟨hstands, hlength⟩ := h.pruned hnext
  unfold admitPruned admitCall
  rw [hlength]
  by_cases hfull : limit ≤ (counted W next log).length
  · rw [if_pos hfull, if_neg (not_lt.mpr hfull)]
    exact ⟨rfl, hstands⟩
  · rw [if_neg hfull, if_pos (not_le.mp hfull)]
    refine ⟨rfl, ?_, ?_, ?_⟩
    · refine List.pairwise_append.mpr ⟨hstands.sorted, List.pairwise_singleton _ _, ?_⟩
      intro t ht u hu
      rw [List.mem_singleton.mp hu]
      exact hstands.past t ht
    · intro t ht
      rcases List.mem_append.mp ht with ht | ht
      · exact hstands.past t ht
      · exact (List.mem_singleton.mp ht).le
    · intro later hlater
      rw [counted_append, counted_append, hstands.counted_eq later hlater]

/-- Over events in order of time the queue gives the answers of the log. -/
theorem answers_admitPruned {ε : Type*} (time : ε → τ) {es : List ε}
    (hes : es.Pairwise fun a b => time a ≤ time b) :
    answers (fun queue e => admitPruned W limit queue (time e)) [] es =
      answers (admitEvent W limit time) [] es := by
  refine (answers_eq_of_simulation
    (R := fun past queue log => ∀ now, (∀ e ∈ past, time e ≤ now) → StandsFor W now queue log)
    _ ?_ ?_).1
  · intro now _
    exact ⟨List.Pairwise.nil, by simp, fun _ _ => rfl⟩
  · intro past e queue log hpre hstands
    have hpast : ∀ e' ∈ past, time e' ≤ time e := by
      intro e' he'
      exact (List.pairwise_append.mp (hes.sublist hpre.sublist)).2.2 e' he' e (by simp)
    obtain ⟨hanswer, hnext⟩ := (hstands (time e) hpast).step limit le_rfl
    exact ⟨hanswer, fun now hnow => hnext.mono (hnow e (by simp))⟩

end Window

end GhgTool
