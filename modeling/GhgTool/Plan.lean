import Mathlib.Algebra.BigOperators.Group.List.Basic
import GhgTool.Loop

/-!
# Programs that build a list, read as the list of what they build

`Plan build x ready args` says of a computation `x` that ends in a list: it succeeds exactly when
`ready` holds and every entry of `args` can be built, and then its result is `args` built entry by
entry. Two runs are compared by comparing their plans, so no result about runs has to look at the
order in which they may fail.
-/

universe u

namespace GhgTool

variable {ε ι α β γ : Type u}

structure Plan (build : γ → Except ε β) (x : Except ε (List β)) (ready : Prop) (args : List γ) :
    Prop where
  succeeds : (∃ bs, x = .ok bs) ↔ ready ∧ ∀ a ∈ args, ∃ b, build a = .ok b
  builds : ∀ bs, x = .ok bs → List.Forall₂ (fun a b => build a = .ok b) args bs

section Rules

variable {build : γ → Except ε β} {x y : Except ε (List β)} {R R' : Prop} {args args' : List γ}

theorem Plan.congr (h : Plan build x R args) (hR : R ↔ R') : Plan build x R' args :=
  ⟨by rw [h.succeeds, hR], h.builds⟩

theorem Plan.congr_args (h : Plan build x R args) (hargs : args = args') :
    Plan build x R args' :=
  hargs ▸ h

theorem plan_nil : Plan build (.ok []) True [] where
  succeeds := ⟨fun _ => ⟨trivial, by simp⟩, fun _ => ⟨[], rfl⟩⟩
  builds := by
    intro bs h
    cases h
    exact .nil

theorem plan_error (e : ε) : Plan build (.error e) False args :=
  ⟨by simp, fun bs h => by cases h⟩

theorem plan_singleton (a : γ) :
    Plan build (do let b ← build a; return [b]) True [a] where
  succeeds := by
    constructor
    · rintro ⟨bs, h⟩
      obtain ⟨b, hb, -⟩ := bind_eq_ok.mp h
      exact ⟨trivial, by simpa using ⟨b, hb⟩⟩
    · rintro ⟨-, h⟩
      obtain ⟨b, hb⟩ := h a (by simp)
      exact ⟨[b], bind_eq_ok.mpr ⟨b, hb, rfl⟩⟩
  builds := by
    intro bs h
    obtain ⟨b, hb, hbs⟩ := bind_eq_ok.mp h
    cases hbs
    exact .cons hb .nil

theorem Plan.append (hx : Plan build x R args) (hy : Plan build y R' args') :
    Plan build (do let bs ← x; let rest ← y; return bs ++ rest) (R ∧ R') (args ++ args') where
  succeeds := by
    constructor
    · rintro ⟨out, h⟩
      obtain ⟨bs, hbs, h⟩ := bind_eq_ok.mp h
      obtain ⟨rest, hrest, -⟩ := bind_eq_ok.mp h
      obtain ⟨hR, hargs⟩ := hx.succeeds.mp ⟨bs, hbs⟩
      obtain ⟨hR', hargs'⟩ := hy.succeeds.mp ⟨rest, hrest⟩
      refine ⟨⟨hR, hR'⟩, fun a ha => ?_⟩
      rcases List.mem_append.mp ha with ha | ha
      · exact hargs a ha
      · exact hargs' a ha
    · rintro ⟨⟨hR, hR'⟩, h⟩
      obtain ⟨bs, hbs⟩ := hx.succeeds.mpr ⟨hR, fun a ha => h a (List.mem_append_left _ ha)⟩
      obtain ⟨rest, hrest⟩ := hy.succeeds.mpr ⟨hR', fun a ha => h a (List.mem_append_right _ ha)⟩
      exact ⟨bs ++ rest, bind_eq_ok.mpr ⟨bs, hbs, bind_eq_ok.mpr ⟨rest, hrest, rfl⟩⟩⟩
  builds := by
    intro out h
    obtain ⟨bs, hbs, h⟩ := bind_eq_ok.mp h
    obtain ⟨rest, hrest, h⟩ := bind_eq_ok.mp h
    cases h
    exact List.rel_append (hx.builds bs hbs) (hy.builds rest hrest)

/-- The loop rule. -/
theorem plan_collect {f : ι → Except ε (List β)} {ready : ι → Prop} {g : ι → List γ}
    {is : List ι} (hf : ∀ i ∈ is, Plan build (f i) (ready i) (g i)) :
    Plan build (collect f is) (∀ i ∈ is, ready i) (is.flatMap g) := by
  induction is with
  | nil => exact plan_nil.congr (by simp)
  | cons i is ih =>
      have hrest := ih fun j hj => hf j (by simp [hj])
      exact ((hf i (by simp)).append hrest).congr (by simp)

theorem plan_collect_always {f : ι → Except ε (List β)} {g : ι → List γ} {is : List ι}
    (hf : ∀ i ∈ is, Plan build (f i) True (g i)) :
    Plan build (collect f is) True (is.flatMap g) :=
  (plan_collect hf).congr (by simp)

/-- The rule for a turn that may be skipped. -/
theorem Plan.unless {c : Prop} [Decidable c] (hx : Plan build x True args) :
    Plan build (if c then x else .ok []) True (if c then args else []) := by
  by_cases h : c
  · rw [if_pos h, if_pos h]
    exact hx
  · rw [if_neg h, if_neg h]
    exact plan_nil

/-- The rule for a step that can only end in `c`. -/
theorem Plan.bind {z : Except ε α} {k : α → Except ε (List β)} {c : α}
    (hz : (∃ a, z = .ok a) ↔ R') (hc : ∀ a, z = .ok a → a = c) (hk : Plan build (k c) R args) :
    Plan build (z >>= k) (R' ∧ R) args where
  succeeds := by
    constructor
    · rintro ⟨bs, h⟩
      obtain ⟨a, ha, hka⟩ := bind_eq_ok.mp h
      rw [hc a ha] at hka
      obtain ⟨hR, hargs⟩ := hk.succeeds.mp ⟨bs, hka⟩
      exact ⟨⟨hz.mp ⟨a, ha⟩, hR⟩, hargs⟩
    · rintro ⟨⟨hR', hR⟩, hargs⟩
      obtain ⟨a, ha⟩ := hz.mpr hR'
      obtain ⟨bs, hbs⟩ := hk.succeeds.mpr ⟨hR, hargs⟩
      exact ⟨bs, bind_eq_ok.mpr ⟨a, ha, by rw [hc a ha, hbs]⟩⟩
  builds := by
    intro bs h
    obtain ⟨a, ha, hka⟩ := bind_eq_ok.mp h
    rw [hc a ha] at hka
    exact hk.builds bs hka

/-- The rule for a final check that what was built always passes. -/
theorem Plan.verified {z : List β → Except ε α} (hx : Plan build x R args)
    (hz : ∀ bs, List.Forall₂ (fun a b => build a = .ok b) args bs → ∃ c, z bs = .ok c) :
    Plan build (do let bs ← x; let _ ← z bs; return bs) R args where
  succeeds := by
    rw [← hx.succeeds]
    constructor
    · rintro ⟨out, h⟩
      obtain ⟨bs, hbs, -⟩ := bind_eq_ok.mp h
      exact ⟨bs, hbs⟩
    · rintro ⟨bs, hbs⟩
      obtain ⟨c, hc⟩ := hz bs (hx.builds bs hbs)
      exact ⟨bs, bind_eq_ok.mpr ⟨bs, hbs, bind_eq_ok.mpr ⟨c, hc, rfl⟩⟩⟩
  builds := by
    intro out h
    obtain ⟨bs, hbs, h⟩ := bind_eq_ok.mp h
    obtain ⟨c, -, h⟩ := bind_eq_ok.mp h
    cases h
    exact hx.builds _ hbs

/-- A block of a program that runs its blocks one after the other. -/
theorem Plan.cons {xs : List (Except ε (List β))} (hx : Plan build x R args)
    (hxs : Plan build (collect id xs) R' args') :
    Plan build (collect id (x :: xs)) (R ∧ R') (args ++ args') :=
  hx.append hxs

end Rules

/-- A list of blocks, of which one is kept. -/
theorem flatMap_ite_eq [DecidableEq α] (f : α → List β) {l : List α} {u : α}
    (hnodup : l.Nodup) (hmem : u ∈ l) :
    (l.flatMap fun v => if v = u then f v else []) = f u := by
  induction l with
  | nil => cases hmem
  | cons v l ih =>
      obtain ⟨hv, hnodup⟩ := List.nodup_cons.mp hnodup
      rw [List.flatMap_cons]
      by_cases h : v = u
      · subst h
        have hrest : (l.flatMap fun w => if w = v then f w else []) = [] := by
          rw [List.flatMap_eq_nil_iff]
          intro w hw
          refine if_neg ?_
          rintro rfl
          exact hv hw
        rw [if_pos rfl, hrest, List.append_nil]
      · have hrest := ih hnodup ((List.mem_cons.mp hmem).resolve_left fun huv => h huv.symm)
        rw [if_neg h, List.nil_append, hrest]

theorem forall₂_flatMap {R : α → β → Prop} {f : ι → List α} {g : ι → List β} {is : List ι}
    (h : ∀ i ∈ is, List.Forall₂ R (f i) (g i)) :
    List.Forall₂ R (is.flatMap f) (is.flatMap g) := by
  induction is with
  | nil => exact .nil
  | cons i is ih =>
      rw [List.flatMap_cons, List.flatMap_cons]
      exact List.rel_append (h i (by simp)) (ih fun j hj => h j (by simp [hj]))

theorem forall₂_map {R : α → β → Prop} {f : ι → α} {g : ι → β} {is : List ι}
    (h : ∀ i ∈ is, R (f i) (g i)) : List.Forall₂ R (is.map f) (is.map g) := by
  rw [List.forall₂_map_left_iff, List.forall₂_map_right_iff, List.forall₂_same]
  exact h

section Compare

variable {build : γ → Except ε β}

/-- What a plan built shows of the plan. -/
theorem map_of_built {p : β → α} {q : γ → α} (hp : ∀ a b, build a = .ok b → p b = q a)
    {args : List γ} {bs : List β} (h : List.Forall₂ (fun a b => build a = .ok b) args bs) :
    bs.map p = args.map q := by
  induction h with
  | nil => rfl
  | cons hb _ ih => rw [List.map_cons, List.map_cons, ih, hp _ _ hb]

/-- What is in a built list. -/
theorem mem_built {args : List γ} {bs : List β} {b : β}
    (h : List.Forall₂ (fun a b => build a = .ok b) args bs) :
    b ∈ bs ↔ ∃ a ∈ args, build a = .ok b := by
  induction h with
  | nil => simp
  | @cons a c _ _ hc _ ih =>
      have hhead : b = c ↔ build a = .ok b := by
        rw [hc, Except.ok.injEq, eq_comm]
      simp [ih, hhead]

/-- Plans that are permutations of each other build permutations of each other. -/
theorem perm_of_built {args args' : List γ} {bs bs' : List β} (hperm : args'.Perm args)
    (h : List.Forall₂ (fun a b => build a = .ok b) args bs)
    (h' : List.Forall₂ (fun a b => build a = .ok b) args' bs') : bs'.Perm bs := by
  obtain ⟨cs, hcs, hp⟩ := List.perm_comp_forall₂ hperm h
  have huniq : Relator.RightUnique fun (a : γ) (b : β) => build a = .ok b := by
    intro a b c hb hc
    rw [hb] at hc
    cases hc
    rfl
  rw [List.right_unique_forall₂' huniq h' hcs]
  exact hp

/-- Entries related in two plans are built into related entries. -/
theorem related_of_built {build' : γ → Except ε β} {S : γ → γ → Prop} {T : β → β → Prop}
    (hT : ∀ a a' b b', S a a' → build a = .ok b → build' a' = .ok b' → T b b')
    {args args' : List γ} {bs bs' : List β} (hS : List.Forall₂ S args args')
    (h : List.Forall₂ (fun a b => build a = .ok b) args bs)
    (h' : List.Forall₂ (fun a b => build' a = .ok b) args' bs') : List.Forall₂ T bs bs' := by
  induction hS generalizing bs bs' with
  | nil =>
      cases h
      cases h'
      exact .nil
  | cons hs _ ih =>
      cases h with
      | cons hb htail =>
          cases h' with
          | cons hb' htail' => exact .cons (hT _ _ _ _ hs hb hb') (ih htail htail')

end Compare

end GhgTool
