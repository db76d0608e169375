import Mathlib.Data.List.Flatten
import Mathlib.Data.List.Forall2

/-!
# Computations that may raise, and loops over them

`Outcome x P E` says what a computation can end in: a returned value satisfies `P`, a raised
error satisfies `E`. The rules below follow the shape of the program: one for `>>=`, one for the
loop `collect f`, which is `for a in as: out.extend(f(a))` ended by the first error.
-/

universe u

namespace GhgTool

variable {ε : Type*} {α β γ : Type u}

theorem bind_eq_ok {x : Except ε α} {f : α → Except ε β} {b : β} :
    x >>= f = .ok b ↔ ∃ a, x = .ok a ∧ f a = .ok b := by
  cases x with
  | error e => simp [bind, Except.bind]
  | ok a => simp [bind, Except.bind]

theorem exists_bind_ok {x : Except ε α} {f : α → Except ε β} {a : α} (hx : x = .ok a)
    (hf : ∃ b, f a = .ok b) : ∃ b, x >>= f = .ok b := by
  obtain ⟨b, hb⟩ := hf
  exact ⟨b, bind_eq_ok.mpr ⟨a, hx, hb⟩⟩

theorem toOption_eq_some_iff {ε α : Type*} {x : Except ε α} {a : α} :
    x.toOption = some a ↔ x = .ok a := by
  cases x <;> simp [Except.toOption]

theorem map_eq_ok {α β : Type*} {x : Except ε α} {f : α → β} {b : β} :
    x.map f = .ok b ↔ ∃ a, x = .ok a ∧ f a = b := by
  cases x with
  | error e => simp [Except.map]
  | ok a => simp [Except.map]

theorem exists_ok_of_toBool {x : Except ε α} (h : x.toBool = true) : ∃ a, x = .ok a := by
  cases x with
  | error e => cases h
  | ok a => exact ⟨a, rfl⟩

theorem eq_error_of_map {x : Except ε α} {f : α → β} {e : ε} (h : x.map f = .error e) :
    x = .error e := by
  cases x with
  | error e' => cases h; rfl
  | ok a => cases h

theorem mapM_eq_some {α β : Type} {f : α → Option β} {as : List α} {bs : List β} :
    as.mapM f = some bs ↔ List.Forall₂ (fun a b => f a = some b) as bs := by
  induction as generalizing bs with
  | nil =>
      rw [List.mapM_nil, List.forall₂_nil_left_iff]
      exact ⟨fun h => (Option.some.inj h).symm, fun h => congrArg some h.symm⟩
  | cons a as ih =>
      rw [List.mapM_cons, List.forall₂_cons_left_iff]
      constructor
      · intro h
        obtain ⟨b, hb, h⟩ := Option.bind_eq_some_iff.mp h
        obtain ⟨bs, hbs, h⟩ := Option.bind_eq_some_iff.mp h
        cases h
        exact ⟨b, bs, hb, ih.mp hbs, rfl⟩
      · rintro ⟨b, bs, hb, hbs, rfl⟩
        rw [hb, ih.mpr hbs]
        rfl

theorem exists_of_mem_mapM {α β : Type} {f : α → Option β} {as : List α} {bs : List β}
    (h : as.mapM f = some bs) {b : β} (hb : b ∈ bs) : ∃ a ∈ as, f a = some b := by
  have hall := mapM_eq_some.mp h
  clear h
  induction hall with
  | nil => cases hb
  | @cons a b' as _ hab _ ih =>
      rcases List.mem_cons.mp hb with rfl | hlater
      · exact ⟨a, by simp, hab⟩
      · obtain ⟨a', ha', hab'⟩ := ih hlater
        exact ⟨a', List.mem_cons_of_mem _ ha', hab'⟩

/-- What the body keeps of each entry, the loop keeps of the list. -/
theorem map_of_mapM {α β γ : Type} {f : α → Option β} {p : α → γ} {q : β → γ}
    (hf : ∀ a b, f a = some b → q b = p a) {as : List α} {bs : List β}
    (h : as.mapM f = some bs) : bs.map q = as.map p := by
  have hall := mapM_eq_some.mp h
  clear h
  induction hall with
  | nil => rfl
  | cons hab _ ih => rw [List.map_cons, List.map_cons, ih, hf _ _ hab]

theorem mapM_eq_ok {ε α β : Type} {g : α → Except ε β} {as : List α} {bs : List β} :
    as.mapM g = .ok bs ↔ List.Forall₂ (fun a b => g a = .ok b) as bs := by
  induction as generalizing bs with
  | nil =>
      rw [List.mapM_nil, List.forall₂_nil_left_iff]
      exact ⟨fun h => (Except.ok.inj h).symm, fun h => congrArg Except.ok h.symm⟩
  | cons a as ih =>
      rw [List.mapM_cons, List.forall₂_cons_left_iff]
      constructor
      · intro h
        obtain ⟨b, hb, h⟩ := bind_eq_ok.mp h
        obtain ⟨bs, hbs, h⟩ := bind_eq_ok.mp h
        cases h
        exact ⟨b, bs, hb, ih.mp hbs, rfl⟩
      · rintro ⟨b, bs, hb, hbs, rfl⟩
        rw [hb, ih.mpr hbs]
        rfl

theorem exists_mapM_ok {ε α β : Type} {g : α → Except ε β} {as : List α} :
    (∃ bs, as.mapM g = .ok bs) ↔ ∀ a ∈ as, ∃ b, g a = .ok b := by
  constructor
  · rintro ⟨bs, h⟩
    have hall := mapM_eq_ok.mp h
    clear h
    induction hall with
    | nil => exact fun _ ha => absurd ha List.not_mem_nil
    | @cons a b as _ hab _ ih =>
        intro a' ha'
        rcases List.mem_cons.mp ha' with rfl | hlater
        · exact ⟨b, hab⟩
        · exact ih a' hlater
  · intro h
    induction as with
    | nil => exact ⟨[], rfl⟩
    | cons a as ih =>
        obtain ⟨b, hb⟩ := h a (by simp)
        obtain ⟨bs, hbs⟩ := ih fun a' ha' => h a' (by simp [ha'])
        exact ⟨b :: bs, mapM_eq_ok.mpr (.cons hb (mapM_eq_ok.mp hbs))⟩

theorem mapM_ok_forall {ε α β : Type} {g : α → Except ε β} {Q : β → Prop} {xs : List α}
    (hg : ∀ a b, g a = .ok b → Q b) {ys : List β} (h : xs.mapM g = .ok ys) : ∀ b ∈ ys, Q b := by
  have hall := mapM_eq_ok.mp h
  clear h
  induction hall with
  | nil => simp
  | @cons a b as bs hab _ ih =>
      intro c hc
      rcases List.mem_cons.mp hc with rfl | hc
      · exact hg a c hab
      · exact ih c hc

def Outcome (x : Except ε α) (P : α → Prop) (E : ε → Prop) : Prop :=
  match x with
  | .ok a => P a
  | .error e => E e

namespace Outcome

variable {P : α → Prop} {Q : β → Prop} {E : ε → Prop}

theorem of_ok {x : Except ε α} {a : α} (h : Outcome x P E) (hx : x = .ok a) : P a := by
  subst hx
  exact h

theorem of_error {x : Except ε α} {e : ε} (h : Outcome x P E) (hx : x = .error e) : E e := by
  subst hx
  exact h

/-- The rule of consequence. -/
theorem mono {P' : α → Prop} {E' : ε → Prop} {x : Except ε α} (h : Outcome x P E)
    (hP : ∀ a, P a → P' a) (hE : ∀ e, E e → E' e) : Outcome x P' E' := by
  cases x with
  | ok a => exact hP a h
  | error e => exact hE e h

theorem bind {x : Except ε α} {f : α → Except ε β} (hx : Outcome x P E)
    (hf : ∀ a, P a → Outcome (f a) Q E) : Outcome (x >>= f) Q E := by
  cases x with
  | ok a => exact hf a hx
  | error e => exact hx

/-- The rule for a check that raises when it fails. -/
theorem dite {c : Prop} [Decidable c] {f : c → Except ε α} {e : ε}
    (hf : ∀ h : c, Outcome (f h) P E) (he : ¬ c → E e) :
    Outcome (if h : c then f h else .error e) P E := by
  by_cases h : c
  · rw [dif_pos h]
    exact hf h
  · rw [dif_neg h]
    exact he h

/-- A computation read off its own result. -/
theorem self (x : Except ε α) (hE : ∀ e, x = .error e → E e) :
    Outcome x (fun a => x = .ok a) E := by
  cases x with
  | ok a => rfl
  | error e => exact hE e rfl

theorem of_succeeds {x : Except ε α} (h : ∃ a, x = .ok a) : Outcome x (fun _ => True) E := by
  obtain ⟨a, rfl⟩ := h
  trivial

end Outcome

/-- A computation ends in a value satisfying `Q` exactly when `ready` holds, and such a value is
always seen as `amount`. -/
structure Yields (x : Except ε α) (Q : α → Prop) (view : α → γ) (ready : Prop) (amount : γ) :
    Prop where
  succeeds : (∃ a, x = .ok a ∧ Q a) ↔ ready
  value : ∀ a, x = .ok a → Q a → view a = amount

/-- The rule for a step that succeeds exactly under `R` and then gives an `S`. -/
theorem Yields.bind {x : Except ε α} {k : α → Except ε β} {Q : β → Prop} {view : β → γ}
    {R ready : Prop} {S : α → Prop} {amount : γ} (hx : (∃ a, x = .ok a) ↔ R)
    (hS : ∀ a, x = .ok a → S a) (hk : ∀ a, S a → Yields (k a) Q view ready amount) :
    Yields (x >>= k) Q view (R ∧ ready) amount where
  succeeds := by
    constructor
    · rintro ⟨b, hb, hQ⟩
      obtain ⟨a, ha, hka⟩ := bind_eq_ok.mp hb
      exact ⟨hx.mp ⟨a, ha⟩, (hk a (hS a ha)).succeeds.mp ⟨b, hka, hQ⟩⟩
    · rintro ⟨hR, hready⟩
      obtain ⟨a, ha⟩ := hx.mpr hR
      obtain ⟨b, hka, hQ⟩ := (hk a (hS a ha)).succeeds.mpr hready
      exact ⟨b, bind_eq_ok.mpr ⟨a, ha, hka⟩, hQ⟩
  value := by
    intro b hb hQ
    obtain ⟨a, ha, hka⟩ := bind_eq_ok.mp hb
    exact (hk a (hS a ha)).value b hka hQ

theorem Yields.congr {x : Except ε α} {Q : α → Prop} {view : α → γ} {ready ready' : Prop}
    {amount amount' : γ} (h : Yields x Q view ready amount) (hready : ready ↔ ready')
    (hamount : amount = amount') : Yields x Q view ready' amount' :=
  ⟨h.succeeds.trans hready, fun a ha hQ => (h.value a ha hQ).trans hamount⟩

theorem yields_ok {a : α} {Q : α → Prop} {view : α → γ} (hQ : Q a) :
    Yields (ε := ε) (.ok a) Q view True (view a) where
  succeeds := ⟨fun _ => trivial, fun _ => ⟨a, rfl, hQ⟩⟩
  value := by
    rintro a' ha' -
    cases ha'
    rfl

/-- A computation that ends in no value satisfying `Q` yields any amount. -/
theorem yields_none {x : Except ε α} {Q : α → Prop} {view : α → γ} {amount : γ}
    (h : ∀ a, x = .ok a → ¬ Q a) : Yields x Q view False amount where
  succeeds := ⟨fun ⟨a, ha, hQ⟩ => h a ha hQ, False.elim⟩
  value := fun a ha hQ => absurd hQ (h a ha)

/-- A loop whose turns never raise does not raise. -/
theorem foldlM_succeeds {f : β → α → Except ε β} (hf : ∀ b a, ∃ b', f b a = .ok b') (b : β)
    (as : List α) : ∃ b', as.foldlM f b = .ok b' := by
  induction as generalizing b with
  | nil => exact ⟨b, rfl⟩
  | cons a as ih =>
      obtain ⟨b₁, h₁⟩ := hf b a
      obtain ⟨b', h'⟩ := ih b₁
      exact ⟨b', by rw [List.foldlM_cons, bind_eq_ok]; exact ⟨b₁, h₁, h'⟩⟩

def collect (f : α → Except ε (List β)) : List α → Except ε (List β)
  | [] => .ok []
  | a :: as => do
    let bs ← f a
    let rest ← collect f as
    return bs ++ rest

theorem collect_singleton (f : α → Except ε (List β)) (a : α) : collect f [a] = f a := by
  cases h : f a with
  | error e => simp [collect, h, bind, Except.bind]
  | ok bs => simp [collect, h, bind, Except.bind, pure, Except.pure]

/-- A loop returns the concatenation of what its body returns on each entry alone. -/
theorem collect_eq_ok {f : α → Except ε (List β)} {as : List α} {bs : List β}
    (h : collect f as = .ok bs) :
    ∃ outs : List (List β), List.Forall₂ (fun a xs => f a = .ok xs) as outs ∧
      outs.flatten = bs := by
  induction as generalizing bs with
  | nil =>
      cases h
      exact ⟨[], .nil, rfl⟩
  | cons a as ih =>
      rw [collect, bind_eq_ok] at h
      obtain ⟨xs, hx, h⟩ := h
      rw [bind_eq_ok] at h
      obtain ⟨ys, hy, h⟩ := h
      cases h
      obtain ⟨outs, houts, rfl⟩ := ih hy
      exact ⟨xs :: outs, .cons hx houts, rfl⟩

/-- The list `xs` shows `bs` under the projection `p`, and each of its entries satisfies `S`. -/
def Shows (p : β → γ) (S : β → Prop) (bs : List γ) (xs : List β) : Prop :=
  xs.map p = bs ∧ ∀ x ∈ xs, S x

theorem shows_nil (p : β → γ) (S : β → Prop) : Shows p S [] [] :=
  ⟨rfl, by simp⟩

theorem shows_singleton {p : β → γ} {S : β → Prop} {b : γ} {x : β} (hp : p x = b) (hS : S x) :
    Shows p S [b] [x] :=
  ⟨by simp [hp], by simpa using hS⟩

theorem Shows.append {p : β → γ} {S : β → Prop} {bs cs : List γ} {xs ys : List β}
    (hx : Shows p S bs xs) (hy : Shows p S cs ys) : Shows p S (bs ++ cs) (xs ++ ys) := by
  refine ⟨by rw [List.map_append, hx.1, hy.1], ?_⟩
  intro x h
  rcases List.mem_append.mp h with h | h
  · exact hx.2 x h
  · exact hy.2 x h

/-- The loop rule: what each turn shows of its own input, the loop shows of the input list. -/
theorem outcome_collect {f : α → Except ε (List β)} {p : β → γ} {S : β → Prop} {g : α → List γ}
    {E : ε → Prop} {as : List α} (hf : ∀ a ∈ as, Outcome (f a) (Shows p S (g a)) E) :
    Outcome (collect f as) (Shows p S (as.flatMap g)) E := by
  induction as with
  | nil => exact shows_nil p S
  | cons a as ih =>
      have hrest := ih fun x hx => hf x (by simp [hx])
      refine (hf a (by simp)).bind fun xs hxs => hrest.bind fun ys hys => ?_
      exact hxs.append hys

theorem flatMap_ite_singleton (q : α → Bool) (g : α → γ) (as : List α) :
    (as.flatMap fun a => if q a then [g a] else []) = (as.filter q).map g := by
  induction as with
  | nil => rfl
  | cons a as ih =>
      rw [List.flatMap_cons, ih]
      by_cases h : q a = true
      · simp [h]
      · simp [h]

/-- The rule for a loop that skips the entries failing a test and shows one value for each of
the others. -/
theorem outcome_collect_filter {f : α → Except ε (List β)} {p : β → γ} {S : β → Prop}
    {q : α → Bool} {g : α → γ} {E : ε → Prop} {as : List α}
    (hskip : ∀ a, q a = false → f a = .ok [])
    (hf : ∀ a, q a = true → Outcome (f a) (Shows p S [g a]) E) :
    Outcome (collect f as) (Shows p S ((as.filter q).map g)) E := by
  rw [← flatMap_ite_singleton]
  refine outcome_collect fun a _ => ?_
  cases h : q a with
  | false =>
      rw [hskip a h]
      exact shows_nil p S
  | true => exact hf a h

/-- A loop none of whose turns raises shows what the turns show. -/
theorem collect_returns {f : α → Except ε (List β)} {as : List α} {p : β → γ} {S : β → Prop}
    {g : α → List γ}
    (hf : ∀ a ∈ as, ∃ bs, f a = .ok bs ∧ Shows p S (g a) bs) :
    ∃ bs, collect f as = .ok bs ∧ Shows p S (as.flatMap g) bs := by
  have hturns : ∀ a ∈ as, Outcome (f a) (Shows p S (g a)) fun _ => False := by
    intro a ha
    obtain ⟨bs, hbs, hshows⟩ := hf a ha
    rw [hbs]
    exact hshows
  have hloop := outcome_collect hturns
  cases h : collect f as with
  | error e => exact (hloop.of_error h).elim
  | ok bs => exact ⟨bs, rfl, hloop.of_ok h⟩

/-- A loop with a turn that raises ends in the error of some turn. -/
theorem collect_raises {f : α → Except ε (List β)} {as : List α} {E : ε → Prop}
    (hf : ∀ a ∈ as, ∀ e, f a = .error e → E e)
    (hbad : ∃ a ∈ as, ∃ e, f a = .error e) : ∃ e, collect f as = .error e ∧ E e := by
  induction as with
  | nil => simp at hbad
  | cons a as ih =>
      cases ha : f a with
      | error e =>
          refine ⟨e, ?_, hf a (by simp) e ha⟩
          rw [collect, ha]
          rfl
      | ok bs =>
          obtain ⟨a', hmem, e', he'⟩ := hbad
          rcases List.mem_cons.mp hmem with rfl | hlater
          · rw [ha] at he'
            cases he'
          · obtain ⟨e, he, hE⟩ := ih (fun x hx => hf x (by simp [hx])) ⟨a', hlater, e', he'⟩
            refine ⟨e, ?_, hE⟩
            rw [collect, ha, he]
            rfl

/-- Two lists built one after the other, seen through a projection. -/
theorem map_append_eq (p : β → γ) (x y : Except ε (List β)) :
    (do
      let xs ← x
      let ys ← y
      return xs ++ ys : Except ε (List β)).map (List.map p) =
    (do
      let xs ← x.map (List.map p)
      let ys ← y.map (List.map p)
      return xs ++ ys) := by
  cases x with
  | error e => rfl
  | ok xs =>
      cases y with
      | error e => rfl
      | ok ys => exact congrArg Except.ok List.map_append

theorem map_collect {f : α → Except ε (List β)} {g : α → Except ε (List γ)} (p : β → γ)
    (hf : ∀ a, (f a).map (List.map p) = g a) (as : List α) :
    (collect f as).map (List.map p) = collect g as := by
  induction as with
  | nil => rfl
  | cons a as ih =>
      rw [collect, collect, map_append_eq, hf, ih]

end GhgTool
