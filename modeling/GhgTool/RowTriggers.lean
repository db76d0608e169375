import GhgTool.Loop
import Mathlib.Data.List.Basic
import Mathlib.Data.List.Pairwise
import Mathlib.Tactic.TypeStar

/-!
# Tables with row triggers

A statement goes through the rows it hits. For each it asks the `BEFORE … FOR EACH ROW` trigger,
which raises, returns `NULL` (the row operation is then left out without an error) or returns a row;
what is written must pass the checks of its row and clash with no other under a unique index. A
statement that fails changes nothing.
-/

namespace GhgTool

variable {ρ : Type*}

inductive Verdict (ρ : Type*)
  | raise (message : String)
  | skip
  | proceed (row : ρ)
  deriving DecidableEq, Repr

inductive StatementError
  | raised (message : String)
  | checkViolation
  | uniqueViolation
  deriving DecidableEq, Repr

structure TableRules (ρ : Type*) where
  check : ρ → Bool
  clash : ρ → ρ → Bool
  beforeUpdate : ρ → ρ → Verdict ρ
  beforeDelete : ρ → Verdict ρ

variable (rules : TableRules ρ) (hit : ρ → Bool) (set : ρ → ρ)

def insertRow (new : ρ) (rows : List ρ) : Except StatementError (List ρ) :=
  if rules.check new = false then .error .checkViolation
  else if rows.any (rules.clash new) then .error .uniqueViolation
  else .ok (rows ++ [new])

/-- `UPDATE … SET … WHERE …`, row by row: `seen` are the rows already passed. -/
def updateFrom (seen : List ρ) : List ρ → Except StatementError (List ρ)
  | [] => .ok seen
  | row :: rest =>
      if hit row then
        match rules.beforeUpdate row (set row) with
        | .raise message => .error (.raised message)
        | .skip => updateFrom (seen ++ [row]) rest
        | .proceed new =>
            if rules.check new = false then .error .checkViolation
            else if (seen ++ rest).any (rules.clash new) then .error .uniqueViolation
            else updateFrom (seen ++ [new]) rest
      else updateFrom (seen ++ [row]) rest

def updateRows (rows : List ρ) : Except StatementError (List ρ) :=
  updateFrom rules hit set [] rows

/-- `DELETE … WHERE …`. -/
def deleteRows : List ρ → Except StatementError (List ρ)
  | [] => .ok []
  | row :: rest =>
      if hit row then
        match rules.beforeDelete row with
        | .raise message => .error (.raised message)
        | .skip => (deleteRows rest).map (row :: ·)
        | .proceed _ => deleteRows rest
      else (deleteRows rest).map (row :: ·)

/-- The table after a statement. -/
def settle (rows : List ρ) : Except StatementError (List ρ) → List ρ
  | .ok rows' => rows'
  | .error _ => rows

/-! ## How the rows evolve -/

/-- Every row is still there, in its place, and has moved by `R`. -/
def Evolves (R : ρ → ρ → Prop) (rows rows' : List ρ) : Prop :=
  ∀ (i : ℕ) (row : ρ), rows[i]? = some row → ∃ row', rows'[i]? = some row' ∧ R row row'

variable {rules hit set} {R : ρ → ρ → Prop} {rows rows' rows'' : List ρ} {row new : ρ}

theorem evolves_refl (hrefl : ∀ r, R r r) (rows : List ρ) : Evolves R rows rows :=
  fun _ row h => ⟨row, h, hrefl row⟩

theorem Evolves.trans (htrans : ∀ a b c, R a b → R b c → R a c) (h : Evolves R rows rows')
    (h' : Evolves R rows' rows'') : Evolves R rows rows'' := by
  intro i row hrow
  obtain ⟨row', hrow', hR⟩ := h i row hrow
  obtain ⟨row'', hrow'', hR'⟩ := h' i row' hrow'
  exact ⟨row'', hrow'', htrans _ _ _ hR hR'⟩

theorem evolves_replace (hrefl : ∀ r, R r r) (seen rest : List ρ) (h : R row new) :
    Evolves R (seen ++ row :: rest) (seen ++ new :: rest) := by
  intro i r hr
  rcases Nat.lt_trichotomy i seen.length with hlt | heq | hgt
  · rw [List.getElem?_append_left hlt] at hr ⊢
    exact ⟨r, hr, hrefl r⟩
  · subst heq
    have hrow : row = r := by simpa using hr
    exact ⟨new, by simp, hrow ▸ h⟩
  · obtain ⟨j, rfl⟩ : ∃ j, i = seen.length + 1 + j := ⟨i - seen.length - 1, by omega⟩
    rw [List.getElem?_append_right (by omega)] at hr ⊢
    rw [show seen.length + 1 + j - seen.length = j + 1 by omega] at hr ⊢
    exact ⟨r, by simpa using hr, hrefl r⟩

theorem insertRow_evolves (hrefl : ∀ r, R r r) (h : insertRow rules new rows = .ok rows') :
    Evolves R rows rows' := by
  unfold insertRow at h
  split_ifs at h
  cases h
  intro i row hrow
  have hlt : i < rows.length := (List.getElem?_eq_some_iff.mp hrow).1
  exact ⟨row, by rw [List.getElem?_append_left hlt, hrow], hrefl row⟩

/-- What an update does with the first row: it stays, or moves where the trigger, the checks and the
other rows let it. -/
theorem updateFrom_cons {seen rest : List ρ}
    (h : updateFrom rules hit set seen (row :: rest) = .ok rows') :
    ∃ kept, updateFrom rules hit set (seen ++ [kept]) rest = .ok rows' ∧
      (kept = row ∨ hit row = true ∧ rules.beforeUpdate row (set row) = .proceed kept ∧
        rules.check kept = true ∧ (seen ++ rest).any (rules.clash kept) = false) := by
  rw [updateFrom] at h
  split_ifs at h with hhit
  · cases hverdict : rules.beforeUpdate row (set row) with
    | raise message => simp [hverdict] at h
    | skip => exact ⟨row, by simpa [hverdict] using h, .inl rfl⟩
    | proceed new =>
        simp only [hverdict] at h
        split_ifs at h with hcheck hclash
        exact ⟨new, h, .inr ⟨hhit, rfl, by simpa using hcheck, by simpa using hclash⟩⟩
  · exact ⟨row, h, .inl rfl⟩

/-- What a deletion does with the first row: it stays where it is not hit or the trigger leaves it
out, and goes where the trigger lets it. -/
theorem deleteRows_cons {rest : List ρ} (h : deleteRows rules hit (row :: rest) = .ok rows') :
    ∃ kept, deleteRows rules hit rest = .ok kept ∧
      ((rows' = row :: kept ∧ (hit row = true → rules.beforeDelete row = .skip)) ∨
        (rows' = kept ∧ hit row = true ∧ ∃ new, rules.beforeDelete row = .proceed new)) := by
  rw [deleteRows] at h
  split_ifs at h with hhit
  · cases hverdict : rules.beforeDelete row with
    | raise message => simp [hverdict] at h
    | skip =>
        rw [hverdict] at h
        obtain ⟨kept, hkept, rfl⟩ := map_eq_ok.mp h
        exact ⟨kept, hkept, .inl ⟨rfl, fun _ => rfl⟩⟩
    | proceed new =>
        rw [hverdict] at h
        exact ⟨rows', h, .inr ⟨rfl, hhit, new, rfl⟩⟩
  · obtain ⟨kept, hkept, rfl⟩ := map_eq_ok.mp h
    exact ⟨kept, hkept, .inl ⟨rfl, fun hrow => absurd hrow hhit⟩⟩

/-- The frame of an update: what the trigger lets through on the rows that are hit. -/
theorem updateFrom_evolves (hrefl : ∀ r, R r r) (htrans : ∀ a b c, R a b → R b c → R a c)
    {seen rest : List ρ}
    (hR : ∀ row ∈ rest, ∀ new, hit row = true → rules.beforeUpdate row (set row) = .proceed new →
      R row new)
    (h : updateFrom rules hit set seen rest = .ok rows') : Evolves R (seen ++ rest) rows' := by
  induction rest generalizing seen with
  | nil =>
      cases h
      simpa using evolves_refl hrefl _
  | cons row rest ih =>
      obtain ⟨kept, hrest, hkept⟩ := updateFrom_cons h
      have hmoved : R row kept := by
        rcases hkept with rfl | ⟨hhit, hproceed, -, -⟩
        · exact hrefl kept
        · exact hR row (by simp) kept hhit hproceed
      have hnext := ih (fun r hr => hR r (by simp [hr])) hrest
      rw [List.append_assoc, List.singleton_append] at hnext
      exact (evolves_replace hrefl seen rest hmoved).trans htrans hnext

theorem updateRows_evolves (hrefl : ∀ r, R r r) (htrans : ∀ a b c, R a b → R b c → R a c)
    (hR : ∀ row ∈ rows, ∀ new, hit row = true → rules.beforeUpdate row (set row) = .proceed new →
      R row new)
    (h : updateRows rules hit set rows = .ok rows') : Evolves R rows rows' :=
  updateFrom_evolves hrefl htrans hR h

/-- Where the trigger lets no update through, an update that does not fail changes nothing. -/
theorem updateFrom_eq_append {seen rest : List ρ} (hstop : ∀ row ∈ rest, hit row = true → ∀ new,
    rules.beforeUpdate row (set row) ≠ .proceed new)
    (h : updateFrom rules hit set seen rest = .ok rows') : rows' = seen ++ rest := by
  induction rest generalizing seen with
  | nil =>
      cases h
      exact (List.append_nil _).symm
  | cons row rest ih =>
      obtain ⟨kept, hrest, rfl | ⟨hhit, hproceed, -⟩⟩ := updateFrom_cons h
      · rw [ih (fun r hr => hstop r (by simp [hr])) hrest, List.append_assoc]
        rfl
      · exact absurd hproceed (hstop row (by simp) hhit kept)

/-- Where the trigger lets no deletion through, a deletion that does not fail deletes nothing. -/
theorem deleteRows_eq (hstop : ∀ row ∈ rows, hit row = true → ∀ new,
    rules.beforeDelete row ≠ .proceed new) (h : deleteRows rules hit rows = .ok rows') :
    rows' = rows := by
  induction rows generalizing rows' with
  | nil =>
      cases h
      rfl
  | cons row rest ih =>
      obtain ⟨kept, hrest, ⟨rfl, -⟩ | ⟨-, hhit, new, hproceed⟩⟩ := deleteRows_cons h
      · rw [ih (fun r hr => hstop r (by simp [hr])) hrest]
      · exact absurd hproceed (hstop row (by simp) hhit new)

/-- A deletion that does not fail hits no row for which the trigger raises. -/
theorem beforeDelete_ne_raise (h : deleteRows rules hit rows = .ok rows') (hrow : row ∈ rows)
    (hhit : hit row = true) (message : String) : rules.beforeDelete row ≠ .raise message := by
  intro hraise
  induction rows generalizing rows' with
  | nil => cases hrow
  | cons r rest ih =>
      obtain ⟨kept, hrest, hfirst⟩ := deleteRows_cons h
      rcases List.mem_cons.mp hrow with rfl | hmem
      · rcases hfirst with ⟨-, hskip⟩ | ⟨-, -, new, hproceed⟩
        · rw [hskip hhit] at hraise
          cases hraise
        · rw [hproceed] at hraise
          cases hraise
      · exact ih hrest hmem

/-- An update that does not fail hits no row for which the trigger raises. -/
theorem beforeUpdate_ne_raise (h : updateRows rules hit set rows = .ok rows') (hrow : row ∈ rows)
    (hhit : hit row = true) (message : String) :
    rules.beforeUpdate row (set row) ≠ .raise message := by
  intro hraise
  unfold updateRows at h
  generalize ([] : List ρ) = seen at h
  induction rows generalizing seen with
  | nil => cases hrow
  | cons r rest ih =>
      rcases List.mem_cons.mp hrow with rfl | hmem
      · rw [updateFrom, if_pos hhit, hraise] at h
        cases h
      · obtain ⟨kept, hrest, -⟩ := updateFrom_cons h
        exact ih hmem _ hrest

theorem settle_evolves (hrefl : ∀ r, R r r) {result : Except StatementError (List ρ)}
    (h : ∀ rows', result = .ok rows' → Evolves R rows rows') :
    Evolves R rows (settle rows result) := by
  cases result with
  | error e => exact evolves_refl hrefl rows
  | ok rows' => exact h rows' rfl

/-! ## What the checks and the unique index keep -/

/-- Every row passes its checks, and no two clash. -/
structure Lawful (rules : TableRules ρ) (rows : List ρ) : Prop where
  check : ∀ row ∈ rows, rules.check row = true
  unique : rows.Pairwise fun a b => rules.clash a b = false

theorem Lawful.countP_le_one (h : Lawful rules rows) {P : ρ → Bool}
    (hP : ∀ a b, P a = true → P b = true → rules.clash a b = true) : rows.countP P ≤ 1 := by
  rw [List.countP_eq_length_filter]
  have hpair := h.unique.filter P
  cases hfilter : rows.filter P with
  | nil => simp
  | cons a rest =>
      cases rest with
      | nil => simp
      | cons b rest =>
          rw [hfilter] at hpair
          have hab := (List.pairwise_cons.mp hpair).1 b (by simp)
          have ha : P a = true := (List.mem_filter.mp (hfilter ▸ List.mem_cons_self)).2
          have hb : P b = true :=
            (List.mem_filter.mp (hfilter ▸ List.mem_cons_of_mem a List.mem_cons_self)).2
          rw [hP a b ha hb] at hab
          cases hab

theorem insertRow_lawful (hsymm : ∀ a b, rules.clash a b = rules.clash b a)
    (hrows : Lawful rules rows) (h : insertRow rules new rows = .ok rows') :
    Lawful rules rows' := by
  unfold insertRow at h
  split_ifs at h with hcheck hclash
  cases h
  refine ⟨?_, List.pairwise_append.mpr ⟨hrows.unique, List.pairwise_singleton _ _, ?_⟩⟩
  · intro row hrow
    rcases List.mem_append.mp hrow with hrow | hrow
    · exact hrows.check row hrow
    · rw [List.mem_singleton.mp hrow]
      simpa using hcheck
  · intro row hrow other hother
    rw [List.mem_singleton.mp hother, hsymm]
    have hnone : ¬ ∃ r ∈ rows, rules.clash new r = true := by simpa using hclash
    by_contra hne
    exact hnone ⟨row, hrow, by simpa using hne⟩

theorem lawful_replace (hsymm : ∀ a b, rules.clash a b = rules.clash b a) {seen rest : List ρ}
    (hrows : Lawful rules (seen ++ row :: rest)) (hcheck : rules.check new = true)
    (hclash : (seen ++ rest).any (rules.clash new) = false) :
    Lawful rules (seen ++ new :: rest) := by
  have hfree : ∀ r ∈ seen ++ rest, rules.clash new r = false := by
    intro r hr
    simpa using List.any_eq_false.mp hclash r hr
  obtain ⟨hdone, hrest, hcross⟩ := List.pairwise_append.mp hrows.unique
  refine ⟨?_, List.pairwise_append.mpr ⟨hdone, List.pairwise_cons.mpr ⟨?_, ?_⟩, ?_⟩⟩
  · intro r hr
    rcases List.mem_append.mp hr with hr | hr
    · exact hrows.check r (by simp [hr])
    · rcases List.mem_cons.mp hr with rfl | hr
      · exact hcheck
      · exact hrows.check r (by simp [hr])
  · intro r hr
    exact hfree r (by simp [hr])
  · exact (List.pairwise_cons.mp hrest).2
  · intro a ha b hb
    rcases List.mem_cons.mp hb with rfl | hb
    · rw [hsymm]
      exact hfree a (by simp [ha])
    · exact hcross a ha b (by simp [hb])

theorem updateFrom_lawful (hsymm : ∀ a b, rules.clash a b = rules.clash b a) {seen rest : List ρ}
    (hrows : Lawful rules (seen ++ rest))
    (h : updateFrom rules hit set seen rest = .ok rows') : Lawful rules rows' := by
  induction rest generalizing seen with
  | nil =>
      cases h
      simpa using hrows
  | cons row rest ih =>
      obtain ⟨kept, hrest, hkept⟩ := updateFrom_cons h
      have hlawful : Lawful rules (seen ++ kept :: rest) := by
        rcases hkept with rfl | ⟨-, -, hcheck, hclash⟩
        · exact hrows
        · exact lawful_replace hsymm hrows hcheck hclash
      rw [List.append_cons] at hlawful
      exact ih hlawful hrest

theorem updateRows_lawful (hsymm : ∀ a b, rules.clash a b = rules.clash b a)
    (hrows : Lawful rules rows) (h : updateRows rules hit set rows = .ok rows') :
    Lawful rules rows' := by
  have hall : Lawful rules ([] ++ rows) := hrows
  exact updateFrom_lawful hsymm hall h

theorem deleteRows_sublist (h : deleteRows rules hit rows = .ok rows') : rows'.Sublist rows := by
  induction rows generalizing rows' with
  | nil =>
      cases h
      exact .refl _
  | cons row rest ih =>
      obtain ⟨kept, hrest, ⟨rfl, -⟩ | ⟨rfl, -⟩⟩ := deleteRows_cons h
      · exact (ih hrest).cons_cons row
      · exact (ih hrest).cons row

theorem deleteRows_lawful (hrows : Lawful rules rows) (h : deleteRows rules hit rows = .ok rows') :
    Lawful rules rows' :=
  ⟨fun row hrow => hrows.check row ((deleteRows_sublist h).subset hrow),
    hrows.unique.sublist (deleteRows_sublist h)⟩

theorem Lawful.of_check {rules' : TableRules ρ} (h : Lawful rules rows)
    (hclash : rules'.clash = rules.clash) (hcheck : ∀ row ∈ rows, rules'.check row = true) :
    Lawful rules' rows :=
  ⟨hcheck, hclash ▸ h.unique⟩

theorem updateFrom_eq_map (hsymm : ∀ a b, rules.clash a b = rules.clash b a)
    (hkey : ∀ a b, rules.clash (set a) b = rules.clash a b) {seen rest : List ρ}
    (hrows : Lawful rules (seen ++ rest))
    (hlet : ∀ row ∈ rest, hit row = true →
      rules.beforeUpdate row (set row) = .proceed (set row) ∧ rules.check (set row) = true) :
    updateFrom rules hit set seen rest =
      .ok (seen ++ rest.map fun row => if hit row then set row else row) := by
  induction rest generalizing seen with
  | nil => simp [updateFrom]
  | cons row rest ih =>
      have hlater : ∀ r ∈ rest, hit r = true →
          rules.beforeUpdate r (set r) = .proceed (set r) ∧ rules.check (set r) = true :=
        fun r hr => hlet r (by simp [hr])
      rw [updateFrom, List.map_cons]
      split_ifs with hhit
      · obtain ⟨hproceed, hcheck⟩ := hlet row (by simp) hhit
        -- the new row has the key of the old one, which clashed with no other
        have hclash : (seen ++ rest).any (rules.clash (set row)) = false := by
          obtain ⟨-, hrest, hcross⟩ := List.pairwise_append.mp hrows.unique
          rw [List.any_eq_false]
          intro r hr
          rw [hkey]
          rcases List.mem_append.mp hr with hr | hr
          · rw [hsymm, hcross r hr row (by simp)]
            simp
          · rw [(List.pairwise_cons.mp hrest).1 r hr]
            simp
        have hlawful : Lawful rules ((seen ++ [set row]) ++ rest) := by
          rw [← List.append_cons]
          exact lawful_replace hsymm hrows hcheck hclash
        rw [hproceed]
        dsimp only
        rw [if_neg (by simp [hcheck]), if_neg (by simp [hclash]), ih hlawful hlater,
          ← List.append_cons]
      · have hlawful : Lawful rules ((seen ++ [row]) ++ rest) := by
          rw [← List.append_cons]
          exact hrows
        rw [ih hlawful hlater, ← List.append_cons]

/-- An update that keeps the keys, and that the trigger and the checks let through, sets the rows it
hits. -/
theorem updateRows_eq_map (hsymm : ∀ a b, rules.clash a b = rules.clash b a)
    (hkey : ∀ a b, rules.clash (set a) b = rules.clash a b) (hrows : Lawful rules rows)
    (hlet : ∀ row ∈ rows, hit row = true →
      rules.beforeUpdate row (set row) = .proceed (set row) ∧ rules.check (set row) = true) :
    updateRows rules hit set rows =
      .ok (rows.map fun row => if hit row then set row else row) := by
  have hall : Lawful rules ([] ++ rows) := hrows
  exact updateFrom_eq_map hsymm hkey hall hlet

theorem settle_lawful {result : Except StatementError (List ρ)} (hrows : Lawful rules rows)
    (h : ∀ rows', result = .ok rows' → Lawful rules rows') :
    Lawful rules (settle rows result) := by
  cases result with
  | error e => exact hrows
  | ok rows' => exact h rows' rfl

/-- An update passes over the rows that it does not hit. -/
theorem updateFrom_skip {seen passed rest : List ρ} (hpassed : ∀ row ∈ passed, hit row = false) :
    updateFrom rules hit set seen (passed ++ rest) =
      updateFrom rules hit set (seen ++ passed) rest := by
  induction passed generalizing seen with
  | nil => rw [List.nil_append, List.append_nil]
  | cons row passed ih =>
      have hrow : ¬ hit row = true := by simp [hpassed row (by simp)]
      rw [List.cons_append, updateFrom, if_neg hrow, ih fun r hr => hpassed r (by simp [hr]),
        ← List.append_cons]

theorem updateRows_single {before after : List ρ} (hrow : hit row = true)
    (hbefore : ∀ r ∈ before, hit r = false) (hafter : ∀ r ∈ after, hit r = false)
    (hlet : rules.beforeUpdate row (set row) = .proceed new) (hcheck : rules.check new = true) :
    updateRows rules hit set (before ++ row :: after) =
      if (before ++ after).any (rules.clash new) then .error .uniqueViolation
      else .ok (before ++ new :: after) := by
  have hskip : updateFrom rules hit set (before ++ [new]) after = .ok (before ++ new :: after) := by
    rw [← List.append_nil after, updateFrom_skip hafter, updateFrom, List.append_nil,
      ← List.append_cons]
  rw [updateRows, updateFrom_skip hbefore, List.nil_append, updateFrom, if_pos hrow, hlet]
  dsimp only
  rw [if_neg (by simp [hcheck]), hskip]

end GhgTool
