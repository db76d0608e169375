import GhgTool.RowSecurity
import GhgTool.Runs
import Mathlib.Data.List.Infix
import Mathlib.Logic.Function.Basic

/-!
# Transactions on secured tables

A session runs a program of statements, each chosen from the answers before it; a failed statement
changes nothing, and the program goes on, commits or rolls back. A deletion is followed by the actions
of the foreign keys that refer to the table, which no policy holds up. What else the schema refuses, a
statement or a commit, is left open. The history keeps what each session was told.

A session whose policies confine it to its home is told of rows of that home only, and leaves the
rows of another home as they are, provided that these refer to rows of their own home.
-/

namespace GhgTool

inductive OnDelete (ρ : Type*)
  | cascade
  | setNull (clear : ρ → ρ)

/-- A foreign key with an action. The actions do not go on from one key to another: the child of a
cascading key is the parent of none. -/
structure ForeignKey (ι δ ρ : Type*) where
  child : ι
  parent : ι
  target : ρ → Option δ
  key : ρ → δ
  onDelete : OnDelete ρ

/-- What a session does in one transaction. -/
inductive SessionProgram (ι ρ : Type*)
  | commit
  | rollback
  | perform (table : ι) (statement : RowStatement ρ)
      (next : Except StatementError (List ρ) → SessionProgram ι ρ)

structure Transaction (κ ι ρ : Type*) where
  session : κ
  program : SessionProgram ι ρ

/-- `refuses` and `commits` stand for all that is not in the rules of single tables, such as the
privileges of a role, foreign keys that find no row and constraints that are deferred. -/
structure SecuredSchema (κ ι δ ρ : Type*) where
  tables : ι → SecuredTable κ ρ
  foreignKeys : List (ForeignKey ι δ ρ)
  refuses : (ι → List ρ) → κ → ι → RowStatement ρ → Option StatementError
  commits : (ι → List ρ) → κ → Bool

structure SecuredState (κ ι ρ : Type*) where
  rows : ι → List ρ
  history : List (κ × List (Except StatementError (List ρ)))

variable {κ ρ ι δ τ : Type*}

/-- Every statement of the program is on a table for which `P` holds. -/
def SessionProgram.Within (P : ι → Prop) : SessionProgram ι ρ → Prop
  | commit => True
  | rollback => True
  | perform table _ next => P table ∧ ∀ answer, (next answer).Within P

theorem SessionProgram.Within.imp {P Q : ι → Prop} (himp : ∀ i, P i → Q i)
    {p : SessionProgram ι ρ} (hp : p.Within P) : p.Within Q := by
  induction p with
  | commit => trivial
  | rollback => trivial
  | perform table _ next ih => exact ⟨himp table hp.1, fun answer => ih answer (hp.2 answer)⟩

theorem SessionProgram.within_of_forall {P : ι → Prop} (hall : ∀ i, P i)
    (p : SessionProgram ι ρ) : p.Within P := by
  induction p with
  | commit => trivial
  | rollback => trivial
  | perform table _ next ih => exact ⟨hall table, fun answer => ih answer⟩

variable [DecidableEq ι] [DecidableEq δ]

section Steps

variable (standing : Standing κ) (schema : SecuredSchema κ ι δ ρ)

omit [DecidableEq ι] in
/-- The row refers to one of those that are gone. -/
def ForeignKey.hits (fk : ForeignKey ι δ ρ) (gone : List ρ) (row : ρ) : Bool :=
  (fk.target row).any fun d => gone.any fun r => fk.key r = d

def ForeignKey.act (tables : ι → SecuredTable κ ρ) (gone : List ρ) (rows : ι → List ρ)
    (fk : ForeignKey ι δ ρ) : Except StatementError (ι → List ρ) :=
  (match fk.onDelete with
    | .cascade => deleteRows (tables fk.child).rules (fk.hits gone) (rows fk.child)
    | .setNull clear =>
        updateRows (tables fk.child).rules (fk.hits gone) clear (rows fk.child)).map
    (Function.update rows fk.child)

def SecuredSchema.act (i : ι) (gone : List ρ) (rows : ι → List ρ) :
    Except StatementError (ι → List ρ) :=
  (schema.foreignKeys.filter fun fk => fk.parent = i).foldlM
    (fun rows fk => fk.act schema.tables gone rows) rows

/-- The tables after the statement and the rows the session gets. -/
def SecuredSchema.exec (s : κ) (rows : ι → List ρ) (i : ι) (st : RowStatement ρ) :
    Except StatementError ((ι → List ρ) × List ρ) :=
  match schema.refuses rows s i st with
  | some e => .error e
  | none =>
      match (schema.tables i).exec standing s (rows i) st with
      | .error e => .error e
      | .ok (rows', returned) =>
          (match st with
            | .delete _ => schema.act i returned (Function.update rows i rows')
            | _ => .ok (Function.update rows i rows')).map fun rows'' => (rows'', returned)

/-- The tables after the program and the answers it got; `start` are the tables to roll back to. -/
def SessionProgram.exec (s : κ) (start : ι → List ρ) :
    (ι → List ρ) → SessionProgram ι ρ → (ι → List ρ) × List (Except StatementError (List ρ))
  | rows, commit => (if schema.commits rows s then rows else start, [])
  | _, rollback => (start, [])
  | rows, perform table statement next =>
      match schema.exec standing s rows table statement with
      | .ok (rows', returned) =>
          let rest := (next (.ok returned)).exec s start rows'
          (rest.1, .ok returned :: rest.2)
      | .error e =>
          let rest := (next (.error e)).exec s start rows
          (rest.1, .error e :: rest.2)

def transact (st : SecuredState κ ι ρ) (tx : Transaction κ ι ρ) : SecuredState κ ι ρ :=
  let done := tx.program.exec standing schema tx.session st.rows st.rows
  ⟨done.1, st.history ++ [(tx.session, done.2)]⟩

end Steps

section Evidence

variable {standing : Standing κ} {schema : SecuredSchema κ ι δ ρ} {s : κ} {i : ι}
  {st : RowStatement ρ} {rows rows' start : ι → List ρ} {gone returned : List ρ}

/-- What a statement does that goes through: the policies let it, and the keys act where rows are
deleted. -/
theorem SecuredSchema.exec_eq_ok (h : schema.exec standing s rows i st = .ok (rows', returned)) :
    ∃ rows'', (schema.tables i).exec standing s (rows i) st = .ok (rows'', returned) ∧
      (rows' = Function.update rows i rows'' ∨
        (∃ hit, st = .delete hit) ∧
          schema.act i returned (Function.update rows i rows'') = .ok rows') := by
  unfold SecuredSchema.exec at h
  split at h
  · cases h
  · split at h
    · cases h
    · next rows'' returned' hexec =>
        obtain ⟨acted, hact, hpair⟩ := map_eq_ok.mp h
        cases hpair
        refine ⟨rows'', hexec, ?_⟩
        cases st with
        | delete hit => exact .inr ⟨⟨hit, rfl⟩, hact⟩
        | select hit | insert row returning | update hit set => exact .inl (Except.ok.inj hact).symm

/-- What the actions of the keys preserve one by one, they preserve together. -/
theorem SecuredSchema.act_induction {I : (ι → List ρ) → Prop}
    (hstep : ∀ fk ∈ schema.foreignKeys, fk.parent = i → ∀ rows rows',
      fk.act schema.tables gone rows = .ok rows' → I rows → I rows')
    (h : schema.act i gone rows = .ok rows') (hrows : I rows) : I rows' := by
  unfold SecuredSchema.act at h
  have hkeys : ∀ fk ∈ schema.foreignKeys.filter (fun fk => fk.parent = i),
      fk ∈ schema.foreignKeys ∧ fk.parent = i := fun fk hfk => by simpa using hfk
  generalize schema.foreignKeys.filter (fun fk => decide (fk.parent = i)) = keys at h hkeys
  induction keys generalizing rows with
  | nil =>
      cases h
      exact hrows
  | cons fk keys ih =>
      rw [List.foldlM_cons] at h
      obtain ⟨mid, hmid, hrest⟩ := bind_eq_ok.mp h
      obtain ⟨hfk, hparent⟩ := hkeys fk List.mem_cons_self
      exact ih (hstep fk hfk hparent rows mid hmid hrows) hrest
        fun fk' h' => hkeys fk' (List.mem_cons_of_mem fk h')

end Evidence

/-! ## Homes -/

section Homes

variable [DecidableEq τ] (home : ρ → τ) (agent : κ → τ) (standing : Standing κ)
  (schema : SecuredSchema κ ι δ ρ)

/-- The transaction stays within tables whose policies confine its session. -/
def Transaction.Confined (tx : Transaction κ ι ρ) : Prop :=
  tx.program.Within fun i => Confines home agent standing (schema.tables i).security tx.session

/-- The keys of parents are unique, and where a key clears a reference the row stays in its home. -/
structure KeysSound : Prop where
  symm : ∀ i a b, (schema.tables i).rules.clash a b = (schema.tables i).rules.clash b a
  unique : ∀ fk ∈ schema.foreignKeys, ∀ a b, fk.key a = fk.key b →
    (schema.tables fk.parent).rules.clash a b = true
  stays : ∀ fk ∈ schema.foreignKeys, ∀ clear, fk.onDelete = .setNull clear →
    ∀ row new, (schema.tables fk.child).rules.beforeUpdate row (clear row) = .proceed new →
      home new = home row

/-- The rows of a home refer to rows of it. -/
def RefersHome (t : τ) (rows : ι → List ρ) : Prop :=
  ∀ fk ∈ schema.foreignKeys, ∀ row ∈ ofHome home t (rows fk.child), ∀ d ∈ fk.target row,
    ∃ p ∈ ofHome home t (rows fk.parent), fk.key p = d

/-- The tables keep their constraints. -/
def AllLawful (rows : ι → List ρ) : Prop :=
  ∀ i, Lawful (schema.tables i).rules (rows i)

variable {home agent standing schema} {s : κ} {i : ι} {t u : τ} {st : RowStatement ρ}
  {start rows rows' : ι → List ρ} {gone returned : List ρ} {fk : ForeignKey ι δ ρ}

omit [DecidableEq δ] [DecidableEq τ] in
theorem lawful_update (h : AllLawful schema rows) {rowsᵢ : List ρ}
    (hi : Lawful (schema.tables i).rules rowsᵢ) :
    AllLawful schema (Function.update rows i rowsᵢ) := by
  intro j
  by_cases hj : j = i
  · subst hj
    rwa [Function.update_self]
  · rw [Function.update_of_ne hj]
    exact h j

omit [DecidableEq τ] in
theorem ForeignKey.act_lawful (hkeys : KeysSound home schema)
    (h : fk.act schema.tables gone rows = .ok rows')
    (hrows : AllLawful schema rows) : AllLawful schema rows' := by
  obtain ⟨rowsᵢ, hchild, rfl⟩ := map_eq_ok.mp h
  refine lawful_update hrows ?_
  split at hchild
  · exact deleteRows_lawful (hrows fk.child) hchild
  · exact updateRows_lawful (hkeys.symm fk.child) (hrows fk.child) hchild

omit [DecidableEq τ] in
theorem SecuredSchema.exec_lawful (hkeys : KeysSound home schema) (hrows : AllLawful schema rows)
    (h : schema.exec standing s rows i st = .ok (rows', returned)) : AllLawful schema rows' := by
  obtain ⟨rowsᵢ, hexec, hact⟩ := SecuredSchema.exec_eq_ok h
  have hupdated : AllLawful schema (Function.update rows i rowsᵢ) := by
    refine lawful_update hrows ?_
    cases st with
    | select hit =>
        cases hexec
        exact hrows i
    | insert row returning =>
        simp only [SecuredTable.exec] at hexec
        split_ifs at hexec
        all_goals
          obtain ⟨_, hinsert, hpair⟩ := map_eq_ok.mp hexec
          cases hpair
          exact insertRow_lawful (hkeys.symm i) (hrows i) hinsert
    | update hit set =>
        obtain ⟨_, hupdate, hpair⟩ := map_eq_ok.mp hexec
        cases hpair
        have hguarded : Lawful ((schema.tables i).guarded standing s) (rows i) :=
          (hrows i).of_check rfl (hrows i).check
        have hsymm : ∀ a b, ((schema.tables i).guarded standing s).clash a b =
            ((schema.tables i).guarded standing s).clash b a := hkeys.symm i
        have hupdated := updateRows_lawful hsymm hguarded hupdate
        exact hupdated.of_check rfl hupdated.check
    | delete hit =>
        obtain ⟨_, hdelete, hpair⟩ := map_eq_ok.mp hexec
        cases hpair
        exact deleteRows_lawful (hrows i) hdelete
  rcases hact with rfl | ⟨-, hact⟩
  · exact hupdated
  · exact SecuredSchema.act_induction (fun fk _ _ _ _ => ForeignKey.act_lawful hkeys) hact hupdated

omit [DecidableEq ι] [DecidableEq δ] in
theorem refersHome_congr (h : ∀ j, ofHome home u (rows' j) = ofHome home u (rows j))
    (hrows : RefersHome home schema u rows) : RefersHome home schema u rows' := by
  intro fk hfk row hrow d hd
  rw [h] at hrow ⊢
  exact hrows fk hfk row hrow d hd

/-- Where a key hits no row of a home, its action leaves that home as it is. -/
theorem ForeignKey.act_frame (hkeys : KeysSound home schema) (hfk : fk ∈ schema.foreignKeys)
    (hmiss : ∀ row ∈ ofHome home u (rows fk.child), fk.hits gone row = false)
    (h : fk.act schema.tables gone rows = .ok rows') (j : ι) :
    ofHome home u (rows' j) = ofHome home u (rows j) := by
  obtain ⟨rowsᵢ, hchild, rfl⟩ := map_eq_ok.mp h
  by_cases hj : j = fk.child
  · subst hj
    rw [Function.update_self]
    have hhit : ∀ row ∈ rows fk.child, fk.hits gone row = true → home row ≠ u := by
      intro row hrow hhit heq
      rw [hmiss row (mem_ofHome.mpr ⟨hrow, heq⟩)] at hhit
      cases hhit
    split at hchild
    · exact deleteRows_frame hhit hchild
    · next clear hclear =>
        refine updateFrom_frame hhit (fun row hrow hmeets new hnew => ?_) hchild
        rw [hkeys.stays fk hfk clear hclear row new hnew]
        exact hhit row hrow hmeets
  · rw [Function.update_of_ne hj]

omit [DecidableEq ι] in
/-- No row of another home refers to what a confined session deletes: it refers to a row of its own
home, and the key of that row is unique. -/
theorem ForeignKey.hits_eq_false (hkeys : KeysSound home schema) (hrows : AllLawful schema rows)
    (hrefers : RefersHome home schema u rows) (hfk : fk ∈ schema.foreignKeys)
    (hgone : ∀ g ∈ gone, g ∈ rows fk.parent ∧ home g ≠ u) {row : ρ}
    (hrow : row ∈ ofHome home u (rows fk.child)) : fk.hits gone row = false := by
  unfold ForeignKey.hits
  cases htarget : fk.target row with
  | none => rfl
  | some d =>
      obtain ⟨p, hp, hkey⟩ := hrefers fk hfk row hrow d htarget
      obtain ⟨hparent, hhome⟩ := mem_ofHome.mp hp
      rw [Option.any_some, List.any_eq_false]
      intro g hg hsame
      obtain ⟨hold, hother⟩ := hgone g hg
      have hne : p ≠ g := fun heq => hother (heq ▸ hhome)
      have hsymm : Std.Symm fun a b => (schema.tables fk.parent).rules.clash a b = false :=
        ⟨fun a b hab => by rwa [hkeys.symm]⟩
      have hapart := (hrows fk.parent).unique.forall hparent hold hne
      rw [hkeys.unique fk hfk p g (hkey.trans (of_decide_eq_true hsame).symm)] at hapart
      cases hapart

/-- A confined session leaves the rows of another home as they are, in their order. -/
theorem SecuredSchema.exec_frame (hkeys : KeysSound home schema)
    (hs : Confines home agent standing (schema.tables i).security s) (hne : u ≠ agent s)
    (hrows : AllLawful schema rows) (hrefers : RefersHome home schema u rows)
    (h : schema.exec standing s rows i st = .ok (rows', returned)) (j : ι) :
    ofHome home u (rows' j) = ofHome home u (rows j) := by
  obtain ⟨rowsᵢ, hexec, hact⟩ := SecuredSchema.exec_eq_ok h
  have hupdated : ∀ j, ofHome home u (Function.update rows i rowsᵢ j) = ofHome home u (rows j) := by
    intro j
    by_cases hj : j = i
    · subst hj
      rw [Function.update_self, hs.exec_frame hne hexec]
    · rw [Function.update_of_ne hj]
  rcases hact with rfl | ⟨⟨hit, rfl⟩, hact⟩
  · exact hupdated j
  · have hgone : ∀ g ∈ returned, g ∈ rows i ∧ home g ≠ u := by
      intro g hg
      refine ⟨?_, fun heq => hne (heq.symm.trans (hs.exec_returns hexec g hg))⟩
      obtain ⟨_, -, hpair⟩ := map_eq_ok.mp hexec
      cases hpair
      exact List.mem_of_mem_filter hg
    refine SecuredSchema.act_induction
      (I := fun mid => ∀ j, ofHome home u (mid j) = ofHome home u (rows j))
      (fun fk hfk hparent mid mid' hmid hsame j => ?_) hact hupdated j
    subst hparent
    have hmiss : ∀ row ∈ ofHome home u (mid fk.child), fk.hits returned row = false := by
      intro row hrow
      rw [hsame] at hrow
      exact ForeignKey.hits_eq_false hkeys hrows hrefers hfk hgone hrow
    rw [ForeignKey.act_frame hkeys hfk hmiss hmid, hsame]

omit [DecidableEq τ] in
/-- A program of a confined session gets rows of its home only. -/
theorem SessionProgram.exec_answers {p : SessionProgram ι ρ}
    (hp : p.Within fun i => Confines home agent standing (schema.tables i).security s) :
    ∀ returned, .ok returned ∈ (p.exec standing schema s start rows).2 →
      ∀ row ∈ returned, home row = agent s := by
  induction p generalizing rows with
  | commit => exact nofun
  | rollback => exact nofun
  | perform table statement next ih =>
      simp only [SessionProgram.exec]
      cases hstep : schema.exec standing s rows table statement with
      | error e =>
          intro returned hreturned
          rcases List.mem_cons.mp hreturned with hfirst | hrest
          · cases hfirst
          · exact ih _ (hp.2 _) returned hrest
      | ok done =>
          intro returned hreturned
          rcases List.mem_cons.mp hreturned with hfirst | hrest
          · cases hfirst
            obtain ⟨_, hexec, -⟩ := SecuredSchema.exec_eq_ok hstep
            exact hp.1.exec_returns hexec
          · exact ih _ (hp.2 _) returned hrest

omit [DecidableEq τ] in
theorem SessionProgram.exec_lawful (hkeys : KeysSound home schema) {p : SessionProgram ι ρ}
    (hstart : AllLawful schema start) (hrows : AllLawful schema rows) :
    AllLawful schema (p.exec standing schema s start rows).1 := by
  induction p generalizing rows with
  | commit =>
      simp only [SessionProgram.exec]
      split
      · exact hrows
      · exact hstart
  | rollback => exact hstart
  | perform table statement next ih =>
      simp only [SessionProgram.exec]
      cases hstep : schema.exec standing s rows table statement with
      | error e => exact ih _ hrows
      | ok done => exact ih _ (SecuredSchema.exec_lawful hkeys hrows hstep)

theorem SessionProgram.exec_frame (hkeys : KeysSound home schema) {p : SessionProgram ι ρ}
    (hp : p.Within fun i => Confines home agent standing (schema.tables i).security s)
    (hne : u ≠ agent s) (hrows : AllLawful schema rows) (hrefers : RefersHome home schema u rows)
    (hsame : ∀ j, ofHome home u (rows j) = ofHome home u (start j)) (j : ι) :
    ofHome home u ((p.exec standing schema s start rows).1 j) = ofHome home u (start j) := by
  induction p generalizing rows with
  | commit =>
      simp only [SessionProgram.exec]
      split
      · exact hsame j
      · rfl
  | rollback => rfl
  | perform table statement next ih =>
      simp only [SessionProgram.exec]
      cases hstep : schema.exec standing s rows table statement with
      | error e => exact ih _ (hp.2 _) hrows hrefers hsame
      | ok done =>
          have hframe := SecuredSchema.exec_frame hkeys hp.1 hne hrows hrefers hstep
          exact ih _ (hp.2 _) (SecuredSchema.exec_lawful hkeys hrows hstep)
            (refersHome_congr hframe hrefers) fun j => (hframe j).trans (hsame j)

omit [DecidableEq τ] in
/-- Over any run, no session is told of a row that is not of its home. -/
theorem transact_run_answers {st : SecuredState κ ι ρ} {txs : List (Transaction κ ι ρ)}
    (htxs : ∀ tx ∈ txs, tx.Confined home agent standing schema) :
    ∀ entry ∈ (run (transact standing schema) st txs).history, entry ∈ st.history ∨
      ∀ returned, .ok returned ∈ entry.2 → ∀ row ∈ returned, home row = agent entry.1 := by
  induction txs generalizing st with
  | nil => exact fun entry h => .inl h
  | cons tx txs ih =>
      intro entry hentry
      rw [run_cons] at hentry
      have hlater := ih (fun tx' h => htxs tx' (List.mem_cons_of_mem tx h)) entry hentry
      rcases hlater with hfirst | htold
      · rcases List.mem_append.mp hfirst with hold | hnew
        · exact .inl hold
        · rw [List.mem_singleton.mp hnew]
          exact .inr (SessionProgram.exec_answers (htxs tx List.mem_cons_self))
      · exact .inr htold

/-- Over any run of sessions of other homes, the rows of a home stay as they are. -/
theorem transact_run_frame (hkeys : KeysSound home schema) {st : SecuredState κ ι ρ}
    {txs : List (Transaction κ ι ρ)}
    (htxs : ∀ tx ∈ txs, tx.Confined home agent standing schema ∧ agent tx.session ≠ u)
    (hrows : AllLawful schema st.rows) (hrefers : RefersHome home schema u st.rows) (j : ι) :
    ofHome home u ((run (transact standing schema) st txs).rows j) =
      ofHome home u (st.rows j) := by
  induction txs generalizing st with
  | nil => rfl
  | cons tx txs ih =>
      obtain ⟨hconfined, hother⟩ := htxs tx List.mem_cons_self
      have hframe : ∀ j, ofHome home u ((transact standing schema st tx).rows j) =
          ofHome home u (st.rows j) :=
        SessionProgram.exec_frame hkeys hconfined hother.symm hrows hrefers fun _ => rfl
      rw [run_cons, ih (fun tx' h => htxs tx' (List.mem_cons_of_mem tx h))
        (SessionProgram.exec_lawful hkeys hrows hrows) (refersHome_congr hframe hrefers), hframe]

end Homes

/-! ## Tables that only grow -/

section Growth

/-- No policy lets the session change or delete a row. -/
def Frozen (standing : Standing κ) (sec : RowSecurity κ ρ) (s : κ) : Prop :=
  ∀ row, sec.permits standing .update s row = false ∧ sec.permits standing .delete s row = false

/-- The table has its old rows, and after them rows for which `P` holds. -/
def GrownBy (P : ρ → Prop) (base rows : List ρ) : Prop :=
  ∃ added, rows = base ++ added ∧ ∀ row ∈ added, P row

variable {standing : Standing κ} {schema : SecuredSchema κ ι δ ρ} {table : SecuredTable κ ρ}
  {s : κ} {i : ι} {start rows rows' : ι → List ρ} {P Q : ρ → Prop} {base returned : List ρ}

omit [DecidableEq ι] [DecidableEq δ] in
theorem grownBy_refl (base : List ρ) : GrownBy P base base :=
  ⟨[], by simp, by simp⟩

omit [DecidableEq ι] [DecidableEq δ] in
theorem GrownBy.trans {mid rows : List ρ} (h : GrownBy P base mid) (h' : GrownBy P mid rows) :
    GrownBy P base rows := by
  obtain ⟨as, rfl, has⟩ := h
  obtain ⟨bs, rfl, hbs⟩ := h'
  refine ⟨as ++ bs, List.append_assoc .., fun row hrow => ?_⟩
  exact (List.mem_append.mp hrow).elim (has row) (hbs row)

omit [DecidableEq ι] [DecidableEq δ] in
theorem GrownBy.imp {rows : List ρ} (h : GrownBy P base rows) (himp : ∀ row, P row → Q row) :
    GrownBy Q base rows := by
  obtain ⟨added, rfl, hadded⟩ := h
  exact ⟨added, rfl, fun row hrow => himp row (hadded row hrow)⟩

omit [DecidableEq ι] [DecidableEq δ] in
theorem Frozen.meets_update (hs : Frozen standing table.security s) (hit : ρ → Bool) :
    table.meets standing s .update hit = fun _ => false := by
  funext row
  unfold SecuredTable.meets
  rw [(hs row).1, Bool.and_false, Bool.false_and]

omit [DecidableEq ι] [DecidableEq δ] in
theorem Frozen.meets_delete (hs : Frozen standing table.security s) (hit : ρ → Bool) :
    table.meets standing s .delete hit = fun _ => false := by
  funext row
  unfold SecuredTable.meets
  rw [(hs row).2, Bool.and_false, Bool.false_and]

omit [DecidableEq ι] [DecidableEq δ] in
theorem Frozen.exec_grownBy (hs : Frozen standing table.security s) {st : RowStatement ρ}
    {rows rows' : List ρ} (h : table.exec standing s rows st = .ok (rows', returned)) :
    GrownBy (fun row => table.security.admits standing .insert s row = true) rows rows' := by
  cases st with
  | select hit =>
      cases h
      exact grownBy_refl rows
  | insert row returning =>
      have hadmits : (table.security.admits standing .insert s row &&
          (!returning || table.security.permits standing .select s row)) = true := by
        by_contra hno
        simp only [SecuredTable.exec, if_neg hno] at h
        cases h
      simp only [SecuredTable.exec, if_pos hadmits] at h
      obtain ⟨rows'', hinsert, hpair⟩ := map_eq_ok.mp h
      cases hpair
      unfold insertRow at hinsert
      split_ifs at hinsert
      cases hinsert
      refine ⟨[row], rfl, fun r hr => ?_⟩
      rw [List.mem_singleton.mp hr]
      exact (Bool.and_eq_true_iff.mp hadmits).1
  | update hit set =>
      obtain ⟨rows'', hupdate, hpair⟩ := map_eq_ok.mp h
      cases hpair
      rw [hs.meets_update, updateRows, ← List.append_nil rows,
        updateFrom_skip fun _ _ => rfl, updateFrom, List.nil_append] at hupdate
      cases hupdate
      exact grownBy_refl rows
  | delete hit =>
      obtain ⟨rows'', hdelete, hpair⟩ := map_eq_ok.mp h
      cases hpair
      rw [hs.meets_delete] at hdelete
      rw [deleteRows_eq (fun _ _ hit => by cases hit) hdelete]
      exact grownBy_refl rows

/-- A table that no key acts on changes by statements on it only. -/
theorem SecuredSchema.exec_grownBy (hs : Frozen standing (schema.tables i).security s)
    (hkeys : ∀ fk ∈ schema.foreignKeys, fk.child ≠ i) {j : ι} {st : RowStatement ρ}
    (h : schema.exec standing s rows j st = .ok (rows', returned)) :
    GrownBy (fun row => (schema.tables i).security.admits standing .insert s row = true)
      (rows i) (rows' i) := by
  obtain ⟨rowsⱼ, hexec, hact⟩ := SecuredSchema.exec_eq_ok h
  have hupdated : GrownBy
      (fun row => (schema.tables i).security.admits standing .insert s row = true) (rows i)
        (Function.update rows j rowsⱼ i) := by
    by_cases hi : i = j
    · subst hi
      rw [Function.update_self]
      exact hs.exec_grownBy hexec
    · rw [Function.update_of_ne hi]
      exact grownBy_refl _
  rcases hact with rfl | ⟨-, hact⟩
  · exact hupdated
  · refine SecuredSchema.act_induction (I := fun mid => GrownBy _ (rows i) (mid i))
      (fun fk hfk _ mid mid' hmid hgrown => ?_) hact hupdated
    obtain ⟨_, -, rfl⟩ := map_eq_ok.mp hmid
    rwa [Function.update_of_ne (hkeys fk hfk).symm]

theorem SessionProgram.exec_grownBy (hs : Frozen standing (schema.tables i).security s)
    (hkeys : ∀ fk ∈ schema.foreignKeys, fk.child ≠ i) {p : SessionProgram ι ρ}
    (hstart : GrownBy (fun row => (schema.tables i).security.admits standing .insert s row = true)
      base (start i))
    (hrows : GrownBy (fun row => (schema.tables i).security.admits standing .insert s row = true)
      base (rows i)) :
    GrownBy (fun row => (schema.tables i).security.admits standing .insert s row = true) base
      ((p.exec standing schema s start rows).1 i) := by
  induction p generalizing rows with
  | commit =>
      simp only [SessionProgram.exec]
      split
      · exact hrows
      · exact hstart
  | rollback => exact hstart
  | perform table statement next ih =>
      simp only [SessionProgram.exec]
      cases hstep : schema.exec standing s rows table statement with
      | error e => exact ih _ hrows
      | ok done => exact ih _ (hrows.trans (SecuredSchema.exec_grownBy hs hkeys hstep))

/-- Over any run of sessions that may not change it, a table on which no key acts keeps its rows in
their order, and each row it gains was let in by the insert policies. -/
theorem transact_run_grownBy {txs : List (Transaction κ ι ρ)}
    (htxs : ∀ tx ∈ txs, Frozen standing (schema.tables i).security tx.session)
    (hkeys : ∀ fk ∈ schema.foreignKeys, fk.child ≠ i) (st : SecuredState κ ι ρ) :
    GrownBy (fun row => ∃ tx ∈ txs,
        (schema.tables i).security.admits standing .insert tx.session row = true)
      (st.rows i) ((run (transact standing schema) st txs).rows i) := by
  induction txs generalizing st with
  | nil => exact grownBy_refl _
  | cons tx txs ih =>
      have hfirst := SessionProgram.exec_grownBy (p := tx.program) (htxs tx (by simp)) hkeys
        (grownBy_refl (st.rows i)) (grownBy_refl (st.rows i))
      have hrest := ih (fun tx' htx' => htxs tx' (by simp [htx'])) (transact standing schema st tx)
      rw [run_cons]
      refine (hfirst.imp fun row hrow => ?_).trans (hrest.imp ?_)
      · exact ⟨tx, by simp, hrow⟩
      · rintro row ⟨tx', htx', hrow⟩
        exact ⟨tx', by simp [htx'], hrow⟩

end Growth

end GhgTool
