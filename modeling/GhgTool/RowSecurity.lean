import GhgTool.RowTriggers
import Mathlib.Data.List.Basic
import Mathlib.Tactic.TypeStar

/-!
# Tables under row-level security

A table carries permissive policies; a session meets a row through the policies of the command, any
of which is enough, and none of which is too few. An update reads the rows it changes, so that the
`SELECT` policies count as well, for the old row and for the new one.

Row-level security does not hold for a role that bypasses it, nor for the owner of a table unless it
is forced. `Confines` says that through its policies a session reaches only the rows of its own home;
such a session is returned no others (`exec_returns`) and leaves the others as they are
(`exec_frame`), whatever the constraints and triggers of the table are.
-/

namespace GhgTool

inductive SqlCommand
  | select | insert | update | delete
  deriving DecidableEq, Repr

/-- A permissive policy; `command` is `none` for `FOR ALL`. -/
structure Policy (κ ρ : Type*) where
  command : Option SqlCommand
  using_ : Option (κ → ρ → Bool)
  withCheck : Option (κ → ρ → Bool)

/-- The role of a session: whether it owns the tables, and whether it is a superuser or has
`BYPASSRLS`. -/
structure Standing (κ : Type*) where
  owns : κ → Bool
  bypasses : κ → Bool

structure RowSecurity (κ ρ : Type*) where
  enabled : Bool
  forced : Bool
  policies : List (Policy κ ρ)

/-- A statement on one table; `update` and `insert` name the rows they write. -/
inductive RowStatement (ρ : Type*)
  | select (hit : ρ → Bool)
  | insert (row : ρ) (returning : Bool)
  | update (hit : ρ → Bool) (set : ρ → ρ)
  | delete (hit : ρ → Bool)

structure SecuredTable (κ ρ : Type*) where
  security : RowSecurity κ ρ
  rules : TableRules ρ

variable {κ ρ ι τ : Type*}

section Policies

variable (p : Policy κ ρ) (sec : RowSecurity κ ρ) (standing : Standing κ) (command : SqlCommand)
  (s : κ) (row : ρ)

def Policy.appliesTo : Bool :=
  p.command = none ∨ p.command = some command

def Policy.reads : Bool :=
  match p.using_ with
  | some expr => expr s row
  | none => false

/-- The `USING` expression stands in for a `WITH CHECK` that is not given. -/
def Policy.checks : Bool :=
  match p.withCheck with
  | some expr => expr s row
  | none => p.reads s row

def RowSecurity.applies : Bool :=
  sec.enabled && !standing.bypasses s && (sec.forced || !standing.owns s)

/-- The session sees the row when it runs the command. -/
def RowSecurity.permits : Bool :=
  !sec.applies standing s || sec.policies.any fun p => p.appliesTo command && p.reads s row

/-- The session may write the row with the command. -/
def RowSecurity.admits : Bool :=
  !sec.applies standing s || sec.policies.any fun p => p.appliesTo command && p.checks s row

end Policies

/-! ## Statements -/

def rlsMessage : String :=
  "new row violates row-level security policy"

section Exec

variable (standing : Standing κ) (table : SecuredTable κ ρ) (s : κ)

/-- The rows that an update or a deletion meets. -/
def SecuredTable.meets (command : SqlCommand) (hit : ρ → Bool) (row : ρ) : Bool :=
  table.security.permits standing .select s row &&
    table.security.permits standing command s row && hit row

/-- The constraints and triggers, with the checks of the update policies on the new row. -/
def SecuredTable.guarded : TableRules ρ :=
  { table.rules with
    beforeUpdate := fun old set =>
      match table.rules.beforeUpdate old set with
      | .proceed new =>
          if table.security.admits standing .update s new &&
              table.security.permits standing .select s new
          then .proceed new else .raise rlsMessage
      | verdict => verdict }

/-- The rows an update returns. -/
def SecuredTable.updated (hit : ρ → Bool) (set : ρ → ρ) (row : ρ) : Option ρ :=
  if table.meets standing s .update hit row then
    match table.rules.beforeUpdate row (set row) with
    | .proceed new => some new
    | _ => none
  else none

/-- The rows a deletion returns. -/
def SecuredTable.deleted (hit : ρ → Bool) (row : ρ) : Bool :=
  table.meets standing s .delete hit row &&
    match table.rules.beforeDelete row with
    | .proceed _ => true
    | _ => false

/-- The table after the statement and the rows the session gets. -/
def SecuredTable.exec (rows : List ρ) : RowStatement ρ → Except StatementError (List ρ × List ρ)
  | .select hit =>
      .ok (rows, rows.filter fun row => table.security.permits standing .select s row && hit row)
  | .insert row returning =>
      if table.security.admits standing .insert s row &&
          (!returning || table.security.permits standing .select s row) then
        (insertRow table.rules row rows).map fun rows' => (rows', if returning then [row] else [])
      else .error (.raised rlsMessage)
  | .update hit set =>
      (updateRows (table.guarded standing s) (table.meets standing s .update hit) set rows).map
        fun rows' => (rows', rows.filterMap (table.updated standing s hit set))
  | .delete hit =>
      (deleteRows table.rules (table.meets standing s .delete hit) rows).map
        fun rows' => (rows', rows.filter (table.deleted standing s hit))

end Exec

/-! ## Homes -/

section Homes

variable [DecidableEq τ] (home : ρ → τ) (agent : κ → τ)

/-- The rows of the home `t`. -/
def ofHome (t : τ) (rows : List ρ) : List ρ :=
  rows.filter fun row => home row = t

/-- Whatever the session meets or writes is of its own home. -/
structure Confines (standing : Standing κ) (sec : RowSecurity κ ρ) (s : κ) : Prop where
  permits : ∀ command row, sec.permits standing command s row = true → home row = agent s
  inserts : ∀ row, sec.admits standing .insert s row = true → home row = agent s
  updates : ∀ row, sec.admits standing .update s row = true → home row = agent s

variable {home agent} {standing : Standing κ} {table : SecuredTable κ ρ} {s : κ} {t u : τ}
  {rules : TableRules ρ} {hit : ρ → Bool} {set : ρ → ρ} {rows rows' seen rest : List ρ}

theorem ofHome_append (as bs : List ρ) :
    ofHome home t (as ++ bs) = ofHome home t as ++ ofHome home t bs :=
  List.filter_append as bs

theorem ofHome_cons_of_ne {row : ρ} (hrow : home row ≠ t) :
    ofHome home t (row :: rows) = ofHome home t rows :=
  List.filter_cons_of_neg (by simp [hrow])

theorem mem_ofHome {row : ρ} : row ∈ ofHome home t rows ↔ row ∈ rows ∧ home row = t := by
  simp [ofHome]

/-! ### The other homes -/

/-- An update that meets and makes no row of the home `u` leaves that home as it is. -/
theorem updateFrom_frame (hhit : ∀ row ∈ rest, hit row = true → home row ≠ u)
    (hset : ∀ row ∈ rest, hit row = true → ∀ new, rules.beforeUpdate row (set row) = .proceed new →
      home new ≠ u)
    (h : updateFrom rules hit set seen rest = .ok rows') :
    ofHome home u rows' = ofHome home u (seen ++ rest) := by
  induction rest generalizing seen with
  | nil =>
      cases h
      rw [List.append_nil]
  | cons row rest ih =>
      obtain ⟨kept, hrest, hkept⟩ := updateFrom_cons h
      have hsame : ofHome home u [kept] = ofHome home u [row] := by
        rcases hkept with rfl | ⟨hmeets, hproceed, -, -⟩
        · rfl
        · rw [ofHome_cons_of_ne (hhit row List.mem_cons_self hmeets),
            ofHome_cons_of_ne (hset row List.mem_cons_self hmeets kept hproceed)]
      rw [ih (fun r hr => hhit r (List.mem_cons_of_mem row hr))
          (fun r hr => hset r (List.mem_cons_of_mem row hr)) hrest,
        List.append_cons seen row rest, ofHome_append, ofHome_append, hsame, ← ofHome_append,
        ← ofHome_append]

theorem deleteRows_frame (hhit : ∀ row ∈ rows, hit row = true → home row ≠ u)
    (h : deleteRows rules hit rows = .ok rows') : ofHome home u rows' = ofHome home u rows := by
  induction rows generalizing rows' with
  | nil =>
      cases h
      rfl
  | cons row rest ih =>
      obtain ⟨kept, hrest, ⟨rfl, -⟩ | ⟨rfl, hmeets, -⟩⟩ := deleteRows_cons h
      · rw [← List.singleton_append, ofHome_append,
          ih (fun r hr => hhit r (List.mem_cons_of_mem row hr)) hrest, ← ofHome_append,
          List.singleton_append]
      · rw [ofHome_cons_of_ne (hhit row List.mem_cons_self hmeets),
          ih (fun r hr => hhit r (List.mem_cons_of_mem row hr)) hrest]

/-! ### What a statement sees and does -/

variable (hs : Confines home agent standing table.security s)

include hs

omit [DecidableEq τ] in
theorem Confines.meets {command : SqlCommand} {row : ρ}
    (h : table.meets standing s command hit row = true) : home row = agent s := by
  unfold SecuredTable.meets at h
  simp only [Bool.and_eq_true] at h
  exact hs.permits _ row h.1.1

omit [DecidableEq τ] in
theorem Confines.guarded {old new' new : ρ}
    (h : (table.guarded standing s).beforeUpdate old new' = .proceed new) : home new = agent s := by
  unfold SecuredTable.guarded at h
  dsimp only at h
  cases hverdict : table.rules.beforeUpdate old new' with
  | raise message =>
      rw [hverdict] at h
      cases h
  | skip =>
      rw [hverdict] at h
      cases h
  | proceed candidate =>
      rw [hverdict] at h
      dsimp only at h
      split_ifs at h with hchecked
      cases h
      exact hs.updates new (Bool.and_eq_true_iff.mp hchecked).1

omit [DecidableEq τ] in
/-- What a statement returns is of the session's home. -/
theorem Confines.exec_returns {st : RowStatement ρ} {returned : List ρ}
    (h : table.exec standing s rows st = .ok (rows', returned)) :
    ∀ row ∈ returned, home row = agent s := by
  intro row hrow
  cases st with
  | select hit =>
      cases h
      have hseen := (List.mem_filter.mp hrow).2
      exact hs.permits .select row (Bool.and_eq_true_iff.mp hseen).1
  | insert new returning =>
      simp only [SecuredTable.exec] at h
      split_ifs at h with hadmits hreturning
      · obtain ⟨rows'', -, hpair⟩ := map_eq_ok.mp h
        cases hpair
        rw [List.mem_singleton.mp hrow]
        exact hs.inserts new (Bool.and_eq_true_iff.mp hadmits).1
      · obtain ⟨rows'', -, hpair⟩ := map_eq_ok.mp h
        cases hpair
        cases hrow
  | update hit set =>
      obtain ⟨rows'', hupdate, hpair⟩ := map_eq_ok.mp h
      cases hpair
      obtain ⟨old, hold, hnew⟩ := List.mem_filterMap.mp hrow
      unfold SecuredTable.updated at hnew
      split_ifs at hnew with hmeets
      cases hverdict : table.rules.beforeUpdate old (set old) with
      | raise message => simp [hverdict] at hnew
      | skip => simp [hverdict] at hnew
      | proceed new =>
          obtain rfl : new = row := by simpa [hverdict] using hnew
          -- the statement went through, so that the policies let the new row pass
          have hraise := beforeUpdate_ne_raise hupdate hold hmeets rlsMessage
          refine hs.updates new ?_
          simp only [SecuredTable.guarded, hverdict] at hraise
          split_ifs at hraise with hchecked
          · exact (Bool.and_eq_true_iff.mp hchecked).1
          · exact absurd rfl hraise
  | delete hit =>
      obtain ⟨rows'', -, hpair⟩ := map_eq_ok.mp h
      cases hpair
      have hdeleted := (List.mem_filter.mp hrow).2
      unfold SecuredTable.deleted at hdeleted
      exact hs.meets (Bool.and_eq_true_iff.mp hdeleted).1

/-- The rows of another home stay as they are, in their order. -/
theorem Confines.exec_frame (hne : u ≠ agent s) {st : RowStatement ρ} {returned : List ρ}
    (h : table.exec standing s rows st = .ok (rows', returned)) :
    ofHome home u rows' = ofHome home u rows := by
  cases st with
  | select hit =>
      cases h
      rfl
  | insert row returning =>
      have hadmits : (table.security.admits standing .insert s row &&
          (!returning || table.security.permits standing .select s row)) = true := by
        by_contra hno
        simp only [SecuredTable.exec, if_neg hno] at h
        cases h
      simp only [SecuredTable.exec, if_pos hadmits] at h
      have hrow : home row ≠ u := by
        rw [hs.inserts row (Bool.and_eq_true_iff.mp hadmits).1]
        exact hne.symm
      obtain ⟨rows'', hinsert, hpair⟩ := map_eq_ok.mp h
      cases hpair
      unfold insertRow at hinsert
      split_ifs at hinsert
      cases hinsert
      rw [ofHome_append, ofHome_cons_of_ne hrow]
      exact List.append_nil _
  | update hit set =>
      obtain ⟨rows'', hupdate, hpair⟩ := map_eq_ok.mp h
      cases hpair
      refine updateFrom_frame (fun row _ hmeets heq => hne ?_) (fun row _ _ new hnew heq => hne ?_)
        hupdate
      · exact heq.symm.trans (hs.meets hmeets)
      · exact heq.symm.trans (hs.guarded hnew)
  | delete hit =>
      obtain ⟨rows'', hdelete, hpair⟩ := map_eq_ok.mp h
      cases hpair
      refine deleteRows_frame (fun row _ hmeets heq => hne ?_) hdelete
      exact heq.symm.trans (hs.meets hmeets)

end Homes

end GhgTool
