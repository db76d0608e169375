import GhgTool.FactorPublish
import Mathlib.Data.List.Nodup

/-!
# Two eyes on every publication

What the workflow is meant to be is a register of factors and approvals that changes at once: a draft
is created or edited, a publication is proposed, published by a user who is neither the creator nor the
proposer, or rejected. Every step of the interleaved requests is such a change of the committed tables,
or leaves them; the locks and the conditions of the updates see to it.
-/

namespace GhgTool

open Function (update)

/-! ## The register -/

/-- The committed tables. -/
structure Register where
  factors : List FactorRow
  approvals : List Approval

inductive RegisterChange (g : Register) : Register → Prop
  | kept : RegisterChange g g
  | created (row : FactorRow) (hfresh : ∀ r ∈ g.factors, r.id ≠ row.id)
      (hdraft : row.isPublished = false) :
      RegisterChange g { g with factors := g.factors ++ [row] }
  | patched (factorUuid : Uuid) (changes : FactorCatalogUpdate)
      (hdraft : ∀ r ∈ g.factors, r.id = factorUuid → r.isPublished = false) :
      RegisterChange g
        { g with factors := updateRow (fun r : FactorRow => r.id) factorUuid changes.apply g.factors }
  | proposed (a : Approval) (hfresh : ∀ a' ∈ g.approvals, a'.id ≠ a.id)
      (hpending : a.decision = .pending) :
      RegisterChange g { g with approvals := g.approvals ++ [a] }
  | published (user : UserContext) (r : FactorRow) (a : Approval) (hr : r ∈ g.factors)
      (ha : a ∈ g.approvals) (hfactor : a.factorId = r.id) (hdraft : r.isPublished = false)
      (hpending : a.decision = .pending) (hproposer : a.proposedBy ≠ user.sub)
      (hcreator : r.createdBy ≠ some user.sub) :
      RegisterChange g
        { factors := updateRow (fun r : FactorRow => r.id) r.id (FactorRow.publish user) g.factors
          approvals := updateRow Approval.id a.id (Approval.approve user) g.approvals }
  | rejected (user : UserContext) (rejectionReason : String) (a : Approval) (ha : a ∈ g.approvals)
      (hpending : a.decision = .pending) :
      RegisterChange g
        { g with
          approvals := updateRow Approval.id a.id (Approval.reject user rejectionReason) g.approvals }

/-- The approval stands for the publication of the factor. -/
def Approval.Attests (a : Approval) (r : FactorRow) : Prop :=
  a.decision = .approved ∧ a.factorId = r.id ∧ r.isPublished = true ∧
    ∃ u, a.approvedBy = some u ∧ r.publishedBy = some u ∧ a.proposedBy ≠ u ∧ r.createdBy ≠ some u

/-- Every publication, apart from those of the seeded factors, has its one approval by a second
user. -/
structure Register.TwoEyes (seeded : Uuid → Prop) (g : Register) : Prop where
  factorIds : (g.factors.map fun r => r.id).Nodup
  approvalIds : (g.approvals.map Approval.id).Nodup
  attested : ∀ a ∈ g.approvals, a.decision = .approved → ∃ r ∈ g.factors, a.Attests r
  approved : ∀ r ∈ g.factors, r.isPublished = true →
    seeded r.id ∨ ∃ a ∈ g.approvals, a.decision = .approved ∧ a.factorId = r.id
  single : ∀ a ∈ g.approvals, ∀ a' ∈ g.approvals, a.decision = .approved → a'.decision = .approved →
    a.factorId = a'.factorId → a = a'

namespace Register.TwoEyes

variable {seeded : Uuid → Prop} {g g' : Register}

theorem factor_eq (h : g.TwoEyes seeded) {r r' : FactorRow} (hr : r ∈ g.factors)
    (hr' : r' ∈ g.factors) (hid : r.id = r'.id) : r = r' :=
  List.inj_on_of_nodup_map h.factorIds hr hr' hid

theorem approval_eq (h : g.TwoEyes seeded) {a a' : Approval} (ha : a ∈ g.approvals)
    (ha' : a' ∈ g.approvals) (hid : a.id = a'.id) : a = a' :=
  List.inj_on_of_nodup_map h.approvalIds ha ha' hid

theorem published_kept (h : g.TwoEyes seeded) (hchange : RegisterChange g g') {r : FactorRow}
    (hr : r ∈ g.factors) (hpublished : r.isPublished = true) : r ∈ g'.factors := by
  cases hchange with
  | kept => exact hr
  | created row hfresh hdraft => exact List.mem_append_left _ hr
  | patched factorUuid changes hdraft =>
      apply mem_updateRow_of_ne hr
      intro hid
      rw [hdraft r hr hid] at hpublished
      cases hpublished
  | proposed a hfresh hpending => exact hr
  | published user r₀ a hr₀ ha hfactor hdraft hpending hproposer hcreator =>
      apply mem_updateRow_of_ne hr
      intro hid
      rw [h.factor_eq hr hr₀ hid, hdraft] at hpublished
      cases hpublished
  | rejected user rejectionReason a ha hpending => exact hr

theorem decided_kept (h : g.TwoEyes seeded) (hchange : RegisterChange g g') {a : Approval}
    (ha : a ∈ g.approvals) (hdecided : a.decision ≠ .pending) : a ∈ g'.approvals := by
  cases hchange with
  | kept => exact ha
  | created row hfresh hdraft => exact ha
  | patched factorUuid changes hdraft => exact ha
  | proposed a' hfresh hpending => exact List.mem_append_left _ ha
  | published user r a₀ hr ha₀ hfactor hdraft hpending hproposer hcreator =>
      apply mem_updateRow_of_ne ha
      intro hid
      rw [h.approval_eq ha ha₀ hid] at hdecided
      exact hdecided hpending
  | rejected user rejectionReason a₀ ha₀ hpending =>
      apply mem_updateRow_of_ne ha
      intro hid
      rw [h.approval_eq ha ha₀ hid] at hdecided
      exact hdecided hpending

theorem not_pending {a : Approval} (happroved : a.decision = .approved) :
    a.decision ≠ .pending := by
  rw [happroved]
  decide

/-- No approval of a draft is approved. -/
theorem not_approved_of_draft (h : g.TwoEyes seeded) {r : FactorRow} (hr : r ∈ g.factors)
    (hdraft : r.isPublished = false) {a : Approval} (ha : a ∈ g.approvals)
    (hfactor : a.factorId = r.id) : a.decision ≠ .approved := by
  intro happroved
  obtain ⟨r', hr', -, hfactor', hpublished, -⟩ := h.attested a ha happroved
  have heq : r' = r := h.factor_eq hr' hr (hfactor'.symm.trans hfactor)
  rw [heq, hdraft] at hpublished
  cases hpublished

theorem created (h : g.TwoEyes seeded) {row : FactorRow}
    (hfresh : ∀ r ∈ g.factors, r.id ≠ row.id) (hdraft : row.isPublished = false) :
    TwoEyes seeded { g with factors := g.factors ++ [row] } := by
  refine ⟨nodup_append_row h.factorIds hfresh, h.approvalIds, ?_, ?_, h.single⟩
  · intro a ha happroved
    obtain ⟨r, hr, hattests⟩ := h.attested a ha happroved
    exact ⟨r, List.mem_append_left _ hr, hattests⟩
  · intro r hr hpublished
    rcases List.mem_append.mp hr with hr | hr
    · exact h.approved r hr hpublished
    · rw [List.mem_singleton.mp hr, hdraft] at hpublished
      cases hpublished

theorem patched (h : g.TwoEyes seeded) {factorUuid : Uuid} {changes : FactorCatalogUpdate}
    (hdraft : ∀ r ∈ g.factors, r.id = factorUuid → r.isPublished = false) :
    TwoEyes seeded
      { g with factors := updateRow (fun r : FactorRow => r.id) factorUuid changes.apply g.factors } := by
  have hchange := RegisterChange.patched (g := g) factorUuid changes hdraft
  refine ⟨nodup_updateRow h.factorIds fun _ => rfl, h.approvalIds, ?_, ?_, h.single⟩
  · intro a ha happroved
    obtain ⟨r, hr, hattests⟩ := h.attested a ha happroved
    exact ⟨r, h.published_kept hchange hr hattests.2.2.1, hattests⟩
  · intro r hr hpublished
    rcases mem_updateRow.mp hr with ⟨hr, -⟩ | ⟨r₀, hr₀, hid, rfl⟩
    · exact h.approved r hr hpublished
    · have hdraft₀ : (changes.apply r₀).isPublished = false := hdraft r₀ hr₀ hid
      rw [hdraft₀] at hpublished
      cases hpublished

theorem proposed (h : g.TwoEyes seeded) {a : Approval} (hfresh : ∀ a' ∈ g.approvals, a'.id ≠ a.id)
    (hpending : a.decision = .pending) :
    TwoEyes seeded { g with approvals := g.approvals ++ [a] } := by
  have hold : ∀ a' ∈ g.approvals ++ [a], a'.decision = .approved → a' ∈ g.approvals := by
    intro a' ha' happroved
    rcases List.mem_append.mp ha' with ha' | ha'
    · exact ha'
    · rw [List.mem_singleton.mp ha', hpending] at happroved
      cases happroved
  refine ⟨h.factorIds, nodup_append_row h.approvalIds hfresh, ?_, ?_, ?_⟩
  · intro a' ha' happroved
    exact h.attested a' (hold a' ha' happroved) happroved
  · intro r hr hpublished
    apply (h.approved r hr hpublished).imp_right
    rintro ⟨a', ha', happroved⟩
    exact ⟨a', List.mem_append_left _ ha', happroved⟩
  · intro a₁ ha₁ a₂ ha₂ happroved₁ happroved₂
    exact h.single a₁ (hold a₁ ha₁ happroved₁) a₂ (hold a₂ ha₂ happroved₂) happroved₁ happroved₂

theorem published (h : g.TwoEyes seeded) {user : UserContext} {r : FactorRow} {a : Approval}
    (hr : r ∈ g.factors) (ha : a ∈ g.approvals) (hfactor : a.factorId = r.id)
    (hdraft : r.isPublished = false) (hpending : a.decision = .pending)
    (hproposer : a.proposedBy ≠ user.sub) (hcreator : r.createdBy ≠ some user.sub) :
    TwoEyes seeded
      { factors := updateRow (fun r : FactorRow => r.id) r.id (FactorRow.publish user) g.factors
        approvals := updateRow Approval.id a.id (Approval.approve user) g.approvals } := by
  have hchange := RegisterChange.published user r a hr ha hfactor hdraft hpending hproposer hcreator
  -- an approved approval is an old one of another factor, or the one approved now
  have hcases : ∀ a' ∈ updateRow Approval.id a.id (Approval.approve user) g.approvals,
      a'.decision = .approved → (a' ∈ g.approvals ∧ a'.factorId ≠ r.id) ∨ a' = a.approve user := by
    intro a' ha' happroved
    rcases mem_updateRow.mp ha' with ⟨ha', -⟩ | ⟨a₀, ha₀, hid, rfl⟩
    · exact .inl ⟨ha', fun hf => h.not_approved_of_draft hr hdraft ha' hf happroved⟩
    · rw [h.approval_eq ha₀ ha hid]
      exact .inr rfl
  refine ⟨nodup_updateRow h.factorIds fun _ => rfl, nodup_updateRow h.approvalIds fun _ => rfl,
    ?_, ?_, ?_⟩
  · intro a' ha' happroved
    rcases hcases a' ha' happroved with ⟨ha', -⟩ | rfl
    · obtain ⟨r', hr', hattests⟩ := h.attested a' ha' happroved
      exact ⟨r', h.published_kept hchange hr' hattests.2.2.1, hattests⟩
    · exact ⟨r.publish user, mem_updateRow_self hr rfl, rfl, hfactor, rfl, user.sub, rfl, rfl,
        hproposer, hcreator⟩
  · intro r' hr' hpublished
    rcases mem_updateRow.mp hr' with ⟨hr', -⟩ | ⟨r₀, hr₀, hid, rfl⟩
    · apply (h.approved r' hr' hpublished).imp_right
      rintro ⟨a', ha', happroved, hfactor'⟩
      exact ⟨a', h.decided_kept hchange ha' (not_pending happroved), happroved, hfactor'⟩
    · exact .inr ⟨a.approve user, mem_updateRow_self ha rfl, rfl, hfactor.trans hid.symm⟩
  · intro a₁ ha₁ a₂ ha₂ happroved₁ happroved₂ hsame
    rcases hcases a₁ ha₁ happroved₁ with ⟨ha₁, hne₁⟩ | rfl
    · rcases hcases a₂ ha₂ happroved₂ with ⟨ha₂, -⟩ | rfl
      · exact h.single a₁ ha₁ a₂ ha₂ happroved₁ happroved₂ hsame
      · exact absurd (hsame.trans hfactor) hne₁
    · rcases hcases a₂ ha₂ happroved₂ with ⟨-, hne₂⟩ | rfl
      · exact absurd (hsame.symm.trans hfactor) hne₂
      · rfl

theorem rejected (h : g.TwoEyes seeded) {user : UserContext} {rejectionReason : String} {a : Approval}
    (ha : a ∈ g.approvals) (hpending : a.decision = .pending) :
    TwoEyes seeded
      { g with
        approvals := updateRow Approval.id a.id (Approval.reject user rejectionReason) g.approvals } := by
  have hchange := RegisterChange.rejected user rejectionReason a ha hpending
  have hold : ∀ a' ∈ updateRow Approval.id a.id (Approval.reject user rejectionReason) g.approvals,
      a'.decision = .approved → a' ∈ g.approvals := by
    intro a' ha' happroved
    rcases mem_updateRow.mp ha' with ⟨ha', -⟩ | ⟨a₀, -, -, rfl⟩
    · exact ha'
    · cases happroved
  refine ⟨h.factorIds, nodup_updateRow h.approvalIds fun _ => rfl, ?_, ?_, ?_⟩
  · intro a' ha' happroved
    exact h.attested a' (hold a' ha' happroved) happroved
  · intro r hr hpublished
    apply (h.approved r hr hpublished).imp_right
    rintro ⟨a', ha', happroved, hfactor⟩
    exact ⟨a', h.decided_kept hchange ha' (not_pending happroved), happroved, hfactor⟩
  · intro a₁ ha₁ a₂ ha₂ happroved₁ happroved₂
    exact h.single a₁ (hold a₁ ha₁ happroved₁) a₂ (hold a₂ ha₂ happroved₂) happroved₁ happroved₂

theorem change (h : g.TwoEyes seeded) (hchange : RegisterChange g g') : g'.TwoEyes seeded := by
  cases hchange with
  | kept => exact h
  | created row hfresh hdraft => exact h.created hfresh hdraft
  | patched factorUuid changes hdraft => exact h.patched hdraft
  | proposed a hfresh hpending => exact h.proposed hfresh hpending
  | published user r a hr ha hfactor hdraft hpending hproposer hcreator =>
      exact h.published hr ha hfactor hdraft hpending hproposer hcreator
  | rejected user rejectionReason a ha hpending => exact h.rejected ha hpending

end Register.TwoEyes

/-! ## What a request relies on -/

namespace FactorState

def register (s : FactorState) : Register :=
  ⟨s.factors, s.approvals⟩

variable (calls : ℕ → FactorCall) (s : FactorState) (n : ℕ)

/-- The factor read is still in the table, by the same creator. -/
def HasFactor (r : FactorRow) : Prop :=
  ∃ r' ∈ s.factors, r'.id = r.id ∧ r'.createdBy = r.createdBy

def HasApproval (a : Approval) : Prop :=
  ∃ a' ∈ s.approvals, a'.id = a.id ∧ a'.factorId = a.factorId ∧ a'.proposedBy = a.proposedBy

/-- The request holds the lock of a factor that is not published. -/
def HoldsDraft (factorUuid : Uuid) : Prop :=
  s.factorLock factorUuid = some n ∧ ∃ r ∈ s.factors, r.id = factorUuid ∧ r.isPublished = false

def HoldsPending (approvalUuid : Uuid) : Prop :=
  s.approvalLock approvalUuid = some n ∧
    ∃ a ∈ s.approvals, a.id = approvalUuid ∧ a.decision = .pending

/-- The user of the request is a second pair of eyes. -/
def MayApprove (r : FactorRow) (a : Approval) : Prop :=
  s.HasFactor r ∧ s.HasApproval a ∧ a.factorId = r.id ∧ a.proposedBy ≠ (calls n).user.sub ∧
    r.createdBy ≠ some (calls n).user.sub

def HasDecided (approvalUuid : Uuid) (decision : Decision) : Prop :=
  ∃ a ∈ s.approvals, a.id = approvalUuid ∧ a.decision = decision

end FactorState

/-- What holds of the tables while request `n` is in a phase. -/
def FactorPhase.Sound (calls : ℕ → FactorCall) (s : FactorState) (n : ℕ) : FactorPhase → Prop
  | created row =>
      row.id < s.nextUuid ∧ row.isPublished = false ∧ ∀ r ∈ s.factors, r.id ≠ row.id
  | patched factorUuid _ => s.HoldsDraft n factorUuid
  | fetched r _ => s.HasFactor r
  | unproposed r _ => s.HasFactor r
  | proposed a => a.id < s.nextUuid ∧ a.decision = .pending ∧ ∀ a' ∈ s.approvals, a'.id ≠ a.id
  | approving r a => s.MayApprove calls n r a
  | publishing r a => s.MayApprove calls n r a ∧ s.HoldsDraft n r.id
  | approved r a => s.MayApprove calls n r a ∧ s.HoldsDraft n r.id ∧ s.HoldsPending n a.id
  | rejected a _ => s.HoldsPending n a.id
  | answered (.ok (.published approvalUuid)) => s.HasDecided approvalUuid .approved
  | answered (.ok (.rejected approvalUuid)) => s.HasDecided approvalUuid .rejected
  | _ => True

/-- The id of the row a request has inserted and not committed. -/
def FactorPhase.newId : FactorPhase → Option Uuid
  | created row => some row.id
  | proposed a => some a.id
  | _ => none

structure FactorInvariant (seeded : Uuid → Prop) (calls : ℕ → FactorCall) (s : FactorState) :
    Prop where
  register : s.register.TwoEyes seeded
  factor_lt : ∀ r ∈ s.factors, r.id < s.nextUuid
  approval_lt : ∀ a ∈ s.approvals, a.id < s.nextUuid
  sound : ∀ n, (s.phase n).Sound calls s n
  apart : ∀ n m i, n ≠ m → (s.phase n).newId = some i → (s.phase m).newId ≠ some i

theorem FactorInvariant.newId_lt {seeded : Uuid → Prop} {calls : ℕ → FactorCall} {s : FactorState}
    (h : FactorInvariant seeded calls s) {n : ℕ} {i : Uuid} (hi : (s.phase n).newId = some i) :
    i < s.nextUuid := by
  have hsound := h.sound n
  generalize s.phase n = ph at hsound hi
  cases ph with
  | created row =>
      cases hi
      exact hsound.1
  | proposed a =>
      cases hi
      exact hsound.1
  | _ => cases hi

/-- The factors after a step of request `n`: rows that it does not hold stay, and a new row is one
that it had inserted. -/
structure FactorState.FactorsAfter (s : FactorState) (n : ℕ) (factors : List FactorRow) : Prop where
  kept : ∀ r ∈ s.factors, ∃ r' ∈ factors, r'.id = r.id ∧ r'.createdBy = r.createdBy ∧
    (s.factorLock r.id ≠ some n → r' = r)
  new : ∀ r ∈ factors, (∃ r₀ ∈ s.factors, r₀.id = r.id) ∨ s.phase n = .created r

/-- The approvals after a step of request `n`; a decided approval stays in any case. -/
structure FactorState.ApprovalsAfter (s : FactorState) (n : ℕ) (approvals : List Approval) :
    Prop where
  kept : ∀ a ∈ s.approvals, ∃ a' ∈ approvals, a'.id = a.id ∧ a'.factorId = a.factorId ∧
    a'.proposedBy = a.proposedBy ∧ (s.approvalLock a.id ≠ some n → a' = a) ∧
    (a.decision ≠ .pending → a' = a)
  new : ∀ a ∈ approvals, (∃ a₀ ∈ s.approvals, a₀.id = a.id) ∨ s.phase n = .proposed a

/-- A step of request `n` as the other requests see it. -/
structure FactorState.Beside (s s' : FactorState) (n : ℕ) : Prop where
  phase : ∀ m, m ≠ n → s'.phase m = s.phase m
  nextUuid : s.nextUuid ≤ s'.nextUuid
  factorLock : ∀ m i, m ≠ n → s.factorLock i = some m → s'.factorLock i = some m
  approvalLock : ∀ m i, m ≠ n → s.approvalLock i = some m → s'.approvalLock i = some m
  factors : s.FactorsAfter n s'.factors
  approvals : s.ApprovalsAfter n s'.approvals

namespace FactorState.Beside

variable {calls : ℕ → FactorCall} {s s' : FactorState} {n m : ℕ}

theorem hasFactor (h : s.Beside s' n) {r : FactorRow} (hr : s.HasFactor r) : s'.HasFactor r := by
  obtain ⟨r₀, hr₀, hid, hcreated⟩ := hr
  obtain ⟨r', hr', hid', hcreated', -⟩ := h.factors.kept r₀ hr₀
  exact ⟨r', hr', hid'.trans hid, hcreated'.trans hcreated⟩

theorem hasApproval (h : s.Beside s' n) {a : Approval} (ha : s.HasApproval a) : s'.HasApproval a := by
  obtain ⟨a₀, ha₀, hid, hfactor, hproposer⟩ := ha
  obtain ⟨a', ha', hid', hfactor', hproposer', -⟩ := h.approvals.kept a₀ ha₀
  exact ⟨a', ha', hid'.trans hid, hfactor'.trans hfactor, hproposer'.trans hproposer⟩

theorem mayApprove (h : s.Beside s' n) {r : FactorRow} {a : Approval}
    (hmay : s.MayApprove calls m r a) :
    s'.MayApprove calls m r a :=
  ⟨h.hasFactor hmay.1, h.hasApproval hmay.2.1, hmay.2.2⟩

theorem holdsDraft (h : s.Beside s' n) (hm : m ≠ n) {factorUuid : Uuid}
    (hheld : s.HoldsDraft m factorUuid) : s'.HoldsDraft m factorUuid := by
  obtain ⟨hlock, r, hr, rfl, hdraft⟩ := hheld
  obtain ⟨r', hr', -, -, hsame⟩ := h.factors.kept r hr
  have hother : s.factorLock r.id ≠ some n := by
    rw [hlock]
    exact fun heq => hm (Option.some.inj heq)
  rw [hsame hother] at hr'
  exact ⟨h.factorLock m r.id hm hlock, r, hr', rfl, hdraft⟩

theorem holdsPending (h : s.Beside s' n) (hm : m ≠ n) {approvalUuid : Uuid}
    (hheld : s.HoldsPending m approvalUuid) : s'.HoldsPending m approvalUuid := by
  obtain ⟨hlock, a, ha, rfl, hpending⟩ := hheld
  obtain ⟨a', ha', -, -, -, hsame, -⟩ := h.approvals.kept a ha
  have hother : s.approvalLock a.id ≠ some n := by
    rw [hlock]
    exact fun heq => hm (Option.some.inj heq)
  rw [hsame hother] at ha'
  exact ⟨h.approvalLock m a.id hm hlock, a, ha', rfl, hpending⟩

theorem hasDecided (h : s.Beside s' n) {approvalUuid : Uuid} {decision : Decision}
    (hne : decision ≠ .pending) (hdecided : s.HasDecided approvalUuid decision) :
    s'.HasDecided approvalUuid decision := by
  obtain ⟨a, ha, hid, hdecision⟩ := hdecided
  obtain ⟨a', ha', -, -, -, -, hsame⟩ := h.approvals.kept a ha
  rw [hsame (by rw [hdecision]; exact hne)] at ha'
  exact ⟨a, ha', hid, hdecision⟩

/-- What one request relies on, a step of another leaves. -/
theorem sound {seeded : Uuid → Prop} (hinv : FactorInvariant seeded calls s) (h : s.Beside s' n)
    (hm : m ≠ n) : (s'.phase m).Sound calls s' m := by
  have hsound := hinv.sound m
  rw [h.phase m hm]
  generalize hphase : s.phase m = ph at hsound ⊢
  cases ph with
  | created row =>
      refine ⟨Nat.lt_of_lt_of_le hsound.1 h.nextUuid, hsound.2.1, ?_⟩
      intro r hr
      rcases h.factors.new r hr with ⟨r₀, hr₀, hid⟩ | hcreated
      · rw [← hid]
        exact hsound.2.2 r₀ hr₀
      · intro hid
        exact hinv.apart n m r.id hm.symm (by rw [hcreated]; rfl) (by rw [hphase, hid]; rfl)
  | proposed a =>
      refine ⟨Nat.lt_of_lt_of_le hsound.1 h.nextUuid, hsound.2.1, ?_⟩
      intro a' ha'
      rcases h.approvals.new a' ha' with ⟨a₀, ha₀, hid⟩ | hproposed
      · rw [← hid]
        exact hsound.2.2 a₀ ha₀
      · intro hid
        exact hinv.apart n m a'.id hm.symm (by rw [hproposed]; rfl) (by rw [hphase, hid]; rfl)
  | patched factorUuid changes => exact h.holdsDraft hm hsound
  | fetched r reasonCode => exact h.hasFactor hsound
  | unproposed r reasonCode => exact h.hasFactor hsound
  | approving r a => exact h.mayApprove hsound
  | publishing r a => exact ⟨h.mayApprove hsound.1, h.holdsDraft hm hsound.2⟩
  | approved r a =>
      exact ⟨h.mayApprove hsound.1, h.holdsDraft hm hsound.2.1, h.holdsPending hm hsound.2.2⟩
  | rejected a rejectionReason => exact h.holdsPending hm hsound
  | answered reply =>
      cases reply with
      | error problem => trivial
      | ok reply =>
          cases reply with
          | published approvalUuid => exact h.hasDecided (by decide) hsound
          | rejected approvalUuid => exact h.hasDecided (by decide) hsound
          | created factorUuid => trivial
          | updated factorUuid => trivial
          | approvalRequested approvalUuid => trivial
  | received => trivial
  | drafted factorUuid changes => trivial
  | undecided a rejectionReason => trivial

end FactorState.Beside

/-! ## The tables after a step -/

section After

variable {s s' : FactorState} {n m : ℕ}

theorem FactorState.FactorsAfter.refl : s.FactorsAfter n s.factors where
  kept r hr := ⟨r, hr, rfl, rfl, fun _ => rfl⟩
  new r hr := .inl ⟨r, hr, rfl⟩

theorem FactorState.FactorsAfter.inserted {row : FactorRow} (hphase : s.phase n = .created row) :
    s.FactorsAfter n (s.factors ++ [row]) where
  kept r hr := ⟨r, List.mem_append_left _ hr, rfl, rfl, fun _ => rfl⟩
  new r hr := by
    rcases List.mem_append.mp hr with hr | hr
    · exact .inl ⟨r, hr, rfl⟩
    · rw [List.mem_singleton.mp hr]
      exact .inr hphase

theorem FactorState.FactorsAfter.updated {f : FactorRow → FactorRow} {factorUuid : Uuid}
    (hlock : s.factorLock factorUuid = some n) (hid : ∀ r, (f r).id = r.id)
    (hcreated : ∀ r, (f r).createdBy = r.createdBy) :
    s.FactorsAfter n (updateRow (fun r : FactorRow => r.id) factorUuid f s.factors) where
  kept r hr := by
    obtain ⟨r', hr', ⟨-, rfl⟩ | ⟨rfl, rfl⟩⟩ :=
      exists_mem_updateRow (fun r : FactorRow => r.id) factorUuid f hr
    · exact ⟨r', hr', rfl, rfl, fun _ => rfl⟩
    · exact ⟨f r, hr', hid r, hcreated r, fun hother => absurd hlock hother⟩
  new r hr := by
    rcases mem_updateRow.mp hr with ⟨hr, -⟩ | ⟨r₀, hr₀, -, rfl⟩
    · exact .inl ⟨r, hr, rfl⟩
    · exact .inl ⟨r₀, hr₀, (hid r₀).symm⟩

theorem FactorState.ApprovalsAfter.refl : s.ApprovalsAfter n s.approvals where
  kept a ha := ⟨a, ha, rfl, rfl, rfl, fun _ => rfl, fun _ => rfl⟩
  new a ha := .inl ⟨a, ha, rfl⟩

theorem FactorState.ApprovalsAfter.inserted {a : Approval} (hphase : s.phase n = .proposed a) :
    s.ApprovalsAfter n (s.approvals ++ [a]) where
  kept a' ha' := ⟨a', List.mem_append_left _ ha', rfl, rfl, rfl, fun _ => rfl, fun _ => rfl⟩
  new a' ha' := by
    rcases List.mem_append.mp ha' with ha' | ha'
    · exact .inl ⟨a', ha', rfl⟩
    · rw [List.mem_singleton.mp ha']
      exact .inr hphase

theorem FactorState.ApprovalsAfter.updated {f : Approval → Approval} {approvalUuid : Uuid}
    (hids : (s.approvals.map Approval.id).Nodup) (hheld : s.HoldsPending n approvalUuid)
    (hid : ∀ a, (f a).id = a.id) (hfactor : ∀ a, (f a).factorId = a.factorId)
    (hproposer : ∀ a, (f a).proposedBy = a.proposedBy) :
    s.ApprovalsAfter n (updateRow Approval.id approvalUuid f s.approvals) where
  kept a ha := by
    obtain ⟨hlock, a₀, ha₀, hid₀, hpending⟩ := hheld
    obtain ⟨a', ha', ⟨-, rfl⟩ | ⟨hkey, rfl⟩⟩ :=
      exists_mem_updateRow Approval.id approvalUuid f ha
    · exact ⟨a', ha', rfl, rfl, rfl, fun _ => rfl, fun _ => rfl⟩
    · have heq : a = a₀ := List.inj_on_of_nodup_map hids ha ha₀ (hkey.trans hid₀.symm)
      refine ⟨f a, ha', hid a, hfactor a, hproposer a, ?_, ?_⟩
      · intro hother
        rw [hkey] at hother
        exact absurd hlock hother
      · intro hdecided
        rw [heq] at hdecided
        exact absurd hpending hdecided
  new a ha := by
    rcases mem_updateRow.mp ha with ⟨ha, -⟩ | ⟨a₀, ha₀, -, rfl⟩
    · exact .inl ⟨a, ha, rfl⟩
    · exact .inl ⟨a₀, ha₀, (hid a₀).symm⟩

theorem update_lock {lock : Uuid → Option ℕ} {i j : Uuid} (hfree : lock i = none)
    (hlock : lock j = some m) : update lock i (some n) j = some m := by
  have hne : j ≠ i := by
    rintro rfl
    rw [hfree] at hlock
    cases hlock
  rw [Function.update_of_ne hne, hlock]

theorem release_lock {lock : Uuid → Option ℕ} {i : Uuid} (hm : m ≠ n) (hlock : lock i = some m) :
    (if lock i = some n then none else lock i) = some m := by
  rw [if_neg, hlock]
  rw [hlock]
  exact fun heq => hm (Option.some.inj heq)

theorem FactorState.Beside.of_finish {factors : List FactorRow} {approvals : List Approval}
    {reply : Except Problem FactorReply} (hfactors : s.FactorsAfter n factors)
    (happrovals : s.ApprovalsAfter n approvals) :
    s.Beside ({ s with factors := factors, approvals := approvals }.finish n reply) n where
  phase _ hm := FactorState.finish_phase_of_ne _ _ hm reply
  nextUuid := Nat.le_refl _
  factorLock _ _ hm hlock := release_lock hm hlock
  approvalLock _ _ hm hlock := release_lock hm hlock
  factors := hfactors
  approvals := happrovals

/-- A request moves on; the tables are not written. -/
theorem FactorState.Beside.of_enter {ph : FactorPhase} (hregister : s'.register = s.register)
    (hphase : s'.phase = update s.phase n ph) (hnext : s.nextUuid ≤ s'.nextUuid)
    (hfactorLock : ∀ m i, m ≠ n → s.factorLock i = some m → s'.factorLock i = some m)
    (happrovalLock : ∀ m i, m ≠ n → s.approvalLock i = some m → s'.approvalLock i = some m) :
    s.Beside s' n := by
  obtain ⟨hfactors, happrovals⟩ := Register.mk.inj hregister
  refine ⟨?_, hnext, hfactorLock, happrovalLock, ?_, ?_⟩
  · intro m hm
    rw [hphase, Function.update_of_ne hm]
  · rw [hfactors]
    exact .refl
  · rw [happrovals]
    exact .refl

end After

/-! ## Every step -/

namespace FactorInvariant

variable {seeded : Uuid → Prop} {calls : ℕ → FactorCall} {s s' : FactorState} {n : ℕ}

theorem of_beside (h : FactorInvariant seeded calls s)
    (hchange : RegisterChange s.register s'.register) (hbeside : s.Beside s' n)
    (hown : (s'.phase n).Sound calls s' n)
    (hnew : ∀ i, (s'.phase n).newId = some i → i = s.nextUuid) :
    FactorInvariant seeded calls s' := by
  refine ⟨h.register.change hchange, ?_, ?_, ?_, ?_⟩
  · intro r hr
    apply Nat.lt_of_lt_of_le _ hbeside.nextUuid
    rcases hbeside.factors.new r hr with ⟨r₀, hr₀, hid⟩ | hphase
    · rw [← hid]
      exact h.factor_lt r₀ hr₀
    · exact h.newId_lt (n := n) (by rw [hphase]; rfl)
  · intro a ha
    apply Nat.lt_of_lt_of_le _ hbeside.nextUuid
    rcases hbeside.approvals.new a ha with ⟨a₀, ha₀, hid⟩ | hphase
    · rw [← hid]
      exact h.approval_lt a₀ ha₀
    · exact h.newId_lt (n := n) (by rw [hphase]; rfl)
  · intro m
    by_cases hm : m = n
    · rw [hm]
      exact hown
    · exact hbeside.sound h hm
  · intro m m' i hne hi hi'
    by_cases hm : m = n
    · rw [hm] at hi hne
      rw [hbeside.phase m' hne.symm] at hi'
      exact Nat.ne_of_lt (h.newId_lt hi') (hnew i hi)
    · rw [hbeside.phase m hm] at hi
      by_cases hm' : m' = n
      · rw [hm'] at hi'
        exact Nat.ne_of_lt (h.newId_lt hi) (hnew i hi')
      · rw [hbeside.phase m' hm'] at hi'
        exact h.apart m m' i hne hi hi'

theorem sound_of_phase (h : FactorInvariant seeded calls s) {ph : FactorPhase}
    (hphase : s.phase n = ph) : ph.Sound calls s n := by
  rw [← hphase]
  exact h.sound n

theorem publish_change (h : FactorInvariant seeded calls s) {r : FactorRow} {a : Approval}
    (hphase : s.phase n = .approved r a) :
    RegisterChange s.register
      ⟨updateRow (fun r : FactorRow => r.id) r.id (FactorRow.publish (calls n).user) s.factors,
        updateRow Approval.id a.id (Approval.approve (calls n).user) s.approvals⟩ := by
  obtain ⟨hmay, hholds, hpends⟩ := h.sound_of_phase hphase
  obtain ⟨⟨r₁, hr₁, hid₁, hcreated⟩, ⟨a₁, ha₁, hid₁', hfactor, hproposed⟩, hof, hproposer, hcreator⟩ :=
    hmay
  obtain ⟨-, r₂, hr₂, hid₂, hdraft⟩ := hholds
  obtain ⟨-, a₂, ha₂, hid₂', hpending⟩ := hpends
  -- the rows read at the start and the rows held now are the same rows
  obtain rfl : r₁ = r₂ := h.register.factor_eq hr₁ hr₂ (hid₁.trans hid₂.symm)
  obtain rfl : a₁ = a₂ := h.register.approval_eq ha₁ ha₂ (hid₁'.trans hid₂'.symm)
  have hchange := RegisterChange.published (g := s.register) (calls n).user r₁ a₁ hr₁ ha₁
    (by rw [hfactor, hof, hid₁]) hdraft hpending (by rw [hproposed]; exact hproposer)
    (by rw [hcreated]; exact hcreator)
  rw [hid₁, hid₁'] at hchange
  exact hchange

/-- A step of the interleaved requests is a change of the register. -/
theorem register_change (h : FactorInvariant seeded calls s) (ht : FactorTransition calls s n s') :
    RegisterChange s.register s'.register := by
  cases ht with
  | commitCreated row hphase =>
      obtain ⟨-, hdraft, hfresh⟩ := h.sound_of_phase hphase
      exact .created row hfresh hdraft
  | commitPatched factorUuid changes hphase =>
      obtain ⟨-, r, hr, hid, hdraft⟩ : s.HoldsDraft n factorUuid := h.sound_of_phase hphase
      apply RegisterChange.patched
      intro r' hr' hid'
      rw [h.register.factor_eq hr' hr (hid'.trans hid.symm)]
      exact hdraft
  | commitProposed a hphase =>
      obtain ⟨-, hpending, hfresh⟩ := h.sound_of_phase hphase
      exact .proposed a hfresh hpending
  | commitApproved r a hphase => exact h.publish_change hphase
  | commitRejected a rejectionReason hphase =>
      obtain ⟨-, a', ha', hid, hpending⟩ : s.HoldsPending n a.id := h.sound_of_phase hphase
      have hchange := RegisterChange.rejected (g := s.register) (calls n).user rejectionReason a' ha'
        hpending
      rw [hid] at hchange
      exact hchange
  | _ => exact .kept

/-- A request moves on; the tables are not written. -/
theorem enter {ph : FactorPhase} (h : FactorInvariant seeded calls s)
    (hregister : s'.register = s.register) (hphase : s'.phase = update s.phase n ph)
    (hnext : s.nextUuid ≤ s'.nextUuid)
    (hfactorLock : ∀ m i, m ≠ n → s.factorLock i = some m → s'.factorLock i = some m)
    (happrovalLock : ∀ m i, m ≠ n → s.approvalLock i = some m → s'.approvalLock i = some m)
    (hown : ph.Sound calls s' n) (hnew : ∀ i, ph.newId = some i → i = s.nextUuid) :
    FactorInvariant seeded calls s' := by
  have hown' : s'.phase n = ph := by rw [hphase, Function.update_self]
  apply h.of_beside (n := n) _ (.of_enter hregister hphase hnext hfactorLock happrovalLock)
  · rw [hown']
    exact hown
  · rw [hown']
    exact hnew
  · rw [hregister]
    exact .kept

theorem read {ph : FactorPhase} (h : FactorInvariant seeded calls s)
    (hown : ph.Sound calls (s.enter n ph) n) (hnew : ph.newId = none) :
    FactorInvariant seeded calls (s.enter n ph) :=
  h.enter rfl rfl (Nat.le_refl _) (fun _ _ _ hlock => hlock) (fun _ _ _ hlock => hlock) hown
    fun i hi => by rw [hnew] at hi; cases hi

theorem finish {factors : List FactorRow} {approvals : List Approval}
    {reply : Except Problem FactorReply} (h : FactorInvariant seeded calls s)
    (hchange : RegisterChange s.register ⟨factors, approvals⟩)
    (hfactors : s.FactorsAfter n factors) (happrovals : s.ApprovalsAfter n approvals)
    (hown : (FactorPhase.answered reply).Sound calls
      ({ s with factors := factors, approvals := approvals }.finish n reply) n) :
    FactorInvariant seeded calls
      ({ s with factors := factors, approvals := approvals }.finish n reply) := by
  apply h.of_beside (n := n) _ (.of_finish hfactors happrovals)
  · rw [FactorState.finish_phase_self]
    exact hown
  · rw [FactorState.finish_phase_self]
    intro i hi
    cases hi
  · exact hchange

theorem fail (h : FactorInvariant seeded calls s) (problem : Problem) :
    FactorInvariant seeded calls (s.fail n problem) :=
  h.finish .kept .refl .refl trivial

/-- A request takes the lock of a factor that is not published. -/
theorem lockFactor {ph : FactorPhase} {r : FactorRow} (h : FactorInvariant seeded calls s)
    (hfree : s.factorLock r.id = none)
    (hown : ph.Sound calls ({ s with factorLock := update s.factorLock r.id (some n) }.enter n ph) n)
    (hnew : ph.newId = none) :
    FactorInvariant seeded calls
      ({ s with factorLock := update s.factorLock r.id (some n) }.enter n ph) := by
  refine h.enter rfl rfl (Nat.le_refl _) ?_ (fun _ _ _ hlock => hlock) hown ?_
  · intro m i _ hlock
    exact update_lock hfree hlock
  · rw [hnew]
    intro i hi
    cases hi

theorem lockApproval {ph : FactorPhase} {a : Approval} (h : FactorInvariant seeded calls s)
    (hfree : s.approvalLock a.id = none)
    (hown : ph.Sound calls
      ({ s with approvalLock := update s.approvalLock a.id (some n) }.enter n ph) n)
    (hnew : ph.newId = none) :
    FactorInvariant seeded calls
      ({ s with approvalLock := update s.approvalLock a.id (some n) }.enter n ph) := by
  refine h.enter rfl rfl (Nat.le_refl _) (fun _ _ _ hlock => hlock) ?_ hown ?_
  · intro m i _ hlock
    exact update_lock hfree hlock
  · rw [hnew]
    intro i hi
    cases hi

theorem transition (h : FactorInvariant seeded calls s) (ht : FactorTransition calls s n s') :
    FactorInvariant seeded calls s' := by
  cases ht with
  | wait => exact h
  | fail problem => exact h.fail problem
  | unchanged factorUuid => exact h.finish .kept .refl .refl trivial
  | create body =>
      refine h.enter rfl rfl (Nat.le_succ _) (fun _ _ _ hlock => hlock) (fun _ _ _ hlock => hlock)
        ?_ ?_
      · refine ⟨Nat.lt_succ_self _, rfl, ?_⟩
        intro r hr
        exact Nat.ne_of_lt (h.factor_lt r hr)
      · intro i hi
        cases hi
        rfl
  | draft factorUuid changes => exact h.read trivial rfl
  | fetch r reasonCode hr hok => exact h.read ⟨r, hr, rfl, rfl⟩ rfl
  | consider a rejectionReason => exact h.read trivial rfl
  | unproposed r reasonCode hphase =>
      have hread : s.HasFactor r := h.sound_of_phase hphase
      exact h.read hread rfl
  | approving r reasonCode a hphase ha hfactor hproposer hcreator =>
      have hread : s.HasFactor r := h.sound_of_phase hphase
      exact h.read ⟨hread, ⟨a, ha, rfl, rfl, rfl⟩, hfactor, hproposer, hcreator⟩ rfl
  | propose r reasonCode hphase =>
      refine h.enter rfl rfl (Nat.le_succ _) (fun _ _ _ hlock => hlock) (fun _ _ _ hlock => hlock)
        ?_ ?_
      · refine ⟨Nat.lt_succ_self _, rfl, ?_⟩
        intro a ha
        exact Nat.ne_of_lt (h.approval_lt a ha)
      · intro i hi
        cases hi
        rfl
  | patch r changes hr hdraft hfree =>
      exact h.lockFactor hfree ⟨Function.update_self _ _ _, r, hr, rfl, hdraft⟩ rfl
  | publish r r' a hphase hr hid hdraft hfree =>
      have hmay : s.MayApprove calls n r a := h.sound_of_phase hphase
      exact h.lockFactor hfree ⟨hmay, Function.update_self _ _ _, r', hr, hid, hdraft⟩ rfl
  | approve r a a' hphase ha hid hpending hfree =>
      obtain ⟨hmay, hholds⟩ := h.sound_of_phase hphase
      exact h.lockApproval hfree
        ⟨hmay, hholds, Function.update_self _ _ _, a', ha, hid, hpending⟩ rfl
  | reject a a' rejectionReason ha hid hpending hfree =>
      exact h.lockApproval hfree ⟨Function.update_self _ _ _, a', ha, hid, hpending⟩ rfl
  | commitCreated row hphase =>
      exact h.finish (h.register_change (.commitCreated row hphase)) (.inserted hphase) .refl trivial
  | commitPatched factorUuid changes hphase =>
      have hheld : s.HoldsDraft n factorUuid := h.sound_of_phase hphase
      exact h.finish (h.register_change (.commitPatched factorUuid changes hphase))
        (.updated hheld.1 (fun _ => rfl) fun _ => rfl) .refl trivial
  | commitProposed a hphase =>
      exact h.finish (h.register_change (.commitProposed a hphase)) .refl (.inserted hphase) trivial
  | commitApproved r a hphase =>
      obtain ⟨-, hheld, hpending⟩ := h.sound_of_phase hphase
      obtain ⟨a', ha', hid, -⟩ := hpending.2
      exact h.finish (h.publish_change hphase) (.updated hheld.1 (fun _ => rfl) fun _ => rfl)
        (.updated h.register.approvalIds hpending (fun _ => rfl) (fun _ => rfl) fun _ => rfl)
        ⟨a'.approve (calls n).user, mem_updateRow_self ha' hid, hid, rfl⟩
  | commitRejected a rejectionReason hphase =>
      have hpending : s.HoldsPending n a.id := h.sound_of_phase hphase
      obtain ⟨a', ha', hid, -⟩ := hpending.2
      exact h.finish (h.register_change (.commitRejected a rejectionReason hphase)) .refl
        (.updated h.register.approvalIds hpending (fun _ => rfl) (fun _ => rfl) fun _ => rfl)
        ⟨a'.reject (calls n).user rejectionReason, mem_updateRow_self ha' hid, hid, rfl⟩

theorem step (h : FactorInvariant seeded calls s) (e : FactorEvent) :
    FactorInvariant seeded calls (s.step calls e) :=
  h.transition (s.step_transition calls e)

theorem run (h : FactorInvariant seeded calls s) (es : List FactorEvent) :
    FactorInvariant seeded calls (GhgTool.run (FactorState.step calls) s es) := by
  induction es generalizing s with
  | nil => exact h
  | cons e es ih => exact ih (h.step e)

end FactorInvariant

/-! ## Every run -/

/-- The factors published before the run begins. -/
def FactorState.Seeded (s₀ : FactorState) (factorUuid : Uuid) : Prop :=
  ∃ r ∈ s₀.factors, r.id = factorUuid ∧ r.isPublished = true

theorem FactorState.Initial.invariant {s₀ : FactorState} (h₀ : s₀.Initial)
    (calls : ℕ → FactorCall) : FactorInvariant s₀.Seeded calls s₀ where
  register :=
    { factorIds := h₀.factorIds
      approvalIds := by simp [FactorState.register, h₀.noApprovals]
      attested := by simp [FactorState.register, h₀.noApprovals]
      approved := fun r hr hpublished => .inl ⟨r, hr, rfl, hpublished⟩
      single := by simp [FactorState.register, h₀.noApprovals] }
  factor_lt := h₀.factor_lt
  approval_lt := by simp [h₀.noApprovals]
  sound n := by
    rw [h₀.phase n]
    trivial
  apart n m i _ hi := by
    rw [h₀.phase n] at hi
    cases hi

/-- The committed tables go through changes of the register only. -/
theorem register_run {s₀ : FactorState} (h₀ : s₀.Initial) (calls : ℕ → FactorCall)
    (es : List FactorEvent) :
    Relation.ReflTransGen RegisterChange s₀.register
      (run (FactorState.step calls) s₀ es).register := by
  induction es using List.reverseRecOn with
  | nil => exact .refl
  | append_singleton es e ih =>
      have hinv := (h₀.invariant calls).run es
      rw [run_append]
      exact ih.tail (hinv.register_change (FactorState.step_transition calls _ e))

theorem Register.TwoEyes.filter_approved {seeded : Uuid → Prop} {g : Register} (h : g.TwoEyes seeded)
    {a : Approval} (ha : a ∈ g.approvals) (happroved : a.decision = .approved) :
    (g.approvals.filter fun a' => a'.factorId = a.factorId ∧ a'.decision = .approved) = [a] := by
  have hnodup : (g.approvals.filter fun a' => a'.factorId = a.factorId ∧
      a'.decision = .approved).Nodup := h.approvalIds.of_map.filter _
  apply List.perm_singleton.mp
  apply (List.perm_ext_iff_of_nodup hnodup (List.nodup_singleton a)).mpr
  intro a'
  rw [List.mem_filter, List.mem_singleton, decide_eq_true_eq]
  constructor
  · rintro ⟨ha', hfactor, happroved'⟩
    exact h.single a' ha' a ha happroved' happroved hfactor
  · rintro rfl
    exact ⟨ha, rfl, happroved⟩

/-- In every interleaving, a factor published through the API has exactly one approved approval, by
the user who published it, who neither proposed it nor created the factor; and no approval is both
approved by one request and rejected by another. -/
theorem two_eyes_publication (calls : ℕ → FactorCall) {s₀ : FactorState} (h₀ : s₀.Initial)
    (es : List FactorEvent) :
    let s := run (FactorState.step calls) s₀ es
    (∀ r ∈ s.factors, r.isPublished = true → ¬ s₀.Seeded r.id →
      ∃ a u, (s.approvals.filter fun a => a.factorId = r.id ∧ a.decision = .approved) = [a] ∧
        a.approvedBy = some u ∧ a.proposedBy ≠ u ∧ r.publishedBy = some u ∧
        r.createdBy ≠ some u) ∧
    ∀ n m approvalUuid, s.phase n = .answered (.ok (.published approvalUuid)) →
      s.phase m ≠ .answered (.ok (.rejected approvalUuid)) := by
  intro s
  have h : FactorInvariant s₀.Seeded calls s := (h₀.invariant calls).run es
  constructor
  · intro r hr hpublished hseeded
    obtain ⟨a, ha, happroved, hfactor⟩ := (h.register.approved r hr hpublished).resolve_left hseeded
    obtain ⟨r', hr', -, hfactor', -, u, happroved_by, hpublished_by, hproposer, hcreator⟩ :=
      h.register.attested a ha happroved
    obtain rfl : r' = r := h.register.factor_eq hr' hr (hfactor'.symm.trans hfactor)
    have hone := h.register.filter_approved ha happroved
    rw [hfactor] at hone
    exact ⟨a, u, hone, happroved_by, hproposer, hpublished_by, hcreator⟩
  · intro n m approvalUuid hn hm
    obtain ⟨a, ha, hid, happroved⟩ : s.HasDecided approvalUuid .approved := h.sound_of_phase hn
    obtain ⟨a', ha', hid', hrejected⟩ : s.HasDecided approvalUuid .rejected := h.sound_of_phase hm
    have heq : a = a' := h.register.approval_eq ha ha' (hid.trans hid'.symm)
    rw [← heq, happroved] at hrejected
    cases hrejected

/-- A draft, created by user 1. -/
def gasDraft : FactorRow where
  id := 0
  tenantId := 0
  factorId := "natural_gas"
  version := "1"
  source := "ISPRA"
  value := some 2
  biogenicCo2KgPerUnit := none
  unit := "kgCO2e/Sm3"
  gwpSet := .ar6
  vintage := some "2024"
  validFrom := 2024
  validTo := none
  isPublished := false
  isLicenceOnly := false
  isTbc := false
  applicabilityNote := none
  pdfSourceUri := none
  createdBy := some 1
  publishedBy := none

def gasCatalog : FactorState where
  factors := [gasDraft]
  nextUuid := 1

theorem gasCatalog_initial : gasCatalog.Initial :=
  ⟨by decide, by decide, rfl, rfl, fun _ => rfl⟩

theorem gasCatalog_not_seeded : ¬ gasCatalog.Seeded 0 := by
  rintro ⟨r, hr, -, hpublished⟩
  rw [List.mem_singleton.mp hr] at hpublished
  cases hpublished

/-- User 2 asks for the publication, and so do users 3 and 4, while user 5 rejects the first approval. -/
def rivalApprovers (n : ℕ) : FactorCall :=
  if n = 0 then ⟨⟨2, .admin, 0⟩, .publish 0 .initialPublication⟩
  else if n = 1 then ⟨⟨3, .admin, 0⟩, .publish 0 .initialPublication⟩
  else if n = 2 then ⟨⟨4, .admin, 0⟩, .publish 0 .initialPublication⟩
  else ⟨⟨5, .admin, 0⟩, .reject 1 "wrong vintage"⟩

/-- All three find the approval pending; user 3 is first to update the factor. -/
def rivalRun : List FactorEvent :=
  [.advance 0, .advance 0, .advance 0, .advance 0, .advance 1, .advance 2, .advance 3, .advance 1,
    .advance 2, .advance 1, .advance 2, .advance 1, .advance 3, .advance 1, .advance 2, .advance 3]

theorem two_eyes_publication_rivals :
    let s := run (FactorState.step rivalApprovers) gasCatalog rivalRun
    s.factors = [gasDraft.publish ⟨3, .admin, 0⟩] ∧
      (∃ a u, (s.approvals.filter fun a => a.factorId = 0 ∧ a.decision = .approved) = [a] ∧
        a.approvedBy = some u ∧ a.proposedBy ≠ u ∧ (gasDraft.publish ⟨3, .admin, 0⟩).publishedBy = some u ∧
        (gasDraft.publish ⟨3, .admin, 0⟩).createdBy ≠ some u) ∧
      s.phase 1 = .answered (.ok (.published 1)) ∧ s.phase 3 ≠ .answered (.ok (.rejected 1)) := by
  intro s
  have hfactors : s.factors = [gasDraft.publish ⟨3, .admin, 0⟩] := by decide +kernel
  have hphase : s.phase 1 = .answered (.ok (.published 1)) := by decide +kernel
  obtain ⟨hone, hexclusive⟩ := two_eyes_publication rivalApprovers gasCatalog_initial rivalRun
  refine ⟨hfactors, ?_, hphase, hexclusive 1 3 1 hphase⟩
  exact hone (gasDraft.publish ⟨3, .admin, 0⟩) (by rw [hfactors]; simp) rfl
    gasCatalog_not_seeded

end GhgTool
