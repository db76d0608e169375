import GhgTool.TwoEyes

/-!
# What is published and what was proposed

A draft stays editable while its publication is pending, and the update that publishes it looks at
`is_published` only. So an edit committed between the proposal and the approval is published without
having been proposed, and an edit committed between the check of the approver and the update is published
without having been checked. Where no such edit is committed, what is published is what was proposed,
and it is publishable.
-/

namespace GhgTool

open Function (update)

/-- The factor a request has found publishable and goes on to publish. -/
def FactorPhase.checked : FactorPhase → Option Uuid
  | fetched r _ => some r.id
  | approving r _ => some r.id
  | publishing r _ => some r.id
  | approved r _ => some r.id
  | _ => none

/-- The edit a request is about to commit. -/
def FactorPhase.edit : FactorPhase → Option (Uuid × FactorCatalogUpdate)
  | patched factorUuid changes => some (factorUuid, changes)
  | _ => none

namespace FactorState

variable (s : FactorState)

/-- The approval is pending, in the table or inserted by an open transaction. -/
def Proposed (a : Approval) : Prop :=
  (a ∈ s.approvals ∧ a.decision = .pending) ∨ ∃ n, s.phase n = .proposed a

/-- The factor of the approval has the content it had when the approval was proposed. -/
def AsProposed (a : Approval) : Prop :=
  ∃ r ∈ s.factors, r.id = a.factorId ∧ s.proposedContent.lookup a.id = some r.content

def Publishable (factorUuid : Uuid) : Prop :=
  ∃ r ∈ s.factors, r.id = factorUuid ∧ assertPublishable r = .ok ()

/-- An edit that changes the content meets no proposal, and one that leaves the factor unpublishable
meets no request that has checked it. -/
def SafeEdit (factorUuid : Uuid) (changes : FactorCatalogUpdate) : Prop :=
  ∀ r ∈ s.factors, r.id = factorUuid →
    ((changes.apply r).content ≠ r.content → ∀ a, s.Proposed a → a.factorId ≠ factorUuid) ∧
    (assertPublishable (changes.apply r) ≠ .ok () → ∀ m, (s.phase m).checked ≠ some factorUuid)

def EditsSafely : FactorEvent → Prop
  | .advance n => ∀ edit ∈ (s.phase n).edit, s.SafeEdit edit.1 edit.2
  | .abort _ => True

end FactorState

/-- Every proposal is about the content its factor has, every factor that is about to be published is
publishable, and what has been published was proposed. -/
structure ProposalsKept (s : FactorState) : Prop where
  proposed : ∀ a, s.Proposed a → s.AsProposed a
  checked : ∀ n i, (s.phase n).checked = some i → s.Publishable i
  approved : ∀ a ∈ s.approvals, a.decision = .approved → ∃ r ∈ s.factors, r.id = a.factorId ∧
    r.isPublished = true ∧ s.proposedContent.lookup a.id = some r.content ∧
    assertPublishable r = .ok ()

namespace ProposalsKept

variable {seeded : Uuid → Prop} {calls : ℕ → FactorCall} {s s' : FactorState} {n : ℕ}

theorem proposed_lt (hinv : FactorInvariant seeded calls s) {a : Approval} (ha : s.Proposed a) :
    a.id < s.nextUuid := by
  rcases ha with ⟨ha, -⟩ | ⟨n, hn⟩
  · exact hinv.approval_lt a ha
  · apply hinv.newId_lt (n := n)
    rw [hn]
    rfl

/-- A request moves on; the tables are not written. -/
theorem enter {ph : FactorPhase} (h : ProposalsKept s) (hinv : FactorInvariant seeded calls s)
    (hregister : s'.register = s.register) (hphase : s'.phase = update s.phase n ph)
    (hlookup : ∀ i, i < s.nextUuid → s'.proposedContent.lookup i = s.proposedContent.lookup i)
    (hproposed : ∀ a, ph = .proposed a → s'.AsProposed a)
    (hchecked : ∀ i, ph.checked = some i → s.Publishable i) : ProposalsKept s' := by
  obtain ⟨hfactors, happrovals⟩ := Register.mk.inj hregister
  have hold : ∀ a, s.Proposed a → s'.AsProposed a := by
    intro a ha
    obtain ⟨r, hr, hid, hcontent⟩ := h.proposed a ha
    refine ⟨r, by rw [hfactors]; exact hr, hid, ?_⟩
    rw [hlookup a.id (proposed_lt hinv ha)]
    exact hcontent
  refine ⟨?_, ?_, ?_⟩
  · rintro a (⟨ha, hpending⟩ | ⟨m, hm⟩)
    · rw [happrovals] at ha
      exact hold a (.inl ⟨ha, hpending⟩)
    · rw [hphase] at hm
      by_cases hmn : m = n
      · rw [hmn, Function.update_self] at hm
        exact hproposed a hm
      · rw [Function.update_of_ne hmn] at hm
        exact hold a (.inr ⟨m, hm⟩)
  · unfold FactorState.Publishable
    rw [hphase, hfactors]
    apply (Function.forall_update_iff s.phase fun _ ph => ∀ i, ph.checked = some i →
      s.Publishable i).mpr
    exact ⟨hchecked, fun m _ => h.checked m⟩
  · intro a ha happroved
    rw [happrovals] at ha
    rw [hfactors, hlookup a.id (hinv.approval_lt a ha)]
    exact h.approved a ha happroved

theorem read {ph : FactorPhase} (h : ProposalsKept s) (hinv : FactorInvariant seeded calls s)
    (hregister : s'.register = s.register) (hphase : s'.phase = update s.phase n ph)
    (hcontent : s'.proposedContent = s.proposedContent) (hproposed : ph.newId = none)
    (hchecked : ∀ i, ph.checked = some i → s.Publishable i) : ProposalsKept s' := by
  apply h.enter hinv hregister hphase _ _ hchecked
  · intro i _
    rw [hcontent]
  · rintro a rfl
    cases hproposed

/-- A transaction ends, with what it has written to the two tables: no proposal is new, and factors
that proposals or checks are about are as they were. -/
theorem finish {factors : List FactorRow} {approvals : List Approval}
    {reply : Except Problem FactorReply} (h : ProposalsKept s)
    (hproposed : ∀ a ∈ approvals, a.decision = .pending → s.Proposed a)
    (hcontent : ∀ a, s.Proposed a → ∀ r ∈ s.factors, r.id = a.factorId →
      ∃ r' ∈ factors, r'.id = r.id ∧ r'.content = r.content)
    (hchecked : ∀ m i, (s.phase m).checked = some i → ∀ r ∈ s.factors, r.id = i →
      assertPublishable r = .ok () → ∃ r' ∈ factors, r'.id = r.id ∧ assertPublishable r' = .ok ())
    (happroved : ∀ a ∈ approvals, a.decision = .approved → ∃ r ∈ factors, r.id = a.factorId ∧
      r.isPublished = true ∧ s.proposedContent.lookup a.id = some r.content ∧
      assertPublishable r = .ok ()) :
    ProposalsKept ({ s with factors := factors, approvals := approvals }.finish n reply) := by
  refine ⟨?_, ?_, happroved⟩
  · intro a ha
    have hold : s.Proposed a := by
      rcases ha with ⟨ha, hpending⟩ | ⟨m, hm⟩
      · exact hproposed a ha hpending
      · by_cases hmn : m = n
        · rw [hmn, FactorState.finish_phase_self] at hm
          cases hm
        · rw [FactorState.finish_phase_of_ne _ _ hmn] at hm
          exact .inr ⟨m, hm⟩
    obtain ⟨r, hr, hid, hlookup⟩ := h.proposed a hold
    obtain ⟨r', hr', hid', hsame⟩ := hcontent a hold r hr hid
    exact ⟨r', hr', hid'.trans hid, by rw [hsame]; exact hlookup⟩
  · intro m i hm
    have hold : (s.phase m).checked = some i := by
      by_cases hmn : m = n
      · rw [hmn, FactorState.finish_phase_self] at hm
        cases hm
      · rw [FactorState.finish_phase_of_ne _ _ hmn] at hm
        exact hm
    obtain ⟨r, hr, hid, hok⟩ := h.checked m i hold
    obtain ⟨r', hr', hid', hok'⟩ := hchecked m i hold r hr hid hok
    exact ⟨r', hr', hid'.trans hid, hok'⟩

theorem answered (h : ProposalsKept s) (reply : Except Problem FactorReply) :
    ProposalsKept (s.finish n reply) :=
  h.finish (fun _ ha hpending => .inl ⟨ha, hpending⟩) (fun _ _ r hr _ => ⟨r, hr, rfl, rfl⟩)
    (fun _ _ _ r hr _ hok => ⟨r, hr, rfl, hok⟩) h.approved

theorem created (h : ProposalsKept s) (row : FactorRow) (reply : Except Problem FactorReply) :
    ProposalsKept ({ s with factors := s.factors ++ [row] }.finish n reply) := by
  refine h.finish (fun _ ha hpending => .inl ⟨ha, hpending⟩) ?_ ?_ ?_
  · intro a _ r hr _
    exact ⟨r, List.mem_append_left _ hr, rfl, rfl⟩
  · intro m i _ r hr _ hok
    exact ⟨r, List.mem_append_left _ hr, rfl, hok⟩
  · intro a ha happroved
    obtain ⟨r, hr, hrest⟩ := h.approved a ha happroved
    exact ⟨r, List.mem_append_left _ hr, hrest⟩

theorem patched (h : ProposalsKept s) (hinv : FactorInvariant seeded calls s) {factorUuid : Uuid}
    {changes : FactorCatalogUpdate} (hphase : s.phase n = .patched factorUuid changes)
    (hsafe : s.SafeEdit factorUuid changes) :
    ProposalsKept
      ({ s with
        factors := updateRow (fun r : FactorRow => r.id) factorUuid changes.apply s.factors }.finish n
        (.ok (.updated factorUuid))) := by
  refine h.finish (fun _ ha hpending => .inl ⟨ha, hpending⟩) ?_ ?_ ?_
  · intro a ha r hr hid
    obtain ⟨r', hr', ⟨-, rfl⟩ | ⟨hkey, rfl⟩⟩ :=
      exists_mem_updateRow (fun r : FactorRow => r.id) factorUuid changes.apply hr
    · exact ⟨r', hr', rfl, rfl⟩
    · refine ⟨changes.apply r, hr', rfl, ?_⟩
      by_contra hchanged
      exact (hsafe r hr hkey).1 hchanged a ha (hid.symm.trans hkey)
  · intro m i hm r hr hid hok
    obtain ⟨r', hr', ⟨-, rfl⟩ | ⟨hkey, rfl⟩⟩ :=
      exists_mem_updateRow (fun r : FactorRow => r.id) factorUuid changes.apply hr
    · exact ⟨r', hr', rfl, hok⟩
    · refine ⟨changes.apply r, hr', rfl, ?_⟩
      by_contra hspoiled
      rw [← hid, hkey] at hm
      exact (hsafe r hr hkey).2 hspoiled m hm
  · intro a ha happroved
    obtain ⟨r, hr, hid, hpublished, hrest⟩ := h.approved a ha happroved
    have hchange := hinv.register_change (.commitPatched factorUuid changes hphase)
    exact ⟨r, hinv.register.published_kept hchange hr hpublished, hid, hpublished, hrest⟩

theorem proposal (h : ProposalsKept s) {a : Approval} (hphase : s.phase n = .proposed a)
    (hpending : a.decision = .pending) (reply : Except Problem FactorReply) :
    ProposalsKept ({ s with approvals := s.approvals ++ [a] }.finish n reply) := by
  refine h.finish ?_ (fun _ _ r hr _ => ⟨r, hr, rfl, rfl⟩)
    (fun _ _ _ r hr _ hok => ⟨r, hr, rfl, hok⟩) ?_
  · intro a' ha' hpending'
    rcases List.mem_append.mp ha' with ha' | ha'
    · exact .inl ⟨ha', hpending'⟩
    · rw [List.mem_singleton.mp ha']
      exact .inr ⟨n, hphase⟩
  · intro a' ha' happroved
    rcases List.mem_append.mp ha' with ha' | ha'
    · exact h.approved a' ha' happroved
    · rw [List.mem_singleton.mp ha', hpending] at happroved
      cases happroved

theorem published (h : ProposalsKept s) (hinv : FactorInvariant seeded calls s) {r : FactorRow}
    {a : Approval} (hphase : s.phase n = .approved r a) :
    ProposalsKept
      ({ s with
        factors :=
          updateRow (fun r : FactorRow => r.id) r.id (FactorRow.publish (calls n).user) s.factors
        approvals :=
          updateRow Approval.id a.id (Approval.approve (calls n).user) s.approvals }.finish n
        (.ok (.published a.id))) := by
  have hchange := hinv.publish_change hphase
  have hkept : ∀ r₀ ∈ s.factors, ∃ r' ∈ updateRow (fun r : FactorRow => r.id) r.id
      (FactorRow.publish (calls n).user) s.factors, r'.id = r₀.id ∧ r'.content = r₀.content ∧
      assertPublishable r' = assertPublishable r₀ := by
    intro r₀ hr₀
    obtain ⟨r', hr', ⟨-, rfl⟩ | ⟨-, rfl⟩⟩ :=
      exists_mem_updateRow (fun r : FactorRow => r.id) r.id (FactorRow.publish (calls n).user) hr₀
    · exact ⟨r', hr', rfl, rfl, rfl⟩
    · exact ⟨_, hr', rfl, rfl, rfl⟩
  refine h.finish ?_ ?_ ?_ ?_
  · intro a' ha' hpending
    rcases mem_updateRow.mp ha' with ⟨ha', -⟩ | ⟨a₀, -, -, rfl⟩
    · exact .inl ⟨ha', hpending⟩
    · cases hpending
  · intro a' _ r₀ hr₀ _
    obtain ⟨r', hr', hid, hcontent, -⟩ := hkept r₀ hr₀
    exact ⟨r', hr', hid, hcontent⟩
  · intro m i _ r₀ hr₀ _ hok
    obtain ⟨r', hr', hid, -, hsame⟩ := hkept r₀ hr₀
    exact ⟨r', hr', hid, hsame.trans hok⟩
  · intro a' ha' happroved
    rcases mem_updateRow.mp ha' with ⟨ha', -⟩ | ⟨a₀, ha₀, hid₀, rfl⟩
    · obtain ⟨r', hr', hid', hpublished, hrest⟩ := h.approved a' ha' happroved
      exact ⟨r', hinv.register.published_kept hchange hr' hpublished, hid', hpublished, hrest⟩
    · -- the approval is the pending one, and the factor the one checked at the start
      obtain ⟨⟨-, ⟨a₁, ha₁, hid₁, hfactor₁, -⟩, hof, -⟩, -, -, a₂, ha₂, hid₂, hpending⟩ :=
        hinv.sound_of_phase hphase
      obtain rfl : a₀ = a₁ := hinv.register.approval_eq ha₀ ha₁ (hid₀.trans hid₁.symm)
      obtain rfl : a₀ = a₂ := hinv.register.approval_eq ha₀ ha₂ (hid₀.trans hid₂.symm)
      have hfactor : a₀.factorId = r.id := hfactor₁.trans hof
      obtain ⟨r₁, hr₁, hr₁id, hlookup⟩ := h.proposed a₀ (.inl ⟨ha₀, hpending⟩)
      obtain ⟨r₂, hr₂, hr₂id, hok⟩ := h.checked n r.id (by rw [hphase]; rfl)
      obtain rfl : r₁ = r₂ :=
        hinv.register.factor_eq hr₁ hr₂ (hr₁id.trans (hfactor.trans hr₂id.symm))
      exact ⟨r₁.publish (calls n).user, mem_updateRow_self hr₁ hr₂id, hr₁id, rfl, hlookup, hok⟩

theorem rejected (h : ProposalsKept s) (a : Approval) (user : UserContext) (rejectionReason : String)
    (reply : Except Problem FactorReply) :
    ProposalsKept
      ({ s with
        approvals := updateRow Approval.id a.id (Approval.reject user rejectionReason)
          s.approvals }.finish n reply) := by
  refine h.finish ?_ (fun _ _ r hr _ => ⟨r, hr, rfl, rfl⟩)
    (fun _ _ _ r hr _ hok => ⟨r, hr, rfl, hok⟩) ?_
  · intro a' ha' hpending
    rcases mem_updateRow.mp ha' with ⟨ha', -⟩ | ⟨a₀, -, -, rfl⟩
    · exact .inl ⟨ha', hpending⟩
    · cases hpending
  · intro a' ha' happroved
    rcases mem_updateRow.mp ha' with ⟨ha', -⟩ | ⟨a₀, -, -, rfl⟩
    · exact h.approved a' ha' happroved
    · cases happroved

theorem lookup_cons_lt {content : FactorContent} {contents : List (Uuid × FactorContent)} {i j : Uuid}
    (h : i < j) : List.lookup i ((j, content) :: contents) = contents.lookup i := by
  have hne : (i == j) = false := beq_eq_false_iff_ne.mpr (Nat.ne_of_lt h)
  rw [List.lookup_cons, hne]

/-- The content that the insertion of a proposal finds is that of the committed row. -/
theorem propose (h : ProposalsKept s) (hinv : FactorInvariant seeded calls s) {r : FactorRow}
    {reasonCode : PublishReasonCode} (hphase : s.phase n = .unproposed r reasonCode) :
    ProposalsKept
      ({ s with
        newApprovals :=
          s.newApprovals ++ [(n, newApproval (calls n).user s.nextUuid r.id reasonCode)]
        nextUuid := s.nextUuid + 1
        proposedContent :=
          (s.nextUuid, ((s.factorById r.id).getD r).content) :: s.proposedContent }.enter n
        (.proposed (newApproval (calls n).user s.nextUuid r.id reasonCode))) := by
  obtain ⟨r', hr', hid, -⟩ : s.HasFactor r := hinv.sound_of_phase hphase
  have hrow : s.factorById r.id = some r' := by
    rw [← hid]
    exact findRow_of_mem hinv.register.factorIds hr'
  refine h.enter hinv rfl rfl (fun i hi => lookup_cons_lt hi) ?_ ?_
  · rintro a ⟨⟩
    refine ⟨r', hr', hid, ?_⟩
    rw [hrow]
    exact List.lookup_cons_self
  · intro i hi
    cases hi

theorem transition (h : ProposalsKept s) (hinv : FactorInvariant seeded calls s)
    (ht : FactorTransition calls s n s')
    (hsafe : ∀ edit ∈ (s.phase n).edit, s.SafeEdit edit.1 edit.2) : ProposalsKept s' := by
  cases ht with
  | wait => exact h
  | fail problem => exact h.answered _
  | unchanged factorUuid => exact h.answered _
  | create body =>
      refine h.enter hinv rfl rfl (fun _ _ => rfl) ?_ ?_
      · rintro a ⟨⟩
      · rintro i ⟨⟩
  | draft factorUuid changes => exact h.read hinv rfl rfl rfl rfl (by rintro i ⟨⟩)
  | fetch r reasonCode hr hok =>
      refine h.read hinv rfl rfl rfl rfl ?_
      rintro i ⟨⟩
      exact ⟨r, hr, rfl, hok⟩
  | consider a rejectionReason => exact h.read hinv rfl rfl rfl rfl (by rintro i ⟨⟩)
  | unproposed r reasonCode hphase => exact h.read hinv rfl rfl rfl rfl (by rintro i ⟨⟩)
  | approving r reasonCode a hphase ha hfactor hproposer hcreator =>
      refine h.read hinv rfl rfl rfl rfl ?_
      rintro i ⟨⟩
      exact h.checked n r.id (by rw [hphase]; rfl)
  | propose r reasonCode hphase => exact h.propose hinv hphase
  | patch r changes hr hdraft hfree => exact h.read hinv rfl rfl rfl rfl (by rintro i ⟨⟩)
  | publish r r' a hphase hr hid hdraft hfree =>
      refine h.read hinv rfl rfl rfl rfl ?_
      rintro i ⟨⟩
      exact h.checked n r.id (by rw [hphase]; rfl)
  | approve r a a' hphase ha hid hpending hfree =>
      refine h.read hinv rfl rfl rfl rfl ?_
      rintro i ⟨⟩
      exact h.checked n r.id (by rw [hphase]; rfl)
  | reject a a' rejectionReason ha hid hpending hfree =>
      exact h.read hinv rfl rfl rfl rfl (by rintro i ⟨⟩)
  | commitCreated row hphase => exact h.created row _
  | commitPatched factorUuid changes hphase =>
      exact h.patched hinv hphase (hsafe (factorUuid, changes) (by rw [hphase]; rfl))
  | commitProposed a hphase =>
      obtain ⟨-, hpending, -⟩ := hinv.sound_of_phase hphase
      exact h.proposal hphase hpending _
  | commitApproved r a hphase => exact h.published hinv hphase
  | commitRejected a rejectionReason hphase => exact h.rejected a _ rejectionReason _

theorem step (h : ProposalsKept s) (hinv : FactorInvariant seeded calls s) (e : FactorEvent)
    (hsafe : s.EditsSafely e) : ProposalsKept (s.step calls e) := by
  cases e with
  | advance n => exact h.transition hinv .advance hsafe
  | abort n =>
      rw [FactorState.step]
      split
      · exact h
      · exact h.answered _

end ProposalsKept

theorem FactorState.Initial.proposalsKept {s₀ : FactorState} (h₀ : s₀.Initial) :
    ProposalsKept s₀ where
  proposed a ha := by
    rcases ha with ⟨ha, -⟩ | ⟨n, hn⟩
    · rw [h₀.noApprovals] at ha
      cases ha
    · rw [h₀.phase n] at hn
      cases hn
  checked n i hi := by
    rw [h₀.phase n] at hi
    cases hi
  approved a ha := by
    rw [h₀.noApprovals] at ha
    cases ha

/-- In every interleaving whose edits are safe, a factor published through the API has the content
it had when its approval was proposed, and it is publishable. -/
theorem published_as_proposed (calls : ℕ → FactorCall) {s₀ : FactorState} (h₀ : s₀.Initial)
    (es : List FactorEvent)
    (hsafe : Along (FactorState.step calls) FactorState.EditsSafely s₀ es) :
    let s := run (FactorState.step calls) s₀ es
    ∀ r ∈ s.factors, r.isPublished = true → ¬ s₀.Seeded r.id →
      ∃ a ∈ s.approvals, a.decision = .approved ∧ a.factorId = r.id ∧
        s.proposedContent.lookup a.id = some r.content ∧ assertPublishable r = .ok () := by
  intro s r hr hpublished hseeded
  have h : FactorInvariant s₀.Seeded calls s ∧ ProposalsKept s := by
    apply hsafe.run_invariant (I := fun s => FactorInvariant s₀.Seeded calls s ∧ ProposalsKept s)
    · exact ⟨h₀.invariant calls, h₀.proposalsKept⟩
    · intro s e h he
      exact ⟨h.1.step e, h.2.step h.1 e he⟩
  obtain ⟨a, ha, happroved, hfactor⟩ := (h.1.register.approved r hr hpublished).resolve_left hseeded
  obtain ⟨r', hr', hid, -, hlookup, hok⟩ := h.2.approved a ha happroved
  obtain rfl : r' = r := h.1.register.factor_eq hr' hr (hid.trans hfactor)
  exact ⟨a, ha, happroved, hfactor, hlookup, hok⟩

/-- User 1 corrects the value of the draft, user 2 proposes it and user 3 approves. -/
def editThenPublish (n : ℕ) : FactorCall :=
  if n = 0 then ⟨⟨1, .editor, 0⟩, .patch 0 { value := some (some 3) }⟩
  else if n = 1 then ⟨⟨2, .admin, 0⟩, .publish 0 .initialPublication⟩
  else ⟨⟨3, .admin, 0⟩, .publish 0 .initialPublication⟩

def inOrder : List FactorEvent :=
  [.advance 0, .advance 0, .advance 0, .advance 1, .advance 1, .advance 1, .advance 1, .advance 2,
    .advance 2, .advance 2, .advance 2, .advance 2]

theorem editsSafely_of_edit_eq_none {s : FactorState} {n : ℕ} (h : (s.phase n).edit = none) :
    s.EditsSafely (.advance n) := by
  intro edit hedit
  rw [h] at hedit
  cases hedit

theorem safeEdit_of_alone {s : FactorState} {n : ℕ} {factorUuid : Uuid}
    {changes : FactorCatalogUpdate} (hphase : s.phase n = .patched factorUuid changes)
    (happrovals : s.approvals = []) (hothers : ∀ m, m ≠ n → s.phase m = .received) :
    s.EditsSafely (.advance n) := by
  have hphases : ∀ m, s.phase m = .received ∨ s.phase m = .patched factorUuid changes := by
    intro m
    by_cases hm : m = n
    · rw [hm]
      exact .inr hphase
    · exact .inl (hothers m hm)
  intro edit _ r _ _
  constructor
  · rintro _ a (⟨ha, -⟩ | ⟨m, hm⟩)
    · rw [happrovals] at ha
      cases ha
    · rcases hphases m with h | h
      · rw [h] at hm
        cases hm
      · rw [h] at hm
        cases hm
  · intro _ m hm
    rcases hphases m with h | h
    · rw [h] at hm
      cases hm
    · rw [h] at hm
      cases hm

theorem published_as_proposed_in_order :
    let s := run (FactorState.step editThenPublish) gasCatalog inOrder
    s.factors = [{ gasDraft with value := some 3, isPublished := true, publishedBy := some 3 }] ∧
      ∃ a ∈ s.approvals, a.decision = .approved ∧ a.factorId = 0 ∧
        s.proposedContent.lookup a.id = some { gasDraft.content with value := some 3 } := by
  intro s
  have hfactors : s.factors =
      [{ gasDraft with value := some 3, isPublished := true, publishedBy := some 3 }] := by
    decide +kernel
  have hsafe : Along (FactorState.step editThenPublish) FactorState.EditsSafely gasCatalog inOrder := by
    refine ⟨editsSafely_of_edit_eq_none rfl, editsSafely_of_edit_eq_none rfl, ?_, ?_⟩
    · apply safeEdit_of_alone (n := 0) rfl rfl
      intro m hm
      exact (Function.update_of_ne hm _ _).trans (Function.update_of_ne hm _ _)
    · refine ⟨?_, ?_, ?_, ?_, ?_, ?_, ?_, ?_, ?_, trivial⟩
      all_goals
        apply editsSafely_of_edit_eq_none
        decide +kernel
  refine ⟨hfactors, ?_⟩
  obtain ⟨a, ha, happroved, hfactor, hlookup, -⟩ := published_as_proposed editThenPublish
    gasCatalog_initial inOrder hsafe _ (by rw [hfactors]; exact List.mem_singleton_self _) rfl
    gasCatalog_not_seeded
  exact ⟨a, ha, happroved, hfactor, hlookup⟩

/-- User 1 edits the draft that user 2 has proposed, and user 3 approves it. -/
def editWhilePending (n : ℕ) : FactorCall :=
  if n = 0 then ⟨⟨2, .admin, 0⟩, .publish 0 .initialPublication⟩
  else if n = 1 then ⟨⟨1, .editor, 0⟩, .patch 0 { value := some (some 3) }⟩
  else ⟨⟨3, .admin, 0⟩, .publish 0 .initialPublication⟩

/-- User 1 marks the draft as to be confirmed while user 3 approves it. -/
def tbcWhileApproving (n : ℕ) : FactorCall :=
  if n = 0 then ⟨⟨2, .admin, 0⟩, .publish 0 .initialPublication⟩
  else if n = 1 then ⟨⟨1, .editor, 0⟩, .patch 0 { isTbc := some (some true) }⟩
  else ⟨⟨3, .admin, 0⟩, .publish 0 .initialPublication⟩

/-- An edit between the proposal and the approval is published without having been proposed, and one
between the check of the approver and the update without having been checked. -/
theorem unproposed_content_published :
    (let s := run (FactorState.step editWhilePending) gasCatalog
      [.advance 0, .advance 0, .advance 0, .advance 0, .advance 1, .advance 1, .advance 1, .advance 2,
        .advance 2, .advance 2, .advance 2, .advance 2]
    ∃ r ∈ s.factors, r.isPublished = true ∧ ∀ a ∈ s.approvals, a.decision = .approved →
      a.factorId = r.id → s.proposedContent.lookup a.id ≠ some r.content) ∧
    let s := run (FactorState.step tbcWhileApproving) gasCatalog
      [.advance 0, .advance 0, .advance 0, .advance 0, .advance 2, .advance 1, .advance 1, .advance 1,
        .advance 2, .advance 2, .advance 2, .advance 2]
    ∃ r ∈ s.factors, r.isPublished = true ∧ assertPublishable r ≠ .ok () := by
  constructor
  · decide +kernel
  · decide +kernel

end GhgTool
