import GhgTool.AuthSystem
import Mathlib.Data.List.Nodup

/-!
# The invariant of the session table

Only the access token of a pair is entered in `auth.sessions`. In every state reached from a
database without tokens, each full access token has its own session row, owned by the token's
user, and no refresh token has one; a revoked row stays revoked.
-/

namespace GhgTool

variable {env : Platform} {r : Request} {s s' : AuthState}

structure Consistent (s : AuthState) : Prop where
  userIds : (s.users.map User.id).Nodup
  user_lt : ∀ u ∈ s.users, u.id < s.nextUuid
  issued_lt : ∀ c ∈ s.issued, c.jti < s.nextUuid
  session_lt : ∀ row ∈ s.sessions, row.jti < s.nextUuid
  sessionJtis : (s.sessions.map SessionRow.jti).Nodup
  owner : ∀ c ∈ s.issued, ∃ u ∈ s.users, u.id = c.sub ∧ u.tenantId = c.tenantId
  recorded : ∀ c ∈ s.issued, c.tokenType = .access → c.pre2fa = false →
    ∃ row ∈ s.sessions, row.jti = c.jti ∧ row.userId = c.sub ∧ row.tenantId = c.tenantId
  unrecorded : ∀ c ∈ s.issued, c.tokenType = .refresh → ∀ row ∈ s.sessions, row.jti ≠ c.jti
  roleless : ∀ c ∈ s.issued, c.tokenType = .refresh → c.role = none

/-- A database with users and no tokens. -/
structure Initial (s : AuthState) : Prop where
  userIds : (s.users.map User.id).Nodup
  user_lt : ∀ u ∈ s.users, u.id < s.nextUuid
  noTokens : s.issued = []
  noSessions : s.sessions = []

instance (s : AuthState) : Decidable (Initial s) :=
  decidable_of_iff
    ((s.users.map User.id).Nodup ∧ (∀ u ∈ s.users, u.id < s.nextUuid) ∧ s.issued = [] ∧
      s.sessions = [])
    ⟨fun ⟨h₁, h₂, h₃, h₄⟩ => ⟨h₁, h₂, h₃, h₄⟩, fun ⟨h₁, h₂, h₃, h₄⟩ => ⟨h₁, h₂, h₃, h₄⟩⟩

theorem Initial.consistent (h : Initial s) : Consistent s where
  userIds := h.userIds
  user_lt := h.user_lt
  issued_lt := by simp [h.noTokens]
  session_lt := by simp [h.noSessions]
  sessionJtis := by simp [h.noSessions]
  owner := by simp [h.noTokens]
  recorded := by simp [h.noTokens]
  unrecorded := by simp [h.noTokens]
  roleless := by simp [h.noTokens]

def editorAndAdmin : AuthState where
  users :=
    [⟨0, 0, "ada", "ada@example.org", "correct horse", .editor, true, none, false, 0⟩,
      ⟨1, 0, "bob", "bob@example.org", "battery staple", .admin, true, none, false, 0⟩]
  nextUuid := 2
  now := 1000

example : Initial editorAndAdmin := by decide

section RevokeRow

variable (now : ℕ) (p : SessionRow → Bool) (row : SessionRow)

@[simp]
theorem revokeRow_jti : (revokeRow now p row).jti = row.jti := by
  unfold revokeRow
  split <;> rfl

@[simp]
theorem revokeRow_userId : (revokeRow now p row).userId = row.userId := by
  unfold revokeRow
  split <;> rfl

@[simp]
theorem revokeRow_tenantId : (revokeRow now p row).tenantId = row.tenantId := by
  unfold revokeRow
  split <;> rfl

theorem revokeRow_revoked (h : row.revokedAt.isSome) :
    (revokeRow now p row).revokedAt.isSome := by
  unfold revokeRow
  split
  · rfl
  · exact h

theorem revokeRow_of_mem (h : p row = true) : (revokeRow now p row).revokedAt.isSome := by
  unfold revokeRow
  split
  · rfl
  · next hkeep => simpa [h, Option.isSome_iff_ne_none] using hkeep

end RevokeRow

theorem map_revokeRow_jti (now : ℕ) (p : SessionRow → Bool) (rows : List SessionRow) :
    (rows.map (revokeRow now p)).map SessionRow.jti = rows.map SessionRow.jti := by
  simp [List.map_map, Function.comp_def]

theorem mem_issued_issueSession {sub : Uuid} {role : RoleCode} {tenantId : Uuid} {c : Claims}
    (h : c ∈ (issueSession env s sub role tenantId).issued) :
    c = (createTokenPair env s sub role tenantId).1.access ∨
      c = (createTokenPair env s sub role tenantId).1.refresh ∨ c ∈ s.issued := by
  rcases List.mem_cons.mp h with h | h
  · exact .inl h
  · exact .inr (List.mem_cons.mp h)

theorem mem_sessions_issueSession {sub : Uuid} {role : RoleCode} {tenantId : Uuid}
    {row : SessionRow} (h : row ∈ (issueSession env s sub role tenantId).sessions) :
    row ∈ s.sessions ∨ row = ⟨s.nextUuid + 2, sub, tenantId, s.nextUuid, none⟩ := by
  rcases List.mem_append.mp h with h | h
  · exact .inl h
  · exact .inr (List.mem_singleton.mp h)

theorem issueSession_sessions (sub : Uuid) (role : RoleCode) (tenantId : Uuid) :
    (issueSession env s sub role tenantId).sessions =
      s.sessions ++ [⟨s.nextUuid + 2, sub, tenantId, s.nextUuid, none⟩] :=
  rfl

theorem issueSession_nextUuid (sub : Uuid) (role : RoleCode) (tenantId : Uuid) :
    (issueSession env s sub role tenantId).nextUuid = s.nextUuid + 3 :=
  rfl

theorem createTokenPair_access_jti (sub : Uuid) (role : RoleCode) (tenantId : Uuid) :
    (createTokenPair env s sub role tenantId).1.access.jti = s.nextUuid :=
  rfl

theorem createTokenPair_refresh_jti (sub : Uuid) (role : RoleCode) (tenantId : Uuid) :
    (createTokenPair env s sub role tenantId).1.refresh.jti = s.nextUuid + 1 :=
  rfl

/-! ## One lemma for each write -/

namespace Consistent

theorem revokeSessions (h : Consistent s) (p : SessionRow → Bool) :
    Consistent (GhgTool.revokeSessions s p) := by
  refine { h with session_lt := ?_, sessionJtis := ?_, recorded := ?_, unrecorded := ?_ }
  · intro row hrow
    obtain ⟨old, hold, rfl⟩ := List.mem_map.mp hrow
    rw [revokeRow_jti]
    exact h.session_lt old hold
  · exact (map_revokeRow_jti s.now p s.sessions) ▸ h.sessionJtis
  · intro c hc htype hfull
    obtain ⟨row, hrow, hjti, huser, htenant⟩ := h.recorded c hc htype hfull
    refine ⟨_, List.mem_map_of_mem hrow, ?_, ?_, ?_⟩
    · rw [revokeRow_jti, hjti]
    · rw [revokeRow_userId, huser]
    · rw [revokeRow_tenantId, htenant]
  · intro c hc htype row hrow
    obtain ⟨old, hold, rfl⟩ := List.mem_map.mp hrow
    rw [revokeRow_jti]
    exact h.unrecorded c hc htype old hold

theorem updateUsers (h : Consistent s) (p : User → Bool) (f : User → User)
    (hid : ∀ u, (f u).id = u.id) (htenant : ∀ u, (f u).tenantId = u.tenantId) :
    Consistent (GhgTool.updateUsers s p f) := by
  have hid' : ∀ u, (if p u then f u else u).id = u.id := by
    intro u
    split
    · exact hid u
    · rfl
  have htenant' : ∀ u, (if p u then f u else u).tenantId = u.tenantId := by
    intro u
    split
    · exact htenant u
    · rfl
  refine { h with userIds := ?_, user_lt := ?_, owner := ?_ }
  · have hmap : (GhgTool.updateUsers s p f).users.map User.id = s.users.map User.id := by
      simp [GhgTool.updateUsers, List.map_map, Function.comp_def, hid']
    exact hmap ▸ h.userIds
  · intro u hu
    obtain ⟨v, hv, rfl⟩ := List.mem_map.mp hu
    rw [hid']
    exact h.user_lt v hv
  · intro c hc
    obtain ⟨u, hu, hsub, hten⟩ := h.owner c hc
    exact ⟨_, List.mem_map_of_mem hu, by rw [hid', hsub], by rw [htenant', hten]⟩

theorem drawUuids (h : Consistent s) (n : ℕ) :
    Consistent { s with nextUuid := s.nextUuid + n } :=
  { h with
    user_lt := fun u hu => Nat.lt_add_right n (h.user_lt u hu)
    issued_lt := fun c hc => Nat.lt_add_right n (h.issued_lt c hc)
    session_lt := fun row hrow => Nat.lt_add_right n (h.session_lt row hrow) }

theorem insertUser (h : Consistent s) (u : User) (hid : u.id = s.nextUuid) :
    Consistent { s with users := s.users ++ [u], nextUuid := s.nextUuid + 1 } := by
  have hdraw := h.drawUuids 1
  refine { hdraw with userIds := ?_, user_lt := ?_, owner := ?_ }
  · rw [List.map_append, List.map_singleton, List.nodup_append]
    refine ⟨h.userIds, List.nodup_singleton _, ?_⟩
    intro a ha b hb
    obtain ⟨v, hv, rfl⟩ := List.mem_map.mp ha
    rw [List.mem_singleton] at hb
    have hlt := h.user_lt v hv
    rw [hb, hid]
    exact Nat.ne_of_lt hlt
  · intro v hv
    rcases List.mem_append.mp hv with hv | hv
    · exact hdraw.user_lt v hv
    · rw [List.mem_singleton] at hv
      rw [hv, hid]
      exact Nat.lt_succ_self _
  · intro c hc
    obtain ⟨v, hv, howner⟩ := h.owner c hc
    exact ⟨v, List.mem_append_left _ hv, howner⟩

theorem owner_of_known (h : Consistent s) {sub tenantId : Uuid} (hknown : s.Known sub tenantId) :
    ∃ u ∈ s.users, u.id = sub ∧ u.tenantId = tenantId := by
  rcases hknown with huser | ⟨c, hc, rfl, rfl⟩
  · exact huser
  · exact h.owner c hc

theorem issuePartial (h : Consistent s) {sub tenantId : Uuid} (role : RoleCode)
    (hknown : s.Known sub tenantId) : Consistent (GhgTool.issuePartial s sub role tenantId) := by
  have hdraw := h.drawUuids 1
  refine
    { hdraw with issued_lt := ?_, owner := ?_, recorded := ?_, unrecorded := ?_, roleless := ?_ }
  all_goals
    intro c hc
    rcases List.mem_cons.mp hc with rfl | hc
  · exact Nat.lt_succ_self _
  · exact hdraw.issued_lt c hc
  · exact h.owner_of_known hknown
  · exact h.owner c hc
  · intro _ hfull
    cases hfull
  · exact h.recorded c hc
  · intro htype
    cases htype
  · exact h.unrecorded c hc
  · intro htype
    cases htype
  · exact h.roleless c hc

theorem issueSession (h : Consistent s) {sub tenantId : Uuid} (role : RoleCode)
    (hknown : s.Known sub tenantId) :
    Consistent (GhgTool.issueSession env s sub role tenantId) := by
  have hdraw := h.drawUuids 3
  refine
    { hdraw with
      issued_lt := ?_, session_lt := ?_, sessionJtis := ?_, owner := ?_, recorded := ?_
      unrecorded := ?_, roleless := ?_ }
  · intro c hc
    rcases mem_issued_issueSession hc with rfl | rfl | hc
    · rw [createTokenPair_access_jti, issueSession_nextUuid]
      exact Nat.lt_add_of_pos_right (Nat.succ_pos 2)
    · rw [createTokenPair_refresh_jti, issueSession_nextUuid]
      exact Nat.add_lt_add_left (by decide : 1 < 3) s.nextUuid
    · exact hdraw.issued_lt c hc
  · intro row hrow
    rcases mem_sessions_issueSession hrow with hrow | rfl
    · exact hdraw.session_lt row hrow
    · rw [issueSession_nextUuid]
      exact Nat.lt_add_of_pos_right (Nat.succ_pos 2)
  · rw [issueSession_sessions, List.map_append, List.map_singleton, List.nodup_append]
    refine ⟨h.sessionJtis, List.nodup_singleton _, ?_⟩
    intro a ha b hb
    obtain ⟨row, hrow, rfl⟩ := List.mem_map.mp ha
    rw [List.mem_singleton] at hb
    rw [hb]
    exact Nat.ne_of_lt (h.session_lt row hrow)
  · intro c hc
    rcases mem_issued_issueSession hc with rfl | rfl | hc
    · exact h.owner_of_known hknown
    · exact h.owner_of_known hknown
    · exact h.owner c hc
  · intro c hc htype hfull
    rcases mem_issued_issueSession hc with rfl | rfl | hc
    · exact ⟨_, List.mem_append_right _ (List.mem_singleton_self _), rfl, rfl, rfl⟩
    · cases htype
    · obtain ⟨row, hrow, hmatch⟩ := h.recorded c hc htype hfull
      exact ⟨row, List.mem_append_left _ hrow, hmatch⟩
  · intro c hc htype row hrow
    -- the new refresh jti is the second draw, the new row holds the first
    rcases mem_issued_issueSession hc with rfl | rfl | hc
    · cases htype
    · rcases mem_sessions_issueSession hrow with hrow | rfl
      · exact Nat.ne_of_lt (Nat.lt_succ_of_lt (h.session_lt row hrow))
      · exact Nat.ne_of_lt (Nat.lt_succ_self _)
    · rcases mem_sessions_issueSession hrow with hrow | rfl
      · exact h.unrecorded c hc htype row hrow
      · exact (Nat.ne_of_lt (h.issued_lt c hc)).symm
  · intro c hc htype
    rcases mem_issued_issueSession hc with rfl | rfl | hc
    · cases htype
    · rfl
    · exact h.roleless c hc htype

theorem write (h : Consistent s) (hw : Write env r s s') : Consistent s' := by
  cases hw with
  | revokeSessions p => exact h.revokeSessions p
  | blacklist c => exact { h with }
  | updateUsers p f hid htenant _ => exact h.updateUsers p f hid htenant
  | insertUser u hid => exact h.insertUser u hid
  | issueSession sub role tenantId hknown => exact h.issueSession role hknown
  | issuePartial sub role tenantId hknown => exact h.issuePartial role hknown
  | drawUuids n => exact h.drawUuids n
  | consume jtis => exact { h with }
  | cache entries => exact { h with }
  | tick seconds => exact { h with }

theorem writes (h : Consistent s) (hw : Writes env r s s') : Consistent s' := by
  induction hw with
  | refl => exact h
  | tail _ hlast ih => exact ih.write hlast

theorem step (h : Consistent s) (r : Request) : Consistent (GhgTool.step env s r) :=
  h.writes (step_writes r)

theorem run (h : Consistent s) (rs : List Request) :
    Consistent (GhgTool.run (GhgTool.step env) s rs) := by
  induction rs generalizing s with
  | nil => exact h
  | cons r rs ih => exact ih (h.step r)

end Consistent

end GhgTool
