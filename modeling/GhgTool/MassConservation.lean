import Mathlib.Tactic.Ring
import GhgTool.Reconciliation

/-!
# Mass balance of a reconciliation

A reconciliation reads its rows through two dictionaries, so of the rows that share a key only the
last counts. Its totals are the sums over all rows, and its result does not depend on the order of
the rows, exactly when the rows that share a key are interchangeable and the overwritten ones sum
to nothing.
-/

namespace GhgTool

/-- The tonnes of a row; a missing figure counts as zero. -/
def EmissionDict.amount (row : EmissionDict) : ℚ :=
  row.tco2e.getD 0

structure Conserves (stats : FloatStatistics) (opts : ReconcileOptions)
    (prior current : List EmissionDict) (result : ReconciliationResult) : Prop where
  totalPrior : result.totalPrior = (prior.map EmissionDict.amount).sum
  totalCurrent : result.totalCurrent = (current.map EmissionDict.amount).sum
  deltas : result.totalCurrent - result.totalPrior =
    (result.rows.map ReconciliationDelta.absDelta).sum
  unordered : ∀ prior' current', prior'.Perm prior → current'.Perm current →
    reconcile stats opts prior' current' = .ok result

/-- Rows with the same key have the same tonnes, and agree on whether the factor version changed
where that decides the cause. -/
structure Interchangeable (opts : ReconcileOptions) (prior current : List EmissionDict) :
    Prop where
  priorTco2e : ∀ p ∈ prior, ∀ p' ∈ prior, p.key = p'.key → p.tco2e = p'.tco2e
  currentTco2e : ∀ c ∈ current, ∀ c' ∈ current, c.key = c'.key → c.tco2e = c'.tco2e
  cause : ∀ p ∈ prior, ∀ p' ∈ prior, ∀ c ∈ current, ∀ c' ∈ current,
    p.key = c.key → p'.key = c.key → c'.key = c.key → c.key ∉ opts.methodologyFlags →
      (p.factorVersion = c.factorVersion ↔ p'.factorVersion = c'.factorVersion)

/-- The rows that a dictionary drops weigh nothing together. -/
def NothingLost (rows : List EmissionDict) : Prop :=
  ((overwritten EmissionDict.key rows).map EmissionDict.amount).sum = 0

section Totals

variable {stats : FloatStatistics} {opts : ReconcileOptions} {prior current : List EmissionDict}
  {result : ReconciliationResult} {keys : List ReconciliationKey}
  {baselineByKey3 : Dict GroupKey YoYStatsBaseline}

/-- The result of a reconciliation, read off its keys. -/
structure Reports (opts : ReconcileOptions) (baselineByKey3 : Dict GroupKey YoYStatsBaseline)
    (prior current : List EmissionDict) (keys : List ReconciliationKey)
    (result : ReconciliationResult) : Prop where
  rows : result.rows = keys.map (keyDelta opts baselineByKey3 prior current)
  totalPrior : result.totalPrior = (keys.map fun k =>
    ((Dict.indexBy EmissionDict.key prior).get? k).elim 0 EmissionDict.amount).sum
  totalCurrent : result.totalCurrent = (keys.map fun k =>
    ((Dict.indexBy EmissionDict.key current).get? k).elim 0 EmissionDict.amount).sum

theorem amount_eq (row : Option EmissionDict) :
    (row.bind EmissionDict.tco2e).getD 0 = row.elim 0 EmissionDict.amount := by
  cases row <;> rfl

theorem reports_of_conclude (h : conclude opts (accumulate opts
    (keys.map (keyDelta opts baselineByKey3 prior current))) = .ok result) :
    Reports opts baselineByKey3 prior current keys result := by
  obtain ⟨result', h', hprior, hcurrent, hrows⟩ := conclude_succeeds opts
    (accumulate opts (keys.map (keyDelta opts baselineByKey3 prior current)))
  obtain rfl : result' = result := Except.ok.inj (h'.symm.trans h)
  obtain ⟨hrows', hprior', hcurrent'⟩ := accumulate_shows opts
    (keys.map (keyDelta opts baselineByKey3 prior current))
  refine ⟨hrows.trans hrows', ?_, ?_⟩
  · rw [hprior, hprior', List.map_map]
    exact congrArg List.sum (List.map_congr_left fun k _ => amount_eq _)
  · rw [hcurrent, hcurrent', List.map_map]
    exact congrArg List.sum (List.map_congr_left fun k _ => amount_eq _)

theorem sum_absDelta (hreports : Reports opts baselineByKey3 prior current keys result) :
    result.totalCurrent - result.totalPrior =
      (result.rows.map ReconciliationDelta.absDelta).sum := by
  have hdelta : ∀ k, (keyDelta opts baselineByKey3 prior current k).absDelta =
      ((Dict.indexBy EmissionDict.key current).get? k).elim 0 EmissionDict.amount -
        ((Dict.indexBy EmissionDict.key prior).get? k).elim 0 EmissionDict.amount := by
    intro k
    rw [← amount_eq, ← amount_eq]
    rfl
  have hsum : result.totalCurrent = result.totalPrior +
      (result.rows.map ReconciliationDelta.absDelta).sum := by
    rw [hreports.totalPrior, hreports.totalCurrent, hreports.rows, List.map_map, ← List.sum_map_add]
    refine congrArg List.sum (List.map_congr_left fun k _ => ?_)
    rw [Function.comp_apply, hdelta]
    ring
  rw [hsum]
  ring

theorem totals_add_overwritten (hkeys : sorted keyLt (allKeys prior current) = .ok keys)
    (hreports : Reports opts baselineByKey3 prior current keys result) :
    result.totalPrior + ((overwritten EmissionDict.key prior).map EmissionDict.amount).sum =
        (prior.map EmissionDict.amount).sum ∧
      result.totalCurrent + ((overwritten EmissionDict.key current).map EmissionDict.amount).sum =
        (current.map EmissionDict.amount).sum := by
  have hperm := sorted_perm hkeys
  have hnodup : keys.Nodup := hperm.nodup_iff.mpr nodup_allKeys
  rw [hreports.totalPrior, hreports.totalCurrent]
  constructor
  · exact sum_indexBy _ hnodup fun k hk => hperm.mem_iff.mpr (mem_allKeys.mpr (.inl hk))
  · exact sum_indexBy _ hnodup fun k hk => hperm.mem_iff.mpr (mem_allKeys.mpr (.inr hk))

end Totals

section Order

variable {stats : FloatStatistics} {opts : ReconcileOptions}
  {prior prior' current current' : List EmissionDict} {result : ReconciliationResult}
  {keys : List ReconciliationKey} {baselineByKey3 : Dict GroupKey YoYStatsBaseline}

theorem inferCause_eq_iff {p p' c c' : EmissionDict} {flagged : Bool} :
    inferCause (some p) (some c) flagged = inferCause (some p') (some c') flagged ↔
      (flagged = false →
        (p.factorVersion = c.factorVersion ↔ p'.factorVersion = c'.factorVersion)) := by
  cases flagged with
  | true => simp [inferCause]
  | false =>
      by_cases h : p.factorVersion = c.factorVersion
      · by_cases h' : p'.factorVersion = c'.factorVersion <;> simp [inferCause, h, h']
      · by_cases h' : p'.factorVersion = c'.factorVersion <;> simp [inferCause, h, h']

theorem sorted_allKeys_perm (hprior : prior'.Perm prior) (hcurrent : current'.Perm current)
    (hkeys : sorted keyLt (allKeys prior current) = .ok keys) :
    sorted keyLt (allKeys prior' current') = .ok keys := by
  refine sorted_of_perm strictLt_key nodup_allKeys ?_ hkeys
  rw [List.perm_ext_iff_of_nodup nodup_allKeys nodup_allKeys]
  intro k
  rw [mem_allKeys, mem_allKeys, (hprior.map _).mem_iff, (hcurrent.map _).mem_iff]

theorem tco2e_get?_perm {rows rows' : List EmissionDict} (hperm : rows'.Perm rows)
    (h : ∀ r ∈ rows, ∀ r' ∈ rows, r.key = r'.key → r.tco2e = r'.tco2e) (k : ReconciliationKey) :
    ((Dict.indexBy EmissionDict.key rows').get? k).bind EmissionDict.tco2e =
      ((Dict.indexBy EmissionDict.key rows).get? k).bind EmissionDict.tco2e := by
  rcases Dict.get?_indexBy_perm hperm k with ⟨hnone', hnone⟩ |
    ⟨r', hr', r, hr, hkey', hkey, hget', hget⟩
  · rw [hnone, hnone']
  · rw [hget, hget']
    exact h r' hr' r hr (hkey'.trans hkey.symm)

theorem inferCause_perm (h : Interchangeable opts prior current) (hprior : prior'.Perm prior)
    (hcurrent : current'.Perm current) (k : ReconciliationKey) :
    inferCause ((Dict.indexBy EmissionDict.key prior').get? k)
        ((Dict.indexBy EmissionDict.key current').get? k) (k ∈ opts.methodologyFlags) =
      inferCause ((Dict.indexBy EmissionDict.key prior).get? k)
        ((Dict.indexBy EmissionDict.key current).get? k) (k ∈ opts.methodologyFlags) := by
  rcases Dict.get?_indexBy_perm hprior k with ⟨hnone', hnone⟩ |
    ⟨p', hp', p, hp, hpkey', hpkey, hpget', hpget⟩
  · rcases Dict.get?_indexBy_perm hcurrent k with ⟨hcnone', hcnone⟩ |
      ⟨c', hc', c, hc, hckey', hckey, hcget', hcget⟩
    · rw [hnone, hnone', hcnone, hcnone']
    · rw [hnone, hnone', hcget, hcget']
      rfl
  · rcases Dict.get?_indexBy_perm hcurrent k with ⟨hcnone', hcnone⟩ |
      ⟨c', hc', c, hc, hckey', hckey, hcget', hcget⟩
    · rw [hpget, hpget', hcnone, hcnone']
      rfl
    · rw [hpget, hpget', hcget, hcget', inferCause_eq_iff]
      intro hflag
      refine h.cause p' hp' p hp c' hc' c hc (hpkey'.trans hckey'.symm) (hpkey.trans hckey'.symm)
        (hckey.trans hckey'.symm) ?_
      rw [hckey']
      exact of_decide_eq_false hflag

theorem keyDelta_perm (h : Interchangeable opts prior current) (hprior : prior'.Perm prior)
    (hcurrent : current'.Perm current) :
    keyDelta opts baselineByKey3 prior' current' = keyDelta opts baselineByKey3 prior current := by
  funext k
  simp only [keyDelta, deltaOf, tco2e_get?_perm hprior h.priorTco2e k,
    tco2e_get?_perm hcurrent h.currentTco2e k, inferCause_perm h hprior hcurrent k]

theorem rows_of_perm (hbaselines : baselines stats opts = .ok baselineByKey3)
    (hkeys : sorted keyLt (allKeys prior current) = .ok keys) (hprior : prior'.Perm prior)
    (hcurrent : current'.Perm current) (h : reconcile stats opts prior' current' = .ok result) :
    result.rows = keys.map (keyDelta opts baselineByKey3 prior' current') := by
  obtain ⟨b, ks, hb, hks, hconclude⟩ := reconcile_eq_ok.mp h
  obtain rfl : b = baselineByKey3 := Except.ok.inj (hb.symm.trans hbaselines)
  obtain rfl : ks = keys :=
    Except.ok.inj (hks.symm.trans (sorted_allKeys_perm hprior hcurrent hkeys))
  exact (reports_of_conclude hconclude).rows

/-- Rows that share a key each come last in some order, so a result that holds in every order shows
nothing by which they differ. -/
theorem interchangeable_of_unordered (hbaselines : baselines stats opts = .ok baselineByKey3)
    (hkeys : sorted keyLt (allKeys prior current) = .ok keys)
    (hunordered : ∀ prior' current', prior'.Perm prior → current'.Perm current →
      reconcile stats opts prior' current' = .ok result) :
    Interchangeable opts prior current := by
  have hsame : ∀ {prior₁ prior₂ current₁ current₂ : List EmissionDict} {k : ReconciliationKey},
      prior₁.Perm prior → prior₂.Perm prior → current₁.Perm current → current₂.Perm current →
      k ∈ allKeys prior current →
      keyDelta opts baselineByKey3 prior₁ current₁ k =
        keyDelta opts baselineByKey3 prior₂ current₂ k := by
    intro prior₁ prior₂ current₁ current₂ k hp₁ hp₂ hc₁ hc₂ hk
    have h₁ := rows_of_perm hbaselines hkeys hp₁ hc₁ (hunordered _ _ hp₁ hc₁)
    have h₂ := rows_of_perm hbaselines hkeys hp₂ hc₂ (hunordered _ _ hp₂ hc₂)
    exact List.map_inj_left.mp (h₁.symm.trans h₂) k ((sorted_perm hkeys).mem_iff.mpr hk)
  constructor
  case priorTco2e =>
    intro p hp p' hp' hkey
    obtain ⟨prior₁, hperm₁, hget₁⟩ := Dict.exists_perm_get? EmissionDict.key hp
    obtain ⟨prior₂, hperm₂, hget₂⟩ := Dict.exists_perm_get? EmissionDict.key hp'
    have hdelta := congrArg ReconciliationDelta.priorTco2e (hsame hperm₁ hperm₂ (.refl _) (.refl _)
      (mem_allKeys.mpr (.inl (List.mem_map_of_mem hp))))
    rw [← hkey] at hget₂
    simpa only [keyDelta, deltaOf, hget₁, hget₂, Option.bind_some] using hdelta
  case currentTco2e =>
    intro c hc c' hc' hkey
    obtain ⟨current₁, hperm₁, hget₁⟩ := Dict.exists_perm_get? EmissionDict.key hc
    obtain ⟨current₂, hperm₂, hget₂⟩ := Dict.exists_perm_get? EmissionDict.key hc'
    have hdelta := congrArg ReconciliationDelta.currentTco2e (hsame (.refl _) (.refl _) hperm₁
      hperm₂ (mem_allKeys.mpr (.inr (List.mem_map_of_mem hc))))
    rw [← hkey] at hget₂
    simpa only [keyDelta, deltaOf, hget₁, hget₂, Option.bind_some] using hdelta
  case cause =>
    intro p hp p' hp' c hc c' hc' hpkey hpkey' hckey hflag
    obtain ⟨prior₁, hpperm₁, hpget₁⟩ := Dict.exists_perm_get? EmissionDict.key hp
    obtain ⟨prior₂, hpperm₂, hpget₂⟩ := Dict.exists_perm_get? EmissionDict.key hp'
    obtain ⟨current₁, hcperm₁, hcget₁⟩ := Dict.exists_perm_get? EmissionDict.key hc
    obtain ⟨current₂, hcperm₂, hcget₂⟩ := Dict.exists_perm_get? EmissionDict.key hc'
    have hdelta := congrArg ReconciliationDelta.causeCategory (hsame hpperm₁ hpperm₂ hcperm₁ hcperm₂
      (mem_allKeys.mpr (.inr (List.mem_map_of_mem hc))))
    rw [hpkey] at hpget₁
    rw [hpkey'] at hpget₂
    rw [hckey] at hcget₂
    simp only [keyDelta, deltaOf, hpget₁, hpget₂, hcget₁, hcget₂] at hdelta
    exact inferCause_eq_iff.mp hdelta (decide_eq_false hflag)

end Order

/-- A reconciliation conserves the mass of its rows exactly when it returns, the rows that share a
key are interchangeable, and those it drops weigh nothing. -/
theorem reconcile_conserves_iff (stats : FloatStatistics) (opts : ReconcileOptions)
    (prior current : List EmissionDict) :
    (∃ result, reconcile stats opts prior current = .ok result ∧
        Conserves stats opts prior current result) ↔
      Sortable opts prior current ∧ Interchangeable opts prior current ∧ NothingLost prior ∧
        NothingLost current := by
  constructor
  · rintro ⟨result, h, hcons⟩
    obtain ⟨baselineByKey3, keys, hbaselines, hkeys, hconclude⟩ := reconcile_eq_ok.mp h
    obtain ⟨hprior, hcurrent⟩ := totals_add_overwritten hkeys (reports_of_conclude hconclude)
    rw [hcons.totalPrior] at hprior
    rw [hcons.totalCurrent] at hcurrent
    exact ⟨reconcile_succeeds.mp ⟨result, h⟩,
      interchangeable_of_unordered hbaselines hkeys hcons.unordered,
      left_eq_add.mp hprior.symm, left_eq_add.mp hcurrent.symm⟩
  · rintro ⟨hsortable, hinter, hprior, hcurrent⟩
    obtain ⟨result, h⟩ := reconcile_succeeds.mpr hsortable
    obtain ⟨baselineByKey3, keys, hbaselines, hkeys, hconclude⟩ := reconcile_eq_ok.mp h
    have hreports := reports_of_conclude hconclude
    obtain ⟨htotal, htotal'⟩ := totals_add_overwritten hkeys hreports
    rw [hprior, add_zero] at htotal
    rw [hcurrent, add_zero] at htotal'
    refine ⟨result, h, htotal, htotal', sum_absDelta hreports, ?_⟩
    intro prior' current' hperm hperm'
    refine reconcile_eq_ok.mpr ⟨baselineByKey3, keys, hbaselines,
      sorted_allKeys_perm hperm hperm' hkeys, ?_⟩
    rw [keyDelta_perm hinter hperm hperm']
    exact hconclude

/-- Purchased goods as the two tracks report them: ten tonnes each, of no site. -/
def twoTrackTable : EmissionsTable where
  rows :=
    [{ gridRow with rawScope := .three, scope := .three, subScope := .cat1, codiceSito := none },
      { gridRow with
        id := 2, rawScope := .three, scope := .three, subScope := .cat1, codiceSito := none
        gwpSet := .ar5, regulatoryStream := .euEtsPhaseIv }]
  checks := by simp [EmissionRow.Checks, gridRow]
  pk := by simp [gridRow]
  naturalKey := by simp [EmissionRow.NaturalKeyClash, EmissionRow.naturalKey, gridRow]
  exclusion := by simp [EmissionRow.TemporalClash, gridRow]
  supersededFk := by simp [gridRow]

/-- Of the twenty tonnes of the ledger a reconciliation reports ten. -/
theorem reconcile_drops_a_track :
    let rows := fetchActiveEmissions twoTrackTable 1 2024
    (rows.map EmissionDict.amount).sum = 20 ∧
      ∃ result, reconcile noStatistics {} rows rows = .ok result ∧ result.totalPrior = 10 ∧
        ¬ Conserves noStatistics {} rows rows result := by
  intro rows
  have hsum : (rows.map EmissionDict.amount).sum = 20 := by decide +kernel
  have htotal : (reconcile noStatistics {} rows rows).map ReconciliationResult.totalPrior =
      .ok 10 := by decide +kernel
  cases h : reconcile noStatistics {} rows rows with
  | error e =>
      rw [h] at htotal
      cases htotal
  | ok result =>
      rw [h] at htotal
      have hprior : result.totalPrior = 10 := Except.ok.inj htotal
      refine ⟨hsum, result, rfl, hprior, fun hcons => ?_⟩
      rw [hcons.totalPrior, hsum] at hprior
      exact absurd hprior (by decide)

end GhgTool
