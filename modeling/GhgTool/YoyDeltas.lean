import GhgTool.Neighbours
import GhgTool.YoyStats

/-!
# Which years the year-on-year deltas join

`compute_yoy_baseline` for keys of any type: the reconciliation has keys of three parts, the ranking
of hot spots the code of a category. The loop joins the years that are neighbours among the years of
the history, which need not be consecutive years.
-/

namespace GhgTool.YoyDeltas

/-! ## The service, for any keys -/

section Source

variable {κ β : Type} [DecidableEq κ]

abbrev KeyedHistory (κ : Type) := Dict ℕ (Dict κ ℚ)

def ofYear (history : KeyedHistory κ) (year : ℕ) : Dict κ ℚ :=
  (history.get? year).getD .empty

def addDelta (prevMap nextMap : Dict κ ℚ) (deltasByKey : Dict κ (List ℚ)) (k : κ) :
    Except PyError (Dict κ (List ℚ)) :=
  match prevMap.get? k, nextMap.get? k with
  | some prev, some next =>
    if prev = 0 then .ok deltasByKey
    else do
      let ratio ← decimalDiv (next - prev) prev
      return deltasByKey.set k ((deltasByKey.get? k).getD [] ++ [ratio * 100])
  | _, _ => .ok deltasByKey

def addYearDeltas (history : KeyedHistory κ) (allKeys : List κ) (deltasByKey : Dict κ (List ℚ))
    (years : ℕ × ℕ) : Except PyError (Dict κ (List ℚ)) :=
  allKeys.foldlM (addDelta (ofYear history years.1) (ofYear history years.2)) deltasByKey

def yearsSorted (history : KeyedHistory κ) : List ℕ :=
  history.keys.insertionSort (· ≤ ·)

def allKeys (history : KeyedHistory κ) : List κ :=
  ((yearsSorted history).flatMap fun year => (ofYear history year).keys).dedup

/-- `deltas_by_key` after the loop over the years. -/
def collectDeltas (history : KeyedHistory κ) : Except PyError (Dict κ (List ℚ)) :=
  (neighbours (yearsSorted history)).foldlM (addYearDeltas history (allKeys history)) .empty

variable (lt : κ → κ → Except PyError Bool) (record : κ → ℕ → ℚ → ℚ → Bool → β)
  (stats : FloatStatistics) (minSample : ℕ)

def addBaseline (deltasByKey : Dict κ (List ℚ)) (out : Dict κ β) (k : κ) :
    Except PyError (Dict κ β) := do
  let deltas := (deltasByKey.get? k).getD []
  let (mean, sigma) ← meanAndSigma stats deltas
  return out.set k (record k deltas.length mean sigma (minSample ≤ deltas.length))

/-- `compute_yoy_baseline`; `record` builds the entry of a key. -/
def computeBaselines (history : KeyedHistory κ) : Except PyError (Dict κ β) :=
  if history.entries.isEmpty then .ok .empty
  else do
    let deltasByKey ← collectDeltas history
    let keys ← sorted lt (allKeys history)
    keys.foldlM (addBaseline record stats minSample deltasByKey) .empty

/-- The baselines of the reconciliation are those of its three-part keys. -/
theorem computeYoyBaseline_eq (history : History) :
    computeYoyBaseline stats minSample history =
      computeBaselines groupKeyLt YoYStatsBaseline.mk stats minSample history :=
  rfl

end Source

/-! ## The deltas of a key -/

section Deltas

variable {κ : Type} [DecidableEq κ] {history : KeyedHistory κ} {k : κ}

/-- The tonnes of a key in a year. -/
def valueIn (history : KeyedHistory κ) (k : κ) (year : ℕ) : Option ℚ :=
  (ofYear history year).get? k

/-- Two years give a delta when both hold the key and the first is not zero. -/
def Joins (history : KeyedHistory κ) (k : κ) (prev next : ℕ) : Prop :=
  ∃ p n, valueIn history k prev = some p ∧ valueIn history k next = some n ∧ p ≠ 0

def deltaPct (history : KeyedHistory κ) (k : κ) (prev next : ℕ) : Option ℚ :=
  match valueIn history k prev, valueIn history k next with
  | some p, some n => if p = 0 then none else some ((n - p) / p * 100)
  | _, _ => none

theorem deltaPct_eq_none : deltaPct history k a b = none ↔ ¬Joins history k a b := by
  unfold deltaPct Joins
  cases valueIn history k a with
  | none => simp
  | some p =>
      cases valueIn history k b with
      | none => simp
      | some n => by_cases h : p = 0 <;> simp [h]

/-- What has been collected for a key. -/
def under (deltasByKey : Dict κ (List ℚ)) (k : κ) : List ℚ :=
  (deltasByKey.get? k).getD []

theorem addDelta_adds (history : KeyedHistory κ) (deltasByKey : Dict κ (List ℚ)) (a b : ℕ)
    (k' : κ) :
    ∃ out, addDelta (ofYear history a) (ofYear history b) deltasByKey k' = .ok out ∧
      ∀ k, under out k =
        under deltasByKey k ++ if k' = k then (deltaPct history k a b).toList else [] := by
  have hset : ∀ q, deltaPct history k' a b = some q → ∀ k,
      under (deltasByKey.set k' (under deltasByKey k' ++ [q])) k =
        under deltasByKey k ++ if k' = k then (deltaPct history k a b).toList else [] := by
    intro q hq k
    unfold under
    rw [Dict.get?_set]
    by_cases hk : k' = k
    · subst hk
      rw [if_pos rfl, if_pos rfl, hq]
      rfl
    · rw [if_neg hk, if_neg hk, List.append_nil]
  have hkeep : deltaPct history k' a b = none → ∀ k, under deltasByKey k =
      under deltasByKey k ++ if k' = k then (deltaPct history k a b).toList else [] := by
    intro hnone k
    by_cases hk : k' = k
    · subst hk
      rw [if_pos rfl, hnone, Option.toList_none, List.append_nil]
    · rw [if_neg hk, List.append_nil]
  unfold addDelta
  unfold deltaPct valueIn at hset hkeep
  cases hprev : (ofYear history a).get? k' with
  | none => exact ⟨_, rfl, hkeep (by rw [hprev])⟩
  | some p =>
      cases hnext : (ofYear history b).get? k' with
      | none => exact ⟨_, rfl, hkeep (by rw [hprev, hnext])⟩
      | some n =>
          by_cases hp : p = 0
          · exact ⟨_, if_pos hp, hkeep (by simp only [hprev, hnext, if_pos hp])⟩
          · refine ⟨_, ?_, hset ((n - p) / p * 100) (by simp only [hprev, hnext, if_neg hp])⟩
            simp only [if_neg hp, decimalDiv_of_ne hp]
            rfl

theorem addDeltas_add (history : KeyedHistory κ) (a b : ℕ) (keys : List κ) (hnodup : keys.Nodup)
    (deltasByKey : Dict κ (List ℚ)) :
    ∃ out, keys.foldlM (addDelta (ofYear history a) (ofYear history b)) deltasByKey = .ok out ∧
      ∀ k, under out k =
        under deltasByKey k ++ if k ∈ keys then (deltaPct history k a b).toList else [] := by
  induction keys generalizing deltasByKey with
  | nil => exact ⟨deltasByKey, rfl, fun k => by simp⟩
  | cons k' keys ih =>
      obtain ⟨hnew, hrest⟩ := List.nodup_cons.mp hnodup
      obtain ⟨mid, hmid, hturn⟩ := addDelta_adds history deltasByKey a b k'
      obtain ⟨out, hout, hlater⟩ := ih hrest mid
      refine ⟨out, by rw [List.foldlM_cons, hmid]; exact hout, ?_⟩
      intro k
      rw [hlater, hturn, List.append_assoc]
      by_cases hk : k' = k
      · subst hk
        simp [hnew]
      · simp [hk, Ne.symm hk]

omit [DecidableEq κ] in
theorem mem_yearsSorted {year : ℕ} : year ∈ yearsSorted history ↔ year ∈ history.keys :=
  List.mem_insertionSort _

theorem mem_allKeys : k ∈ allKeys history ↔ ∃ year ∈ history.keys, ∃ v,
    valueIn history k year = some v := by
  have hkeys : ∀ year, k ∈ (ofYear history year).keys ↔ ∃ v, valueIn history k year = some v := by
    intro year
    unfold valueIn
    constructor
    · intro hk
      obtain ⟨⟨_, v⟩, hentry, rfl⟩ := List.mem_map.mp hk
      exact ⟨v, Dict.get?_eq_some_iff.mpr hentry⟩
    · rintro ⟨v, hv⟩
      exact List.mem_map.mpr ⟨(k, v), Dict.get?_eq_some_iff.mp hv, rfl⟩
  rw [allKeys, List.mem_dedup, List.mem_flatMap]
  simp only [mem_yearsSorted, hkeys]

/-- A year that is not in the history holds no key. -/
theorem mem_keys_of_valueIn {year : ℕ} {v : ℚ} (h : valueIn history k year = some v) :
    year ∈ history.keys := by
  unfold valueIn ofYear at h
  cases hyear : history.get? year with
  | none =>
      rw [hyear, Option.getD_none] at h
      cases h
  | some d => exact List.mem_map.mpr ⟨(year, d), Dict.get?_eq_some_iff.mp hyear, rfl⟩

theorem mem_allKeys_of_joins {a b : ℕ} (h : Joins history k a b) : k ∈ allKeys history := by
  obtain ⟨p, n, hp, -, -⟩ := h
  exact mem_allKeys.mpr ⟨a, mem_keys_of_valueIn hp, p, hp⟩

theorem addYearDeltas_adds (history : KeyedHistory κ) (deltasByKey : Dict κ (List ℚ))
    (years : ℕ × ℕ) :
    ∃ out, addYearDeltas history (allKeys history) deltasByKey years = .ok out ∧
      ∀ k, under out k = under deltasByKey k ++ (deltaPct history k years.1 years.2).toList := by
  obtain ⟨out, hout, hadds⟩ := addDeltas_add history years.1 years.2
    (allKeys history) (List.nodup_dedup _) deltasByKey
  refine ⟨out, hout, ?_⟩
  intro k
  rw [hadds]
  by_cases hk : k ∈ allKeys history
  · rw [if_pos hk]
  · have hnone : deltaPct history k years.1 years.2 = none :=
      deltaPct_eq_none.mpr fun hjoins => hk (mem_allKeys_of_joins hjoins)
    rw [if_neg hk, hnone, Option.toList_none]

/-- What the loops collect for a key: the deltas of the neighbours among the years. -/
def collected (history : KeyedHistory κ) (k : κ) : List ℚ :=
  (neighbours (yearsSorted history)).flatMap fun years =>
    (deltaPct history k years.1 years.2).toList

theorem collectDeltas_eq (history : KeyedHistory κ) :
    ∃ out, collectDeltas history = .ok out ∧ ∀ k, under out k = collected history k := by
  suffices h : ∀ (pairs : List (ℕ × ℕ)) (start : Dict κ (List ℚ)),
      ∃ out, pairs.foldlM (addYearDeltas history (allKeys history)) start = .ok out ∧
        ∀ k, under out k = under start k ++ pairs.flatMap fun years =>
          (deltaPct history k years.1 years.2).toList by
    obtain ⟨out, hout, hunder⟩ := h (neighbours (yearsSorted history)) .empty
    exact ⟨out, hout, hunder⟩
  intro pairs
  induction pairs with
  | nil => exact fun start => ⟨start, rfl, fun k => by simp⟩
  | cons years pairs ih =>
      intro start
      obtain ⟨mid, hmid, hturn⟩ := addYearDeltas_adds history start years
      obtain ⟨out, hout, hlater⟩ := ih mid
      refine ⟨out, by rw [List.foldlM_cons, hmid]; exact hout, ?_⟩
      intro k
      rw [hlater, hturn, List.append_assoc, List.flatMap_cons]

end Deltas

/-! ## The deltas of the calendar -/

section Calendar

variable {κ : Type} [DecidableEq κ] {history : KeyedHistory κ} {k : κ}

instance (history : KeyedHistory κ) (k : κ) (a b : ℕ) : Decidable (Joins history k a b) :=
  decidable_of_iff (deltaPct history k a b ≠ none) (by
    rw [ne_eq, deltaPct_eq_none, not_not])

/-- The years that hold the key, not at zero, before a calendar year that holds it too. -/
def calendarYears (history : KeyedHistory κ) (k : κ) : List ℕ :=
  (yearsSorted history).filter fun year => Joins history k year (year + 1)

def calendarDeltas (history : KeyedHistory κ) (k : κ) : List ℚ :=
  (calendarYears history k).filterMap fun year => deltaPct history k year (year + 1)

omit [DecidableEq κ] in
theorem pairwise_yearsSorted (history : KeyedHistory κ) :
    (yearsSorted history).Pairwise (· < ·) := by
  have hsorted : (yearsSorted history).Pairwise (· ≤ ·) := List.pairwise_insertionSort _ _
  have hnodup : (yearsSorted history).Nodup :=
    (List.perm_insertionSort _ _).nodup_iff.mpr history.nodup_keys
  exact (hsorted.and hnodup).imp fun h => lt_of_le_of_ne h.1 h.2

theorem mem_calendarYears {year : ℕ} :
    year ∈ calendarYears history k ↔ Joins history k year (year + 1) := by
  rw [calendarYears, List.mem_filter, mem_yearsSorted, decide_eq_true_eq, and_iff_right_iff_imp]
  rintro ⟨p, n, hp, -, -⟩
  exact mem_keys_of_valueIn hp

theorem length_calendarDeltas (history : KeyedHistory κ) (k : κ) :
    (calendarDeltas history k).length = (calendarYears history k).length := by
  unfold calendarDeltas
  rw [List.length_filterMap_eq_countP, List.countP_eq_length]
  intro year hyear
  rw [Option.isSome_iff_ne_none, ne_eq, deltaPct_eq_none, not_not]
  exact mem_calendarYears.mp hyear

/-- The deltas of the calendar are those that the loop collects from consecutive years. -/
theorem calendarDeltas_eq (history : KeyedHistory κ) (k : κ) :
    calendarDeltas history k =
      ((neighbours (yearsSorted history)).filter fun years => years.2 = years.1 + 1).flatMap
        fun years => (deltaPct history k years.1 years.2).toList := by
  have hall : calendarDeltas history k = (yearsSorted history).flatMap fun year =>
      (deltaPct history k year (year + 1)).toList := by
    rw [calendarDeltas, List.filterMap_eq_flatMap_toList]
    symm
    apply flatMap_filter_eq_iff.mpr
    intro year _ hyear
    rw [deltaPct_eq_none.mpr (of_decide_eq_false hyear), Option.toList_none]
  rw [hall, neighbours_succ (pairwise_yearsSorted history), List.flatMap_map]
  apply flatMap_filter_eq_iff.mpr
  intro year _ hyear
  rw [deltaPct_eq_none.mpr, Option.toList_none]
  rintro ⟨p, n, -, hn, -⟩
  exact of_decide_eq_false hyear (mem_yearsSorted.mpr (mem_keys_of_valueIn hn))

/-- No two neighbouring years of the history with a gap between them share a key whose earlier value
is not zero. -/
def NoBridge (history : KeyedHistory κ) : Prop :=
  ∀ a b k, a + 1 < b → (∀ year ∈ history.keys, ¬(a < year ∧ year < b)) → ¬Joins history k a b

theorem collected_eq_calendar_iff (history : KeyedHistory κ) :
    (∀ k, collected history k = calendarDeltas history k) ↔ NoBridge history := by
  have hsorted := pairwise_yearsSorted history
  simp only [collected, calendarDeltas_eq, flatMap_filter_eq_iff, Prod.forall,
    decide_eq_false_iff_not, mem_neighbours hsorted, mem_yearsSorted, Option.toList_eq_nil_iff,
    deltaPct_eq_none, NoBridge]
  constructor
  · intro h a b k hgap hbetween hjoins
    have hboth := hjoins
    obtain ⟨p, n, hp, hn, -⟩ := hboth
    exact h k a b ⟨mem_keys_of_valueIn hp, mem_keys_of_valueIn hn, by omega, hbetween⟩ (by omega)
      hjoins
  · intro h k a b hneighbours hne
    obtain ⟨-, -, hlt, hbetween⟩ := hneighbours
    exact h a b k (by omega) hbetween

end Calendar

/-! ## The baselines -/

section Baselines

variable {κ β : Type} [DecidableEq κ] {lt : κ → κ → Except PyError Bool}
  {record : κ → ℕ → ℚ → ℚ → Bool → β} {stats : FloatStatistics} {minSample : ℕ}
  {history : KeyedHistory κ} {out : Dict κ β} {k : κ}

/-- The entry of a key is made of its deltas alone. -/
def IsBaseline (record : κ → ℕ → ℚ → ℚ → Bool → β) (stats : FloatStatistics) (minSample : ℕ)
    (deltas : List ℚ) (k : κ) (entry : β) : Prop :=
  ∃ figures, meanAndSigma stats deltas = .ok figures ∧
    entry = record k deltas.length figures.1 figures.2 (minSample ≤ deltas.length)

omit [DecidableEq κ] in
theorem IsBaseline.unique {deltas : List ℚ} {entry entry' : β}
    (h : IsBaseline record stats minSample deltas k entry)
    (h' : IsBaseline record stats minSample deltas k entry') : entry' = entry := by
  obtain ⟨figures, hfigures, rfl⟩ := h
  obtain ⟨figures', hfigures', rfl⟩ := h'
  rw [hfigures] at hfigures'
  cases hfigures'
  rfl

theorem addBaseline_sets {deltasByKey : Dict κ (List ℚ)} {start : Dict κ β}
    (h : addBaseline record stats minSample deltasByKey start k = .ok out) :
    ∃ entry, IsBaseline record stats minSample (under deltasByKey k) k entry ∧
      out = start.set k entry := by
  unfold addBaseline at h
  obtain ⟨figures, hfigures, h⟩ := bind_eq_ok.mp h
  cases h
  exact ⟨_, ⟨figures, hfigures, rfl⟩, rfl⟩

theorem addBaselines_get? {deltasByKey : Dict κ (List ℚ)} {keys : List κ} {start : Dict κ β}
    (h : keys.foldlM (addBaseline record stats minSample deltasByKey) start = .ok out) (k : κ) :
    (k ∈ keys → ∃ entry, IsBaseline record stats minSample (under deltasByKey k) k entry ∧
        out.get? k = some entry) ∧
      (k ∉ keys → out.get? k = start.get? k) := by
  induction keys generalizing start with
  | nil =>
      cases h
      exact ⟨fun hk => absurd hk List.not_mem_nil, fun _ => rfl⟩
  | cons k' keys ih =>
      rw [List.foldlM_cons, bind_eq_ok] at h
      obtain ⟨mid, hmid, h⟩ := h
      obtain ⟨entry, hentry, rfl⟩ := addBaseline_sets hmid
      obtain ⟨hin, hout⟩ := ih h
      by_cases hlater : k ∈ keys
      · exact ⟨fun _ => hin hlater, fun hk => absurd (List.mem_cons_of_mem _ hlater) hk⟩
      · have hget := hout hlater
        rw [Dict.get?_set] at hget
        constructor
        · intro hk
          obtain rfl : k = k' := (List.mem_cons.mp hk).resolve_right hlater
          rw [if_pos rfl] at hget
          exact ⟨entry, hentry, hget⟩
        · intro hk
          have hne : k' ≠ k := fun heq => hk (heq ▸ List.mem_cons_self)
          rwa [if_neg hne] at hget

theorem computeBaselines_succeeds (h : ∃ keys, sorted lt (allKeys history) = .ok keys) :
    ∃ out, computeBaselines lt record stats minSample history = .ok out := by
  unfold computeBaselines
  split_ifs with hempty
  · exact ⟨_, rfl⟩
  · obtain ⟨keys, hkeys⟩ := h
    obtain ⟨deltasByKey, hdeltas, -⟩ := collectDeltas_eq history
    have hturn : ∀ start k, ∃ out, addBaseline record stats minSample deltasByKey start k =
        .ok out := by
      intro start k
      obtain ⟨figures, hfigures⟩ := meanAndSigma_succeeds stats ((deltasByKey.get? k).getD [])
      rw [addBaseline, hfigures]
      exact ⟨_, rfl⟩
    obtain ⟨out, hout⟩ := foldlM_succeeds hturn .empty keys
    exact ⟨out, bind_eq_ok.mpr ⟨_, hdeltas, bind_eq_ok.mpr ⟨keys, hkeys, hout⟩⟩⟩

theorem baseline_of_computed (h : computeBaselines lt record stats minSample history = .ok out)
    (hk : k ∈ allKeys history) :
    ∃ entry, IsBaseline record stats minSample (collected history k) k entry ∧
      out.get? k = some entry := by
  unfold computeBaselines at h
  split_ifs at h with hempty
  · obtain ⟨year, hyear, -⟩ := mem_allKeys.mp hk
    rw [Dict.keys, List.isEmpty_iff.mp hempty] at hyear
    cases hyear
  · obtain ⟨deltasByKey, hdeltas, h⟩ := bind_eq_ok.mp h
    obtain ⟨keys, hkeys, h⟩ := bind_eq_ok.mp h
    obtain ⟨deltasByKey', hdeltas', hunder⟩ := collectDeltas_eq history
    rw [hdeltas] at hdeltas'
    cases hdeltas'
    rw [← hunder]
    exact (addBaselines_get? h k).1 ((sorted_perm hkeys).mem_iff.mpr hk)

end Baselines

/-! ## A year more -/

section Added

variable {κ : Type} [DecidableEq κ] {history : KeyedHistory κ} {year : ℕ} {added : Dict κ ℚ} {k : κ}

/-- Neither the year nor the ones before and after it are in the history. -/
def Isolated (history : KeyedHistory κ) (year : ℕ) : Prop :=
  ∀ y ∈ history.keys, y ≠ year ∧ y + 1 ≠ year ∧ y ≠ year + 1

theorem valueIn_set (history : KeyedHistory κ) (year : ℕ) (added : Dict κ ℚ) (k : κ) (y : ℕ) :
    valueIn (history.set year added) k y =
      if year = y then added.get? k else valueIn history k y := by
  unfold valueIn ofYear
  rw [Dict.get?_set]
  by_cases h : year = y
  · rw [if_pos h, if_pos h, Option.getD_some]
  · rw [if_neg h, if_neg h]

/-- An isolated year is in no pair of consecutive years. -/
theorem joins_succ_set (hisolated : Isolated history year) (y : ℕ) :
    Joins (history.set year added) k y (y + 1) ↔ Joins history k y (y + 1) := by
  unfold Joins
  rw [valueIn_set, valueIn_set]
  by_cases hfirst : year = y
  · subst hfirst
    have hnone : ∀ n, valueIn history k (year + 1) ≠ some n := by
      intro n hn
      exact (hisolated _ (mem_keys_of_valueIn hn)).2.2 rfl
    have hne : year ≠ year + 1 := by omega
    rw [if_neg hne]
    constructor
    · rintro ⟨p, n, -, hn, -⟩
      exact absurd hn (hnone n)
    · rintro ⟨p, n, -, hn, -⟩
      exact absurd hn (hnone n)
  · by_cases hsecond : year = y + 1
    · subst hsecond
      have hnone : ∀ p, valueIn history k y ≠ some p := by
        intro p hp
        exact (hisolated _ (mem_keys_of_valueIn hp)).2.1 rfl
      rw [if_neg hfirst]
      constructor
      · rintro ⟨p, n, hp, -, -⟩
        exact absurd hp (hnone p)
      · rintro ⟨p, n, hp, -, -⟩
        exact absurd hp (hnone p)
    · rw [if_neg hfirst, if_neg hsecond]

theorem calendarYears_set (hisolated : Isolated history year) :
    calendarYears (history.set year added) k = calendarYears history k := by
  have hset : (calendarYears (history.set year added) k).Pairwise (· < ·) :=
    (pairwise_yearsSorted _).filter _
  have hold : (calendarYears history k).Pairwise (· < ·) := (pairwise_yearsSorted _).filter _
  apply eq_of_sorted_of_mem_iff hset hold
  intro y
  rw [mem_calendarYears, mem_calendarYears, joins_succ_set hisolated]

theorem calendarDeltas_set (hisolated : Isolated history year) :
    calendarDeltas (history.set year added) k = calendarDeltas history k := by
  unfold calendarDeltas
  rw [calendarYears_set hisolated]
  apply List.filterMap_congr
  intro y hy
  obtain ⟨p, n, hp, hn, -⟩ := mem_calendarYears.mp hy
  obtain ⟨hne, -, -⟩ := hisolated y (mem_keys_of_valueIn hp)
  obtain ⟨hne', -, -⟩ := hisolated (y + 1) (mem_keys_of_valueIn hn)
  unfold deltaPct
  rw [valueIn_set, valueIn_set, if_neg hne.symm, if_neg hne'.symm]

theorem mem_allKeys_set (hnew : year ∉ history.keys) (hk : k ∈ allKeys history) :
    k ∈ allKeys (history.set year added) := by
  obtain ⟨y, hy, v, hv⟩ := mem_allKeys.mp hk
  have hne : year ≠ y := fun heq => hnew (heq ▸ hy)
  refine mem_allKeys.mpr ⟨y, mem_keys_upsertKey.mpr (.inr hy), v, ?_⟩
  rw [valueIn_set, if_neg hne, hv]

end Added

/-! ## What the baselines promise -/

section Promise

variable {κ β : Type} [DecidableEq κ] (lt : κ → κ → Except PyError Bool)
  (record : κ → ℕ → ℚ → ℚ → Bool → β) (stats : FloatStatistics) (minSample : ℕ)

/-- Of each key the loop collects the deltas of the calendar, and the sample size counts them. -/
structure JoinsNeighboursOnly (history : KeyedHistory κ) : Prop where
  deltas : ∃ deltasByKey, collectDeltas history = .ok deltasByKey ∧
    ∀ k, under deltasByKey k = calendarDeltas history k
  sampleSize : ∀ out, computeBaselines lt record stats minSample history = .ok out →
    ∀ k ∈ allKeys history, ∃ mean sigma isReliable,
      out.get? k = some (record k (calendarYears history k).length mean sigma isReliable)

def KeepsBaselines (before after : KeyedHistory κ) : Prop :=
  ∀ out out', computeBaselines lt record stats minSample before = .ok out →
    computeBaselines lt record stats minSample after = .ok out' →
      ∀ k ∈ allKeys before, out'.get? k = out.get? k

variable {lt record stats minSample}

theorem joinsNeighboursOnly_iff (history : KeyedHistory κ) :
    JoinsNeighboursOnly lt record stats minSample history ↔ NoBridge history := by
  obtain ⟨deltasByKey, hdeltas, hunder⟩ := collectDeltas_eq history
  rw [← collected_eq_calendar_iff]
  constructor
  · rintro ⟨⟨deltasByKey', hdeltas', hcalendar⟩, -⟩
    rw [hdeltas] at hdeltas'
    cases hdeltas'
    intro k
    rw [← hunder, hcalendar]
  · intro hcalendar
    constructor
    · exact ⟨deltasByKey, hdeltas, fun k => (hunder k).trans (hcalendar k)⟩
    · intro out hout k hk
      obtain ⟨_, ⟨figures, -, rfl⟩, hget⟩ := baseline_of_computed hout hk
      refine ⟨figures.1, figures.2, minSample ≤ (calendarYears history k).length, ?_⟩
      rw [hget, hcalendar, length_calendarDeltas]

theorem keepsBaselines_of_noBridge {history : KeyedHistory κ} {year : ℕ} {added : Dict κ ℚ}
    (hisolated : Isolated history year) (hbefore : NoBridge history)
    (hafter : NoBridge (history.set year added)) :
    KeepsBaselines lt record stats minSample history (history.set year added) := by
  intro out out' hout hout' k hk
  have hnew : year ∉ history.keys := fun hmem => (hisolated year hmem).1 rfl
  have hsame : collected (history.set year added) k = collected history k := by
    rw [(collected_eq_calendar_iff _).mpr hafter, (collected_eq_calendar_iff _).mpr hbefore,
      calendarDeltas_set hisolated]
  obtain ⟨entry, hentry, hget⟩ := baseline_of_computed hout hk
  obtain ⟨entry', hentry', hget'⟩ := baseline_of_computed hout' (mem_allKeys_set hnew hk)
  rw [hsame] at hentry'
  rw [hget, hget', hentry.unique hentry']

/-- The deltas are those of neighbouring calendar years exactly when no gap between two years of the
history is bridged, and an isolated year then leaves the baselines alone. -/
theorem yoy_joins_neighbours_iff (lt : κ → κ → Except PyError Bool)
    (record : κ → ℕ → ℚ → ℚ → Bool → β) (stats : FloatStatistics) (minSample : ℕ)
    (history : KeyedHistory κ) :
    (JoinsNeighboursOnly lt record stats minSample history ↔ NoBridge history) ∧
      ∀ (year : ℕ) (added : Dict κ ℚ), Isolated history year →
        (JoinsNeighboursOnly lt record stats minSample history ∧
            JoinsNeighboursOnly lt record stats minSample (history.set year added) ∧
            KeepsBaselines lt record stats minSample history (history.set year added) ↔
          NoBridge history ∧ NoBridge (history.set year added)) := by
  refine ⟨joinsNeighboursOnly_iff history, ?_⟩
  intro year added hisolated
  rw [joinsNeighboursOnly_iff, joinsNeighboursOnly_iff]
  constructor
  · rintro ⟨hbefore, hafter, -⟩
    exact ⟨hbefore, hafter⟩
  · rintro ⟨hbefore, hafter⟩
    exact ⟨hbefore, hafter, keepsBaselines_of_noBridge hisolated hbefore hafter⟩

end Promise

/-! ## A gap -/

def combustionKey : GroupKey := (1, "combustion", none)

/-- Two consecutive years of one key. -/
def twoYears : History :=
  (Dict.empty.set 2019 (Dict.empty.set combustionKey 100)).set 2020
    (Dict.empty.set combustionKey 110)

/-- The year 2022 has no neighbour in the calendar, and still adds a delta over two years. -/
def gapYear : Dict GroupKey ℚ := Dict.empty.set combustionKey 121

def plainStatistics : FloatStatistics := ⟨fun _ => 0, fun _ => 0⟩

def sampleSizeOf (history : History) : Option ℕ :=
  ((computeYoyBaseline plainStatistics 3 history).toOption.bind fun out =>
    out.get? combustionKey).map YoYStatsBaseline.sampleSize

theorem gap_is_bridged :
    Isolated twoYears 2022 ∧ calendarYears (twoYears.set 2022 gapYear) combustionKey = [2019] ∧
      sampleSizeOf twoYears = some 1 ∧ sampleSizeOf (twoYears.set 2022 gapYear) = some 2 ∧
      ¬JoinsNeighboursOnly groupKeyLt YoYStatsBaseline.mk plainStatistics 3
        (twoYears.set 2022 gapYear) := by
  refine ⟨?_, ?_, ?_, ?_, ?_⟩
  · unfold Isolated
    decide
  · decide +kernel
  · decide +kernel
  · decide +kernel
  · intro h
    have hbridge := (joinsNeighboursOnly_iff _).mp h 2020 2022 combustionKey
    apply hbridge (by omega)
    · decide
    · exact ⟨110, 121, rfl, rfl, by norm_num⟩

end GhgTool.YoyDeltas
