import GhgTool.Scope3

/-!
# How the label resolvers of categories 4, 5 and 9 read a label

The resolvers look for keywords as fragments of the lower-cased label: the first keyword of the
table that occurs anywhere decides the mode of transport, and `pericol` without `non pericol`
makes a waste hazardous. The word readings (`HasWord`, `Negated`, `SpelledWith`) are stated over
any notion of letter that counts the ASCII letters and not the blank.
-/

namespace GhgTool

/-- A notion of letter, such as `str.isalpha`. -/
structure Letters where
  isLetter : Char → Bool
  ofAlpha : ∀ c : Char, c.isAlpha = true → isLetter c = true
  blank : isLetter ' ' = false

def asciiLetters : Letters := ⟨Char.isAlpha, fun _ h => h, by decide⟩

section Words

variable (L : Letters)

/-- The keyword stands in the lower-cased label as a word of its own. -/
def HasWord (label key : String) : Prop :=
  ∃ before after, (lower label).toList = before ++ key.toList ++ after ∧
    (∀ c ∈ before.getLast?, L.isLetter c = false) ∧ ∀ c ∈ after.head?, L.isLetter c = false

/-- `pericol` is preceded by `non`, with characters that are no letters between them. -/
def Negated (label : String) : Prop :=
  ∃ gap : List Char, gap ≠ [] ∧ (∀ c ∈ gap, L.isLetter c = false) ∧
    "non".toList ++ gap ++ "pericol".toList <:+: (lower label).toList

/-- The lower-cased label is made of the given words and of pieces without letters. -/
def SpelledWith (words : List String) (label : String) : Prop :=
  ∃ pieces : List String, (lower label).toList = pieces.flatMap String.toList ∧
    ∀ piece ∈ pieces, piece ∈ words ∨ ∀ c ∈ piece.toList, L.isLetter c = false

variable {L}

/-- A label of letters only is a single word. -/
theorem toList_eq_of_hasWord {label key : String}
    (hall : ∀ c ∈ (lower label).toList, L.isLetter c = true) (h : HasWord L label key) :
    (lower label).toList = key.toList := by
  obtain ⟨before, after, heq, hbefore, hafter⟩ := h
  have hnil : before = [] := by
    cases hlast : before.getLast? with
    | none => exact List.getLast?_eq_none_iff.mp hlast
    | some c =>
      have hmem : c ∈ (lower label).toList := by
        rw [heq, List.append_assoc]
        exact List.mem_append_left _ (List.mem_of_getLast? hlast)
      have hfalse : L.isLetter c = false := hbefore c hlast
      rw [hall c hmem] at hfalse
      cases hfalse
  have hnil' : after = [] := by
    cases after with
    | nil => rfl
    | cons c rest =>
      have hmem : c ∈ (lower label).toList := by
        rw [heq]
        exact List.mem_append_right _ List.mem_cons_self
      have hfalse : L.isLetter c = false := hafter c rfl
      rw [hall c hmem] at hfalse
      cases hfalse
  rw [heq, hnil, hnil', List.nil_append, List.append_nil]

theorem negated_of_contains {label : String} (h : Contains (lower label) "non pericol") :
    Negated L label := by
  refine ⟨[' '], by simp, ?_, h⟩
  intro c hc
  rw [List.mem_singleton.mp hc]
  exact L.blank

theorem mem_word_of_spelledWith {words : List String} {label : String}
    (h : SpelledWith L words label) {c : Char} (hc : c ∈ (lower label).toList)
    (hletter : L.isLetter c = true) : ∃ word ∈ words, c ∈ word.toList := by
  obtain ⟨pieces, heq, hpieces⟩ := h
  rw [heq] at hc
  obtain ⟨piece, hmem, hpiece⟩ := List.mem_flatMap.mp hc
  rcases hpieces piece hmem with hword | hplain
  · exact ⟨piece, hword, hpiece⟩
  · rw [hplain c hpiece] at hletter
    cases hletter

theorem not_contains_of_spelledWith {words : List String} {label key : String}
    (h : SpelledWith L words label) {c : Char} (hkey : c ∈ key.toList) (halpha : c.isAlpha = true)
    (hwords : ∀ word ∈ words, c ∉ word.toList) : ¬ Contains (lower label) key := by
  intro hcontains
  have hc : c ∈ (lower label).toList := hcontains.subset hkey
  obtain ⟨word, hword, hmem⟩ := mem_word_of_spelledWith h hc (L.ofAlpha c halpha)
  exact hwords word hword hmem

end Words

section Tables

theorem firstKeyword_eq_some_iff {table : List (String × String)} {label value : String} :
    firstKeyword table label = some value ↔
      ∃ before key after, table = before ++ (key, value) :: after ∧ Contains label key ∧
        ∀ entry ∈ before, ¬ Contains label entry.1 := by
  rw [firstKeyword, Option.map_eq_some_iff]
  constructor
  · intro h
    obtain ⟨⟨key, factorId⟩, hfind, heq⟩ := h
    obtain ⟨hkey, before, after, htable, hbefore⟩ := List.find?_eq_some_iff_append.mp hfind
    cases heq
    exact ⟨before, key, after, htable, of_decide_eq_true hkey, by simpa using hbefore⟩
  · intro h
    obtain ⟨before, key, after, htable, hkey, hbefore⟩ := h
    refine ⟨(key, value), List.find?_eq_some_iff_append.mpr ⟨decide_eq_true hkey, before, after,
      htable, ?_⟩, rfl⟩
    simpa using hbefore

theorem firstKeyword_eq_none_iff {table : List (String × String)} {label : String} :
    firstKeyword table label = none ↔ ∀ entry ∈ table, ¬ Contains label entry.1 := by
  simp [firstKeyword]

/-- Entries whose keyword does not occur may be left out of a table. -/
theorem firstKeyword_filter {table : List (String × String)} {label : String}
    (keep : String × String → Bool)
    (h : ∀ entry ∈ table, keep entry = false → ¬ Contains label entry.1) :
    firstKeyword (table.filter keep) label = firstKeyword table label := by
  induction table with
  | nil => rfl
  | cons entry rest ih =>
    have hrest := ih fun e he => h e (List.mem_cons_of_mem _ he)
    cases hkeep : keep entry with
    | false =>
      have hnot := h entry List.mem_cons_self hkeep
      rw [List.filter_cons_of_neg (by simp [hkeep]), hrest]
      simp [firstKeyword, hnot]
    | true =>
      rw [List.filter_cons_of_pos hkeep]
      by_cases hc : Contains label entry.1
      · simp [firstKeyword, hc]
      · simpa [firstKeyword, hc] using hrest

end Tables

/-- A resolver that answers with the first keyword of its table found inside the label. -/
structure ReadsFragments (table : List (String × String)) (resolve : String → Option String) :
    Prop where
  some_iff : ∀ label factorId, resolve label = some factorId ↔
    ∃ before key after, table = before ++ (key, factorId) :: after ∧
      Contains (lower label) key ∧ ∀ entry ∈ before, ¬ Contains (lower label) entry.1
  none_iff : ∀ label, resolve label = none ↔ ∀ entry ∈ table, ¬ Contains (lower label) entry.1

theorem readsFragments_firstKeyword (table : List (String × String)) :
    ReadsFragments table fun label => firstKeyword table (lower label) where
  some_iff _ _ := firstKeyword_eq_some_iff
  none_iff _ := firstKeyword_eq_none_iff

/-- The keywords the tables of categories 4 and 9 share. -/
def sharedKeywords : List String := ["strada", "hgv", "nave", "sea"]

namespace Scope3Cat9DownstreamTransport

theorem modeFactorIds_eq_filter :
    modeFactorIds = Scope3Cat4UpstreamTransport.modeFactorIds.filter
      fun entry => decide (entry.1 ∈ sharedKeywords) := by
  decide

theorem resolveMode_eq_cat4 {label : String}
    (h : ∀ entry ∈ Scope3Cat4UpstreamTransport.modeFactorIds, entry.1 ∉ sharedKeywords →
      ¬ Contains (lower label) entry.1) :
    resolveMode label = Scope3Cat4UpstreamTransport.resolveMode label := by
  rw [resolveMode, modeFactorIds_eq_filter, Scope3Cat4UpstreamTransport.resolveMode]
  apply firstKeyword_filter
  intro entry hentry hkeep
  exact h entry hentry (of_decide_eq_false hkeep)

/-- Each keyword that category 4 has alone contains a letter no shared keyword has. -/
theorem letter_outside_sharedKeywords :
    ∀ entry ∈ Scope3Cat4UpstreamTransport.modeFactorIds, entry.1 ∉ sharedKeywords →
      (entry.1.toList.any fun c =>
        c.isAlpha && sharedKeywords.all fun word => !word.toList.contains c) = true := by
  decide +kernel

theorem resolveMode_eq_cat4_of_spelledWith {L : Letters} {label : String}
    (h : SpelledWith L sharedKeywords label) :
    resolveMode label = Scope3Cat4UpstreamTransport.resolveMode label := by
  apply resolveMode_eq_cat4
  intro entry hentry hnot
  obtain ⟨c, hkey, hletter⟩ := List.any_eq_true.mp (letter_outside_sharedKeywords entry hentry hnot)
  obtain ⟨halpha, hwords⟩ := (Bool.and_eq_true _ _).mp hletter
  apply not_contains_of_spelledWith h hkey halpha
  intro word hword
  simpa using List.all_eq_true.mp hwords word hword

end Scope3Cat9DownstreamTransport

namespace Scope3Cat5Waste

def hazardousFactorIds : List String :=
  ["WASTE_LANDFILL_PERIC_DEFRA_2025", "WASTE_RECYCLE_PERIC_DEFRA_2025"]

/-- The label names a way of disposal. -/
def NamesRoute (label : String) : Prop :=
  ∃ key ∈ ["discarica", "landfill", "ricicl", "recycl"], Contains (lower label) key

theorem namesRoute_iff {label : String} :
    NamesRoute label ↔
      (Contains (lower label) "discarica" ∨ Contains (lower label) "landfill") ∨
        Contains (lower label) "ricicl" ∨ Contains (lower label) "recycl" := by
  simp [NamesRoute, or_assoc]

theorem resolveWasteFactor_isSome {label : String} :
    (resolveWasteFactor label).isSome = true ↔ NamesRoute label := by
  rw [namesRoute_iff, resolveWasteFactor]
  split_ifs with h₁ h₂ h₃ h₄
  · exact ⟨fun _ => .inl h₁.1, fun _ => rfl⟩
  · exact ⟨fun _ => .inl h₂, fun _ => rfl⟩
  · exact ⟨fun _ => .inr h₃.1, fun _ => rfl⟩
  · exact ⟨fun _ => .inr h₄, fun _ => rfl⟩
  · simp only [Option.isSome_none, Bool.false_eq_true, false_iff]
    exact fun h => h.elim h₂ h₄

/-- A resolved label is hazardous when `pericol` occurs and `non pericol` does not. -/
theorem mem_hazardousFactorIds_iff {label factorId : String}
    (h : resolveWasteFactor label = some factorId) :
    factorId ∈ hazardousFactorIds ↔
      Contains (lower label) "pericol" ∧ ¬ Contains (lower label) "non pericol" := by
  rw [resolveWasteFactor] at h
  split_ifs at h with h₁ h₂ h₃ h₄
  · cases h
    exact iff_of_true (by decide) h₁.2
  · cases h
    exact iff_of_false (by decide) fun hp => h₁ ⟨h₂, hp⟩
  · cases h
    exact iff_of_true (by decide) h₃.2
  · cases h
    exact iff_of_false (by decide) fun hp => h₃ ⟨h₄, hp⟩

/-- Labels of waste: which resolve, and which of these to a hazardous factor. -/
structure ReadsHazard (L : Letters) (label : String) : Prop where
  resolves : (resolveWasteFactor label).isSome = true ↔ NamesRoute label
  negated : Contains (lower label) "non pericol" →
    ∀ factorId, resolveWasteFactor label = some factorId → factorId ∉ hazardousFactorIds
  unnegated : Contains (lower label) "pericol" → ¬ Negated L label →
    ∀ factorId, resolveWasteFactor label = some factorId → factorId ∈ hazardousFactorIds
  unnamed : ¬ Contains (lower label) "pericol" →
    ∀ factorId, resolveWasteFactor label = some factorId → factorId ∉ hazardousFactorIds

theorem readsHazard (L : Letters) (label : String) : ReadsHazard L label where
  resolves := resolveWasteFactor_isSome
  negated hnon _ h hmem := ((mem_hazardousFactorIds_iff h).mp hmem).2 hnon
  unnegated hpericol hneg _ h :=
    (mem_hazardousFactorIds_iff h).mpr ⟨hpericol, fun hnon => hneg (negated_of_contains hnon)⟩
  unnamed hpericol _ h hmem := hpericol ((mem_hazardousFactorIds_iff h).mp hmem).1

end Scope3Cat5Waste

/-- The three resolvers read fragments: waste is hazardous by `pericol` without a negation, the
first keyword of the table found in the label decides the mode, and labels spelled with the
shared keywords get the same mode upstream and downstream. -/
theorem labels_read_by_fragment (L : Letters) (label : String) :
    Scope3Cat5Waste.ReadsHazard L label ∧
      ReadsFragments Scope3Cat4UpstreamTransport.modeFactorIds
        Scope3Cat4UpstreamTransport.resolveMode ∧
      ReadsFragments Scope3Cat9DownstreamTransport.modeFactorIds
        Scope3Cat9DownstreamTransport.resolveMode ∧
      (SpelledWith L sharedKeywords label →
        Scope3Cat9DownstreamTransport.resolveMode label =
          Scope3Cat4UpstreamTransport.resolveMode label) :=
  ⟨Scope3Cat5Waste.readsHazard L label, readsFragments_firstKeyword _,
    readsFragments_firstKeyword _,
    Scope3Cat9DownstreamTransport.resolveMode_eq_cat4_of_spelledWith⟩

/-- `trailer` is no rail word and selects rail, an underscore hides the negation of
`pericolosi`, hazardous waste without a route has no factor, and `mare` is a mode upstream only. -/
theorem words_are_not_read :
    (Scope3Cat4UpstreamTransport.resolveMode "trailer" = some "FREIGHT_RAIL_DEFRA_2025" ∧
        ¬ HasWord asciiLetters "trailer" "treno" ∧ ¬ HasWord asciiLetters "trailer" "rail") ∧
      (Negated asciiLetters "Rifiuti non_pericolosi discarica" ∧
        Scope3Cat5Waste.resolveWasteFactor "Rifiuti non_pericolosi discarica" =
          some "WASTE_LANDFILL_PERIC_DEFRA_2025") ∧
      (HasWord asciiLetters "Rifiuti pericolosi" "pericolosi" ∧
        ¬ Negated asciiLetters "Rifiuti pericolosi" ∧
        Scope3Cat5Waste.resolveWasteFactor "Rifiuti pericolosi" = none) ∧
      Scope3Cat4UpstreamTransport.resolveMode "mare" = some "FREIGHT_SEA_DEFRA_2025" ∧
        Scope3Cat9DownstreamTransport.resolveMode "mare" = none := by
  have hall : (lower "trailer").toList.all asciiLetters.isLetter = true := by decide
  have hletters := List.all_eq_true.mp hall
  have hnegated : Negated asciiLetters "Rifiuti non_pericolosi discarica" := by
    refine ⟨['_'], by simp, ?_, by decide +kernel⟩
    intro c hc
    rw [List.mem_singleton.mp hc]
    rfl
  have hword : HasWord asciiLetters "Rifiuti pericolosi" "pericolosi" := by
    refine ⟨"rifiuti ".toList, [], by decide, ?_, by simp⟩
    intro c hc
    cases hc
    decide
  have hplain : ¬ Negated asciiLetters "Rifiuti pericolosi" := by
    intro h
    obtain ⟨gap, -, -, before, after, heq⟩ := h
    have hnon : "non".toList <:+: (lower "Rifiuti pericolosi").toList := by
      refine ⟨before, gap ++ "pericol".toList ++ after, ?_⟩
      rw [← heq]
      simp only [List.append_assoc]
    exact absurd hnon (by decide +kernel)
  refine ⟨⟨by decide, ?_, ?_⟩, ⟨hnegated, by decide +kernel⟩,
    ⟨hword, hplain, by decide +kernel⟩, by decide, by decide⟩
  · intro h
    exact absurd (toList_eq_of_hasWord hletters h) (by decide)
  · intro h
    exact absurd (toList_eq_of_hasWord hletters h) (by decide)

end GhgTool
