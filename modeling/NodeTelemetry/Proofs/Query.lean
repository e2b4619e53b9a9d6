import NodeTelemetry.Query

/-!
# What queries keep

The families of a list of queries hold the samples that some query selects, and no others.

## Main definitions

* `Query.Held`: a family of a list holds a sample.

## Main statements

* `Query.held_families_iff`: the samples that the families of queries hold.
-/

namespace NodeTelemetry.Query

/-- A family of the list holds a sample of a series. -/
def Held (fs : List Family) (series : String) (s : Sample) : Prop :=
  ∃ f ∈ fs, f.name = series ∧ s ∈ f.samples

theorem held_cons_iff {f : Family} {fs : List Family} {series : String} {s : Sample} :
    Held (f :: fs) series s ↔ (f.name = series ∧ s ∈ f.samples) ∨ Held fs series s := by
  simp [Held]

theorem names_place (series : String) (s : Sample) (fs : List Family) :
    (place series s fs).map Family.name = fs.map Family.name := by
  induction fs with
  | nil => rfl
  | cons f rest ih =>
    rw [place]
    split
    · rfl
    · rw [List.map_cons, List.map_cons, ih]

/-- A sample that is placed is held where its series has a family. -/
theorem held_place_iff {series : String} {s : Sample} {fs : List Family} {series' : String}
    {s' : Sample} :
    Held (place series s fs) series' s' ↔
      Held fs series' s' ∨ (series' = series ∧ s' = s ∧ series ∈ fs.map Family.name) := by
  induction fs with
  | nil => simp [place, Held]
  | cons f rest ih =>
    rw [place]
    split
    · next hname =>
      subst hname
      simp only [held_cons_iff, List.mem_cons, List.map_cons, true_or, and_true]
      constructor
      · rintro (⟨rfl, rfl | hs⟩ | hs)
        · exact .inr ⟨rfl, rfl⟩
        · exact .inl (.inl ⟨rfl, hs⟩)
        · exact .inl (.inr hs)
      · rintro ((⟨rfl, hs⟩ | hs) | ⟨rfl, rfl⟩)
        · exact .inl ⟨rfl, .inr hs⟩
        · exact .inr hs
        · exact .inl ⟨rfl, .inl rfl⟩
    · next hname =>
      have hne : series ≠ f.name := fun h => hname h.symm
      rw [held_cons_iff, held_cons_iff, ih, List.map_cons, List.mem_cons, or_assoc]
      simp only [hne, false_or]

/-- Puts the samples that queries keep at their places, one after the other. -/
def fill (queries : List Query) (fs : List Family) (samples : List (String × Sample)) :
    List Family :=
  samples.foldl (fun fs (name, s) => if keep queries name s then place name s fs else fs) fs

theorem held_fill_iff {queries : List Query} {samples : List (String × Sample)} {fs : List Family}
    {series : String} {s : Sample} :
    Held (fill queries fs samples) series s ↔
      Held fs series s ∨
        (keep queries series s = true ∧ (series, s) ∈ samples ∧ series ∈ fs.map Family.name) := by
  induction samples generalizing fs with
  | nil => simp [fill]
  | cons p rest ih =>
    obtain ⟨name, t⟩ := p
    change Held (fill queries (if keep queries name t then place name t fs else fs) rest) series s ↔ _
    rw [ih]
    by_cases hkeep : keep queries name t = true
    · rw [if_pos hkeep, names_place, held_place_iff, or_assoc]
      refine or_congr_right ?_
      constructor
      · rintro (⟨rfl, rfl, hname⟩ | ⟨hkept, hmem, hname⟩)
        · exact ⟨hkeep, List.mem_cons_self .., hname⟩
        · exact ⟨hkept, List.mem_cons_of_mem _ hmem, hname⟩
      · rintro ⟨hkept, hmem, hname⟩
        rcases List.mem_cons.1 hmem with heq | hmem
        · obtain ⟨rfl, rfl⟩ := Prod.mk.inj heq
          exact .inl ⟨rfl, rfl, hname⟩
        · exact .inr ⟨hkept, hmem, hname⟩
    · rw [if_neg hkeep]
      refine or_congr_right ?_
      constructor
      · rintro ⟨hkept, hmem, hname⟩
        exact ⟨hkept, List.mem_cons_of_mem _ hmem, hname⟩
      · rintro ⟨hkept, hmem, hname⟩
        rcases List.mem_cons.1 hmem with heq | hmem
        · obtain ⟨rfl, rfl⟩ := Prod.mk.inj heq
          exact absurd hkept hkeep
        · exact ⟨hkept, hmem, hname⟩

theorem mem_seriesNames_iff {queries : List Query} {series : String} :
    series ∈ seriesNames queries ↔ ∃ q ∈ queries, q.series = series := by
  have step : ∀ (qs : List Query) (names : List String),
      series ∈ qs.foldl (fun names q =>
        if names.contains q.series then names else names ++ [q.series]) names ↔
        series ∈ names ∨ ∃ q ∈ qs, q.series = series := by
    intro qs
    induction qs with
    | nil => simp
    | cons q rest ih =>
      intro names
      rw [List.foldl_cons, ih]
      by_cases hq : names.contains q.series = true
      · rw [if_pos hq]
        have hmem : q.series ∈ names := List.contains_iff_mem.1 hq
        constructor
        · rintro (h | ⟨r, hr, h⟩)
          · exact .inl h
          · exact .inr ⟨r, List.mem_cons_of_mem _ hr, h⟩
        · rintro (h | ⟨r, hr, rfl⟩)
          · exact .inl h
          · rcases List.mem_cons.1 hr with rfl | hr
            · exact .inl hmem
            · exact .inr ⟨r, hr, rfl⟩
      · rw [if_neg hq]
        simp [or_assoc, eq_comm]
  rw [seriesNames, step queries []]
  simp

/-- The families of queries hold the samples that some query selects. -/
theorem held_families_iff {queries : List Query} {samples : List (String × Sample)}
    {series : String} {s : Sample} :
    Held (families queries samples) series s ↔
      keep queries series s = true ∧ (series, s) ∈ samples := by
  have hfinal : Held (families queries samples) series s ↔
      Held (fill queries ((seriesNames queries).map fun name => ⟨name, []⟩) samples) series s := by
    constructor
    · rintro ⟨f, hf, hname, hs⟩
      obtain ⟨g, hg, rfl⟩ := List.mem_map.1 hf
      exact ⟨g, (List.mem_filter.1 hg).1, hname, List.mem_reverse.1 hs⟩
    · rintro ⟨f, hf, hname, hs⟩
      refine ⟨⟨f.name, f.samples.reverse⟩, List.mem_map.2 ⟨f, ?_, rfl⟩, hname,
        List.mem_reverse.2 hs⟩
      refine List.mem_filter.2 ⟨hf, ?_⟩
      cases hsamples : f.samples with
      | nil => simp [hsamples] at hs
      | cons t rest => rfl
  have hstart : ¬ Held ((seriesNames queries).map fun name => ⟨name, []⟩) series s := by
    rintro ⟨f, hf, -, hs⟩
    obtain ⟨name, -, rfl⟩ := List.mem_map.1 hf
    simp at hs
  rw [hfinal, held_fill_iff, or_iff_right hstart, List.map_map]
  constructor
  · rintro ⟨hkeep, hmem, -⟩
    exact ⟨hkeep, hmem⟩
  · rintro ⟨hkeep, hmem⟩
    refine ⟨hkeep, hmem, ?_⟩
    -- the query that selects the sample names its series
    obtain ⟨q, hq, hselects⟩ := List.any_eq_true.1 hkeep
    simp only [selects, Bool.and_eq_true, beq_iff_eq] at hselects
    refine List.mem_map.2 ⟨series, ?_, rfl⟩
    exact mem_seriesNames_iff.2 ⟨q, hq, hselects.1.1.symm⟩

end NodeTelemetry.Query
