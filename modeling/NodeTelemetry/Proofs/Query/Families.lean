import Mathlib.Data.List.Induction
import NodeTelemetry.Proofs.Query

/-!
# Families as a partition

The families of a list of queries divide the samples that some query matches by their series: every such sample is
in one place, those of a series stay in the order in which they were given, and the series are in the order in which
the queries first name them. Neither the order of the queries nor how often one is given counts for what a family holds.

## Main definitions

* `Query.Matches`: a query matches a sample, said by the parts of the query.
* `Query.matching`: the samples of a series that some query matches.
* `Query.flatten`: families as a list of samples with the names of their series.

## Main statements

* `Query.families_eq`: the families of queries in closed form.
* `Query.families_partition`: the families are a stable partition of the samples that are matched.
-/

namespace NodeTelemetry

/-! ### Samples that a query matches -/

/-- The labels of a sample meet a condition. -/
def LabelCondition.IsMet (c : LabelCondition) (s : Sample) : Prop :=
  match c.operator with
  | .and => ∀ e ∈ c.labels.entries, s.label e.1 = e.2
  | .or => c.labels.entries = [] ∨ ∃ e ∈ c.labels.entries, s.label e.1 = e.2
  | .nor => ∀ e ∈ c.labels.entries, s.label e.1 ≠ e.2

theorem LabelCondition.holds_iff {c : LabelCondition} {s : Sample} : c.holds s = true ↔ c.IsMet s := by
  obtain ⟨operator, labels⟩ := c
  cases operator with
  | and => cases h : labels.entries <;> simp [holds, IsMet, TextMap.isEmpty, h]
  | or => cases h : labels.entries <;> simp [holds, IsMet, TextMap.isEmpty, h]
  | nor => cases h : labels.entries <;> simp [holds, IsMet, TextMap.isEmpty, h]

namespace Query

/-- A query matches a sample: it names the series, and the number and the labels are as it asks. What is not a number
is equal to no number. -/
structure Matches (q : Query) (series : String) (s : Sample) : Prop where
  named : q.series = series
  value : ∀ x, q.value = some x → (s.value == x) = true
  labels : q.labels.IsMet s

theorem selects_iff {q : Query} {series : String} {s : Sample} :
    q.selects series s = true ↔ q.Matches series s := by
  obtain ⟨name, labels, value⟩ := q
  have hparts : Matches ⟨name, labels, value⟩ series s ↔
      series = name ∧ (∀ x, value = some x → (s.value == x) = true) ∧ labels.IsMet s :=
    ⟨fun h => ⟨h.named.symm, h.value, h.labels⟩, fun h => ⟨h.1.symm, h.2.1, h.2.2⟩⟩
  rw [hparts, ← LabelCondition.holds_iff]
  cases value <;> simp [selects, and_assoc]

instance (q : Query) (series : String) (s : Sample) : Decidable (q.Matches series s) :=
  decidable_of_iff _ selects_iff

/-- Some query of a list matches a sample. -/
def Matched (queries : List Query) (p : String × Sample) : Prop :=
  ∃ q ∈ queries, q.Matches p.1 p.2

instance (queries : List Query) (p : String × Sample) : Decidable (Matched queries p) :=
  inferInstanceAs (Decidable (∃ q ∈ queries, q.Matches p.1 p.2))

theorem keep_iff {queries : List Query} {p : String × Sample} :
    keep queries p.1 p.2 = true ↔ Matched queries p := by
  simp only [keep, List.any_eq_true, selects_iff, Matched]

/-- The samples of a series that some query matches, in the order in which they are given. -/
def matching (queries : List Query) (samples : List (String × Sample)) (series : String) : List Sample :=
  (samples.filter fun p => p.1 = series ∧ Matched queries p).map Prod.snd

/-- Families as a list of samples with the names of their series. -/
def flatten (fs : List Family) : List (String × Sample) :=
  fs.flatMap fun f => f.samples.map fun s => (f.name, s)

/-- The place of the first query that names a series. -/
def firstNaming (queries : List Query) (series : String) : Nat :=
  queries.findIdx fun q => q.series = series

variable {queries : List Query} {samples : List (String × Sample)} {series : String}

/-! ### The series that queries name -/

theorem seriesNames_concat (queries : List Query) (q : Query) :
    seriesNames (queries ++ [q]) =
      if q.series ∈ seriesNames queries then seriesNames queries
      else seriesNames queries ++ [q.series] := by
  simp only [seriesNames, List.foldl_append, List.foldl_cons, List.foldl_nil, List.contains_iff_mem]

/-- A query at the end is the first to name its series, unless one before it does. -/
theorem firstNaming_concat (queries : List Query) (q : Query) (series : String) :
    firstNaming (queries ++ [q]) series =
      if series ∈ seriesNames queries then firstNaming queries series
      else [q].findIdx (fun q => q.series = series) + queries.length := by
  simp only [firstNaming, List.findIdx_append, mem_seriesNames_iff, List.findIdx_lt_length,
    decide_eq_true_eq]

theorem pairwise_seriesNames (queries : List Query) :
    (seriesNames queries).Pairwise fun a b => firstNaming queries a < firstNaming queries b := by
  induction queries using List.reverseRecOn with
  | nil => exact List.Pairwise.nil
  | append_singleton rest q ih =>
    have hrest : (seriesNames rest).Pairwise fun a b =>
        firstNaming (rest ++ [q]) a < firstNaming (rest ++ [q]) b := by
      refine ih.imp_of_mem fun ha hb hlt => ?_
      rwa [firstNaming_concat, if_pos ha, firstNaming_concat, if_pos hb]
    rw [seriesNames_concat]
    split
    · exact hrest
    · next hnew =>
      refine List.pairwise_append.2 ⟨hrest, List.pairwise_singleton _ _, fun a ha b hb => ?_⟩
      obtain rfl := List.mem_singleton.1 hb
      -- what was named before stands in front of the new query
      have hbefore : firstNaming rest a < rest.length := by
        obtain ⟨r, hr, hname⟩ := mem_seriesNames_iff.1 ha
        exact List.findIdx_lt_length_of_exists ⟨r, hr, decide_eq_true hname⟩
      rw [firstNaming_concat, if_pos ha, firstNaming_concat, if_neg hnew]
      omega

theorem nodup_seriesNames (queries : List Query) : (seriesNames queries).Nodup :=
  (pairwise_seriesNames queries).imp fun hlt heq => by
    rw [heq] at hlt
    exact Nat.lt_irrefl _ hlt

/-! ### Filling families -/

theorem matching_cons (p : String × Sample) (rest : List (String × Sample)) :
    matching queries (p :: rest) series =
      if p.1 = series ∧ Matched queries p then p.2 :: matching queries rest series
      else matching queries rest series := by
  rw [matching, List.filter_cons]
  simp only [decide_eq_true_eq]
  split <;> rfl

/-- Where no two families have one name, a sample is put into each family of its series. -/
theorem place_eq_map {fs : List Family} (series : String) (s : Sample)
    (hnames : (fs.map Family.name).Nodup) :
    place series s fs = fs.map fun f => if f.name = series then ⟨f.name, s :: f.samples⟩ else f := by
  induction fs with
  | nil => rfl
  | cons f rest ih =>
    obtain ⟨hfresh, hrest⟩ := List.nodup_cons.1 hnames
    rw [place, List.map_cons]
    split
    · next hname =>
      have hothers : rest.map (fun g => if g.name = series then ⟨g.name, s :: g.samples⟩ else g) = rest := by
        refine (List.map_congr_left fun g hg => ?_).trans (List.map_id rest)
        have hne : g.name ≠ series := fun h => hfresh (hname.trans h.symm ▸ List.mem_map_of_mem hg)
        rw [if_neg hne, id]
      rw [hothers]
    · rw [ih hrest]

/-- The samples that are matched go to the front of the families of their series, the last one first. -/
theorem fill_eq_map {fs : List Family} (hnames : (fs.map Family.name).Nodup) :
    fill queries fs samples =
      fs.map fun f => ⟨f.name, (matching queries samples f.name).reverse ++ f.samples⟩ := by
  induction samples generalizing fs with
  | nil => exact (List.map_id fs).symm
  | cons p rest ih =>
    change fill queries (if keep queries p.1 p.2 then place p.1 p.2 fs else fs) rest = _
    by_cases hkeep : keep queries p.1 p.2 = true
    · have hplaced : ((place p.1 p.2 fs).map Family.name).Nodup := by rwa [names_place]
      rw [if_pos hkeep, ih hplaced, place_eq_map _ _ hnames, List.map_map]
      refine List.map_congr_left fun f _ => ?_
      rw [Function.comp, matching_cons]
      by_cases hname : f.name = p.1
      · simp [hname, keep_iff.1 hkeep]
      · simp [hname, Ne.symm hname]
    · rw [if_neg hkeep, ih hnames]
      refine List.map_congr_left fun f _ => ?_
      rw [matching_cons, if_neg fun h => hkeep (keep_iff.2 h.2)]

/-- The families of queries: for each series in the order of the queries the samples that are matched, where there
are any. -/
theorem families_eq (queries : List Query) (samples : List (String × Sample)) :
    families queries samples =
      ((seriesNames queries).map fun name => (⟨name, matching queries samples name⟩ : Family)).filter
        fun f => !f.samples.isEmpty := by
  have hnames : (((seriesNames queries).map fun name => (⟨name, []⟩ : Family)).map Family.name).Nodup := by
    rw [List.map_map]
    simpa [Function.comp_def] using nodup_seriesNames queries
  have hfill : families queries samples =
      ((fill queries ((seriesNames queries).map fun name => ⟨name, []⟩) samples).filter
        fun f => !f.samples.isEmpty).map fun f => ⟨f.name, f.samples.reverse⟩ := rfl
  rw [hfill, fill_eq_map hnames]
  simp [List.filter_map, Function.comp_def]

/-! ### Lists that are divided by keys -/

section Divided

variable {α : Type} (key : α → String) {names : List String} {l : List α}

/-- What is divided by keys that are different, and that are all keys there are, is the whole in another order. -/
theorem flatMap_filter_perm (hnames : names.Nodup) (hkeys : ∀ a ∈ l, key a ∈ names) :
    (names.flatMap fun name => l.filter fun a => key a = name).Perm l := by
  induction names generalizing l with
  | nil =>
    have hnil : l = [] := List.eq_nil_iff_forall_not_mem.2 fun a ha => by simpa using hkeys a ha
    rw [hnil]
    exact List.Perm.refl _
  | cons name rest ih =>
    obtain ⟨hfresh, hrest⟩ := List.nodup_cons.1 hnames
    -- the other parts are those of what does not have the first key
    have hothers : (rest.flatMap fun n => l.filter fun a => key a = n) =
        rest.flatMap fun n => (l.filter fun a => !decide (key a = name)).filter fun a => key a = n := by
      rw [List.flatMap_def, List.flatMap_def]
      refine congrArg _ (List.map_congr_left fun n hn => ?_)
      have hne : n ≠ name := fun h => hfresh (h ▸ hn)
      rw [List.filter_filter]
      refine List.filter_congr fun a _ => ?_
      by_cases ha : key a = n <;> simp [ha, hne]
    rw [List.flatMap_cons, hothers]
    refine (List.Perm.append_left _ (ih hrest fun a ha => ?_)).trans (List.filter_append_perm _ l)
    obtain ⟨hmem, hne⟩ := List.mem_filter.1 ha
    rcases List.mem_cons.1 (hkeys a hmem) with heq | hmem'
    · simp [heq] at hne
    · exact hmem'

/-- What is divided by keys has under each key what the whole has under it, in the same order. -/
theorem filter_flatMap_filter (hnames : names.Nodup) (hkeys : ∀ a ∈ l, key a ∈ names) (name : String) :
    (names.flatMap fun n => l.filter fun a => key a = n).filter (fun a => key a = name) =
      l.filter fun a => key a = name := by
  have hparts (ns : List String) (hns : name ∉ ns) :
      (ns.flatMap fun n => (l.filter fun a => key a = n).filter fun a => key a = name) = [] := by
    refine List.flatMap_eq_nil_iff.2 fun n hn => List.filter_eq_nil_iff.2 fun a ha heq => hns ?_
    have hkey := of_decide_eq_true (List.mem_filter.1 ha).2
    rwa [← of_decide_eq_true heq, hkey]
  rw [List.filter_flatMap]
  by_cases hmem : name ∈ names
  · obtain ⟨before, after, rfl⟩ := List.append_of_mem hmem
    have hfresh := List.nodup_append.1 hnames
    have hbefore : name ∉ before := fun h => hfresh.2.2 name h name (List.mem_cons_self ..) rfl
    have hafter : name ∉ after := (List.nodup_cons.1 hfresh.2.1).1
    rw [List.flatMap_append, List.flatMap_cons, hparts before hbefore, hparts after hafter,
      List.nil_append, List.append_nil, List.filter_filter]
    simp only [Bool.and_self]
  · rw [hparts names hmem]
    refine (List.filter_eq_nil_iff.2 fun a ha heq => hmem ?_).symm
    exact of_decide_eq_true heq ▸ hkeys a ha

end Divided

/-! ### What the families hold -/

/-- A series of which a sample is matched is named by a query. -/
theorem mem_seriesNames_of_matched {p : String × Sample} (h : Matched queries p) :
    p.1 ∈ seriesNames queries := by
  obtain ⟨q, hq, hmatches⟩ := h
  exact mem_seriesNames_iff.2 ⟨q, hq, hmatches.named⟩

theorem mem_families_iff {f : Family} :
    f ∈ families queries samples ↔ f.samples = matching queries samples f.name ∧ f.samples ≠ [] := by
  have hnonempty : ((!f.samples.isEmpty) = true) ↔ f.samples ≠ [] := by simp
  rw [families_eq, List.mem_filter, List.mem_map, hnonempty]
  refine and_congr_left fun hne => ?_
  constructor
  · rintro ⟨name, -, rfl⟩
    rfl
  · intro hsamples
    refine ⟨f.name, ?_, by rw [← hsamples]⟩
    obtain ⟨s, hs⟩ := List.exists_mem_of_ne_nil _ hne
    rw [hsamples, matching, List.mem_map] at hs
    obtain ⟨p, hp, -⟩ := hs
    obtain ⟨-, hp⟩ := List.mem_filter.1 hp
    obtain ⟨hname, hmatched⟩ := of_decide_eq_true hp
    exact hname ▸ mem_seriesNames_of_matched hmatched

theorem matching_eq (queries : List Query) (samples : List (String × Sample)) (series : String) :
    matching queries samples series =
      ((samples.filter fun p => Matched queries p).filter fun p => p.1 = series).map Prod.snd := by
  rw [matching, List.filter_filter]
  simp only [Bool.decide_and]

theorem map_matching (series : String) :
    (matching queries samples series).map (fun s => (series, s)) =
      (samples.filter fun p => Matched queries p).filter fun p => p.1 = series := by
  rw [matching_eq, List.map_map]
  refine (List.map_congr_left fun p hp => ?_).trans (List.map_id _)
  rw [Function.comp, ← of_decide_eq_true (List.mem_filter.1 hp).2, id]

/-- The samples of the families are, series by series, those that are matched. -/
theorem flatten_families (queries : List Query) (samples : List (String × Sample)) :
    flatten (families queries samples) =
      (seriesNames queries).flatMap fun name =>
        (samples.filter fun p => Matched queries p).filter fun p => p.1 = name := by
  have hempty (fs : List Family) : flatten (fs.filter fun f => !f.samples.isEmpty) = flatten fs := by
    induction fs with
    | nil => rfl
    | cons f rest ih =>
      cases hsamples : f.samples with
      | nil => simpa [flatten, hsamples] using ih
      | cons s more => simpa [flatten, hsamples] using ih
  rw [families_eq, hempty, flatten, List.flatMap_map]
  simp only [map_matching]

/-- Every sample of the families is matched, and every sample that is matched is in one place of one family. -/
theorem flatten_families_perm (queries : List Query) (samples : List (String × Sample)) :
    (flatten (families queries samples)).Perm (samples.filter fun p => Matched queries p) := by
  rw [flatten_families]
  refine flatMap_filter_perm Prod.fst (nodup_seriesNames queries) fun p hp => ?_
  exact mem_seriesNames_of_matched (of_decide_eq_true (List.mem_filter.1 hp).2)

/-- The families hold of each series what is matched, so the same queries find the same in them. -/
theorem matching_flatten_families (queries : List Query) (samples : List (String × Sample))
    (series : String) :
    matching queries (flatten (families queries samples)) series = matching queries samples series := by
  have hall : (flatten (families queries samples)).filter (fun p => Matched queries p) =
      flatten (families queries samples) := by
    refine List.filter_eq_self.2 fun p hp => ?_
    exact (List.mem_filter.1 ((flatten_families_perm queries samples).mem_iff.1 hp)).2
  rw [matching_eq, hall, flatten_families, matching_eq,
    filter_flatMap_filter Prod.fst (nodup_seriesNames queries)]
  intro p hp
  exact mem_seriesNames_of_matched (of_decide_eq_true (List.mem_filter.1 hp).2)

/-- Lists of the same queries give the same families, whatever the order of the queries and however often each is
given. -/
theorem families_perm_of_mem_iff {queries' : List Query} (h : ∀ q, q ∈ queries' ↔ q ∈ queries)
    (samples : List (String × Sample)) :
    (families queries' samples).Perm (families queries samples) := by
  have hmatched : Matched queries' = Matched queries := by
    funext p
    simp only [Matched, h]
  have hnames : (seriesNames queries').Perm (seriesNames queries) := by
    refine (List.perm_ext_iff_of_nodup (nodup_seriesNames _) (nodup_seriesNames _)).2 fun name => ?_
    simp only [mem_seriesNames_iff, h]
  have hmatching : matching queries' samples = matching queries samples := by
    funext series
    simp only [matching, hmatched]
  rw [families_eq, families_eq, hmatching]
  exact (hnames.map _).filter _

/-- The families of queries are a stable partition of the samples that some query matches. Their names are different
and in the order of the queries that first name them; a family is there where a sample of its series is matched, and
holds the samples of the series that are matched, in the order in which they were given. The order and the number of
the queries do not count for what is held, and the same queries on what they gave give it again. -/
theorem families_partition (queries : List Query) (samples : List (String × Sample)) :
    ((families queries samples).map Family.name).Nodup ∧
    (families queries samples).Pairwise
      (fun f g => firstNaming queries f.name < firstNaming queries g.name) ∧
    (∀ f, f ∈ families queries samples ↔
      f.samples = matching queries samples f.name ∧ f.samples ≠ []) ∧
    (flatten (families queries samples)).Perm (samples.filter fun p => Matched queries p) ∧
    (∀ queries' : List Query, (∀ q, q ∈ queries' ↔ q ∈ queries) →
      (families queries' samples).Perm (families queries samples)) ∧
    families queries (flatten (families queries samples)) = families queries samples := by
  have hnames : ((families queries samples).map Family.name).Sublist (seriesNames queries) := by
    have hsub := (List.filter_sublist (p := fun f : Family => !f.samples.isEmpty)
      (l := (seriesNames queries).map fun name => ⟨name, matching queries samples name⟩)).map Family.name
    rw [← families_eq, List.map_map] at hsub
    simpa [Function.comp_def] using hsub
  refine ⟨hnames.nodup (nodup_seriesNames queries), ?_, fun f => mem_families_iff,
    flatten_families_perm queries samples, fun queries' h => families_perm_of_mem_iff h samples, ?_⟩
  · have hordered := (pairwise_seriesNames queries).sublist hnames
    rwa [List.pairwise_map] at hordered
  · rw [families_eq queries (flatten _)]
    simp only [matching_flatten_families]
    exact (families_eq queries samples).symm

/-- Queries of which two overlap: for pods that are pending, for pods that are not running, and for nodes. -/
def overlapping : List Query :=
  [(ofSeries "kube_pod_status_phase").withLabels .nor [("phase", "Running")],
    ((ofSeries "kube_pod_status_phase").withLabels .and [("phase", "Pending")]).withValue 1.0,
    ofSeries "kube_node_info"]

/-- Samples of two series that are asked for and of one that is not. -/
def overlapped : List (String × Sample) :=
  [("kube_node_info", ⟨1.0, .empty⟩),
    ("kube_pod_status_phase", ⟨1.0, .ofList [("phase", "Pending"), ("pod", "web")]⟩),
    ("kube_pod_status_phase", ⟨1.0, .ofList [("phase", "Running"), ("pod", "db")]⟩),
    ("kube_pod_created", ⟨0.0 / 0.0, .empty⟩),
    ("kube_pod_status_phase", ⟨0.0 / 0.0, .ofList [("pod", "job")]⟩)]

theorem families_partition_overlapping :
    (∀ q, q ∈ overlapping.reverse ++ overlapping ↔ q ∈ overlapping) ∧
    (families (overlapping.reverse ++ overlapping) overlapped).Perm (families overlapping overlapped) ∧
    (families overlapping overlapped).map (fun f => (f.name, f.samples.map fun s => s.label "pod")) =
      [("kube_pod_status_phase", ["web", "job"]), ("kube_node_info", [""])] := by
  have hsame : ∀ q, q ∈ overlapping.reverse ++ overlapping ↔ q ∈ overlapping := by simp
  obtain ⟨-, -, -, -, hperm, -⟩ := families_partition overlapping overlapped
  exact ⟨hsame, hperm _ hsame, by decide +kernel⟩

end Query

end NodeTelemetry
