import NodeTelemetry.Value.Raw

/-!
# Queries

A query selects the samples of one series by their labels and their number. A list of queries keeps
every sample that some query selects, once, and puts the kept samples into families, one for each series.

## Main definitions

* `Query.selects`: whether a query selects a sample.
* `Query.families`: the families of the samples that a list of queries keeps.
-/

namespace NodeTelemetry

/-- How the labels of a query are combined. -/
inductive LabelOperator where
  /-- Every label is equal. -/
  | and
  /-- Some label is equal. -/
  | or
  /-- No label is equal. -/
  | nor
  deriving DecidableEq, Repr

/-- A condition on the labels of a sample. -/
structure LabelCondition where
  operator : LabelOperator
  labels : TextMap String

namespace LabelCondition

/-- The condition that always holds. -/
def always : LabelCondition := ⟨.and, .empty⟩

/-- Whether the labels of a sample meet the condition. A missing label reads as the empty text, and a
condition without labels always holds. -/
def holds (c : LabelCondition) (s : Sample) : Bool :=
  let equal (e : String × String) : Bool := s.label e.1 == e.2
  c.labels.isEmpty ||
    match c.operator with
    | .and => c.labels.entries.all equal
    | .or => c.labels.entries.any equal
    | .nor => !c.labels.entries.any equal

end LabelCondition

/-- Selects samples of one series. -/
structure Query where
  /-- The name of the series. -/
  series : String
  labels : LabelCondition
  /-- The number that a sample must have, if one is given. -/
  value : Option Float

/-- The samples of one series that were kept. -/
structure Family where
  name : String
  samples : List Sample

namespace Query

/-- The query for every sample of a series. -/
def ofSeries (series : String) : Query := ⟨series, .always, none⟩

/-- The query with a condition on the labels. -/
def withLabels (q : Query) (operator : LabelOperator) (labels : List (String × String)) : Query :=
  { q with labels := ⟨operator, .ofList labels⟩ }

/-- The query for samples of one number only. -/
def withValue (q : Query) (x : Float) : Query :=
  { q with value := some x }

/-- Whether a query selects a sample of the given series. -/
def selects (q : Query) (series : String) (s : Sample) : Bool :=
  series == q.series &&
    (match q.value with
      | some x => s.value == x
      | none => true) &&
    q.labels.holds s

/-- Whether some query selects the sample. -/
def keep (queries : List Query) (series : String) (s : Sample) : Bool :=
  queries.any fun q => q.selects series s

/-- The series of a list of queries, each at its first place. -/
def seriesNames (queries : List Query) : List String :=
  queries.foldl (fun names q => if names.contains q.series then names else names ++ [q.series]) []

/-- Puts a sample at the front of the family of its series. -/
def place (series : String) (s : Sample) : List Family → List Family
  | [] => []
  | f :: rest =>
    if f.name = series then ⟨f.name, s :: f.samples⟩ :: rest
    else f :: place series s rest

/-- The families of the kept samples, in the order in which the queries first name their series. The
samples of a family keep their order, and there is no empty family. -/
def families (queries : List Query) (samples : List (String × Sample)) : List Family :=
  let start : List Family := (seriesNames queries).map fun name => ⟨name, []⟩
  let filled := samples.foldl
    (fun fs (name, s) => if keep queries name s then place name s fs else fs) start
  (filled.filter fun f => !f.samples.isEmpty).map fun f => ⟨f.name, f.samples.reverse⟩

end Query

end NodeTelemetry
