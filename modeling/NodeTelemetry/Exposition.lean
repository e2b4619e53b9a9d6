import NodeTelemetry.Decimal.Literal
import NodeTelemetry.Text.Blank
import NodeTelemetry.Text.Cut
import NodeTelemetry.Text.Word
import NodeTelemetry.Value.Raw

/-!
# The text exposition format

An exposition is a text of lines: comments, declarations of the kind of a series, and samples. A
sample line is a name, an optional block of labels directly behind it, blanks and a number;
whatever stands behind the number is ignored. Lines of any other form are skipped.

Only samples with a single number count. The parts of a histogram or of a summary, which are told by
the declared kind and by having labels, are skipped.

Labels are cut at commas and equality signs wherever they stand; quotes protect neither. A label
keeps its blanks and its backslashes and loses the quotes around its value.
-/

namespace NodeTelemetry.Exposition

open Text

/-- A line that matters. -/
inductive Line where
  /-- The declaration that a series is made of parts, or that it is not. -/
  | kind (name : String) (composite : Bool)
  /-- A sample: name, text of the label block if there is one, text of the number. -/
  | sample (name : String) (labels : Option (List Char)) (value : List Char)

/-- The longest row of word characters at the front, at least one, and the rest. -/
def cutWord (s : List Char) : Option (List Char × List Char) :=
  let word := s.takeWhile isWord
  if word = [] then none else some (word, s.dropWhile isWord)

/-- Drops blanks, of which there is at least one. -/
def skipBlanks (s : List Char) : Option (List Char) :=
  match s with
  | c :: rest => if isBlank c then some (trimStart rest) else none
  | [] => none

/-- The label block at the front, without its braces, and the rest. -/
def cutLabels (s : List Char) : Option (List Char × List Char) :=
  match s with
  | '\x7b' :: rest =>
    match cutAtFirst '\x7d' rest with
    | some ([], _) | none => none
    | some (labels, after) => some (labels, after)
  | _ => none

/-- A declaration behind its number sign. The kind of a histogram is declared for the series of its
buckets. -/
def readKind (s : List Char) : Option Line := do
  let rest ← skipBlanks s
  let rest ← "TYPE".toList.isPrefixOf? rest
  let rest ← skipBlanks rest
  let (name, rest) ← cutWord rest
  let rest ← skipBlanks rest
  let (kind, _) ← cutWord rest
  let name := String.ofList name
  match String.ofList kind with
  | "histogram" => some (.kind (name ++ "_bucket") true)
  | "summary" => some (.kind name true)
  | _ => some (.kind name false)

/-- A sample line. -/
def readSample (s : List Char) : Option Line := do
  let (name, rest) ← cutWord s
  let (labels, rest) :=
    match cutLabels rest with
    | some (labels, rest) => (some labels, rest)
    | none => (none, rest)
  let rest ← skipBlanks rest
  let value := rest.takeWhile fun c => !isBlank c
  if value = [] then none else some (.sample (String.ofList name) labels value)

/-- The content of a line, if it matters. -/
def Line.read (s : List Char) : Option Line :=
  match trim s with
  | '#' :: rest => readKind rest
  | rest => readSample rest

/-- Drops the quotes at both ends. -/
def dropQuotes (s : List Char) : List Char :=
  ((s.dropWhile (· = '"')).reverse.dropWhile (· = '"')).reverse

/-- The label of one piece of a label block: a name and a value around a single equality sign. -/
def readLabel (piece : List Char) : Option (String × String) :=
  match pieces '=' piece with
  | [name, value] =>
    if name = [] then none else some (String.ofList name, String.ofList (dropQuotes value))
  | _ => none

/-- The labels of a label block. Of two labels of one name the later counts. -/
def readLabels (block : List Char) : TextMap String :=
  .ofList ((pieces ',' block).filterMap readLabel)

/-- What has been read of an exposition. -/
structure State where
  /-- Which series are made of parts, by the last declaration of each. -/
  composite : TextMap Bool
  /-- The samples so far, the latest first. -/
  samples : List (String × Sample)

/-- Reads one line. -/
def State.step (st : State) (line : List Char) : State :=
  match Line.read line with
  | none => st
  | some (.kind name composite) => { st with composite := st.composite.insert name composite }
  | some (.sample name labels value) =>
    match Decimal.readFloat? value with
    | none => st
    | some x =>
      if labels.isSome && st.composite.getD name false then st
      else
        let sample : Sample := ⟨x, (labels.map readLabels).getD .empty⟩
        { st with samples := (name, sample) :: st.samples }

/-- The samples of an exposition with the names of their series, in the order of their lines. -/
def read (text : String) : List (String × Sample) :=
  ((lines text.toList).foldl State.step ⟨.empty, []⟩).samples.reverse

end NodeTelemetry.Exposition
