import NodeTelemetry.Text.Composition
import NodeTelemetry.Text.Direction
import NodeTelemetry.Text.Joining
import NodeTelemetry.Url.DomainMapping
import NodeTelemetry.Url.Punycode

/-!
# Host names

A host name is a row of labels with points between them. Its ASCII form is what is sent and compared: characters are
replaced by what they stand for, the result is composed, and a label with characters beyond ASCII is
written in Punycode behind `xn--`. A label that already is in that form has to spell a label that needs it.

## Main definitions

* `Domain.Label`: a label and its ASCII form.
* `Domain.toAscii?`: the ASCII form of a host name, if it is one.
-/

namespace NodeTelemetry.Url.Domain

open Text

/-- Whether a character is one of ASCII. -/
def isAscii (c : Char) : Bool := c.toNat < 0x80

/-- The characters of ASCII that no name may hold. -/
def isForbidden (c : Char) : Bool :=
  c.toNat ≤ 0x20 || c.toNat == 0x7F || "#/:<>?@[\\]^|%".toList.contains c

/-- What stands before the Punycode of a label. -/
def punycodeMark : List Char := "xn--".toList

/-- A label with its ASCII form. -/
structure Label where
  text : List Char
  ascii : List Char

namespace Label

/-- The greatest number of characters of a label that is written in Punycode. -/
def lengthLimit : Nat := 1000

/-- The greatest number of characters of the Punycode of a label. -/
def punycodeLimit : Nat := 2000

/-- Whether a label begins with a letter of its own and its joiners mean something. -/
def isSound (label : List Char) : Bool :=
  (label.head?.all fun c => !isMark c) && joinersFit label &&
    (label.length ≤ lengthLimit || label.all isAscii)

/-- The label that a Punycode text spells. It has to be in composed form, of characters that are allowed as they
are, and not all of ASCII. -/
def ofPunycode? (s : List Char) : Option Label := do
  if s.isEmpty || s.getLast? == some '-' || s.length > punycodeLimit || !s.all isAscii then none
  else
    let label ← Punycode.decode? s
    if label.all (fun c => isPlain c && !isForbidden c) && compose label == label &&
        isSound label then
      some ⟨label, punycodeMark ++ s⟩
    else none

/-- The label of a text in composed form whose characters have been replaced. -/
def ofText? (s : List Char) : Option Label :=
  match punycodeMark.isPrefixOf? s with
  | some rest => ofPunycode? rest
  | none =>
    if s.all isAscii then some ⟨s, s⟩
    else if isSound s then some ⟨s, punycodeMark ++ Punycode.encode s⟩
    else none

end Label

/-- Whether every label keeps to one direction, in a name with a label that is written from right to left. -/
def directionsFit (labels : List Label) : Bool :=
  let directions := labels.map fun label => label.text.map Direction.ofChar
  !directions.any (fun ds => ds.any Direction.isRightward) || directions.all Direction.fits

/-- The ASCII form of a host name, if it is one. -/
def toAscii? (s : List Char) : Option (List Char) := do
  let name := compose (← s.mapM meaning?).flatten
  if name.any isForbidden then none
  else
    let labels ← (pieces '.' name).mapM Label.ofText?
    if directionsFit labels then some (['.'].intercalate (labels.map Label.ascii)) else none

end NodeTelemetry.Url.Domain
