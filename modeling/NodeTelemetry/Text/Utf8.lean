/-!
# Text in UTF-8

Bytes are decoded one by one. A byte that can not continue the sequence before it ends that sequence as
an error and begins anew, so that every error covers the longest beginning of a sequence and no byte
of a good sequence is lost.

## Main definitions

* `Utf8.decode`: the characters of a list of bytes, with `none` for each faulty sequence.
* `Utf8.read?`: the text of a list of bytes without faults.
* `Utf8.lenient`: the text of any list of bytes.
-/

namespace NodeTelemetry.Text.Utf8

/-- A sequence that is not complete. -/
structure Pending where
  /-- How many bytes are still to come. -/
  missing : Nat
  /-- The bits so far. -/
  value : Nat
  /-- The least byte that may come next. -/
  lower : Nat
  /-- The greatest byte that may come next. -/
  upper : Nat

/-- What the first byte of a sequence gives: a character or a fault, or a sequence to complete. The second
byte of some sequences is bounded, so that there are no surrogates, no long forms and nothing beyond
the last character. -/
def start (b : Nat) : Option Char ⊕ Pending :=
  if b < 0x80 then .inl (some (Char.ofNat b))
  else if b < 0xC2 then .inl none
  else if b < 0xE0 then .inr ⟨1, b - 0xC0, 0x80, 0xBF⟩
  else if b < 0xF0 then
    .inr ⟨2, b - 0xE0, if b = 0xE0 then 0xA0 else 0x80, if b = 0xED then 0x9F else 0xBF⟩
  else if b < 0xF5 then
    .inr ⟨3, b - 0xF0, if b = 0xF0 then 0x90 else 0x80, if b = 0xF4 then 0x8F else 0xBF⟩
  else .inl none

/-- Decodes bytes behind a sequence that is not complete, if there is one. -/
def decodeFrom : Option Pending → List UInt8 → List (Option Char)
  | none, [] => []
  | some _, [] => [none]
  | none, b :: rest =>
    match start b.toNat with
    | .inl c => c :: decodeFrom none rest
    | .inr p => decodeFrom (some p) rest
  | some p, b :: rest =>
    if p.lower ≤ b.toNat ∧ b.toNat ≤ p.upper then
      let value := p.value * 64 + (b.toNat - 0x80)
      if p.missing = 1 then some (Char.ofNat value) :: decodeFrom none rest
      else decodeFrom (some ⟨p.missing - 1, value, 0x80, 0xBF⟩) rest
    else
      match start b.toNat with
      | .inl c => none :: c :: decodeFrom none rest
      | .inr q => none :: decodeFrom (some q) rest

/-- The characters of bytes, with `none` for each faulty sequence. -/
def decode (bytes : List UInt8) : List (Option Char) :=
  decodeFrom none bytes

/-- The text of bytes, if no sequence is faulty. -/
def read? (bytes : List UInt8) : Option (List Char) :=
  (decode bytes).mapM id

/-- The character that stands for a fault. -/
def replacement : Char := '\ufffd'

/-- The mark that may stand at the front of a text to say that it is Unicode. -/
def byteOrderMark : Char := '\ufeff'

/-- The text of bytes, with a replacement for each fault and without the mark at the front. -/
def lenient (bytes : List UInt8) : List Char :=
  match (decode bytes).map (·.getD replacement) with
  | [] => []
  | c :: rest => if c = byteOrderMark then rest else c :: rest

end NodeTelemetry.Text.Utf8
