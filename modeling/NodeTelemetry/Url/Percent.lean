/-!
# Percent-encoding

A byte is written as a percent sign and two hexadecimal digits. Which characters are written so
depends on the part of the URL; bytes beyond ASCII always are. Existing percent signs are kept.
-/

namespace NodeTelemetry.Url

/-- A set of ASCII characters that are encoded in some part of a URL. -/
abbrev EncodeSet := Char → Bool

namespace EncodeSet

/-- The controls. -/
def controls : EncodeSet := fun c => c.toNat < 0x20 || c.toNat == 0x7F

/-- What is encoded in a fragment. -/
def fragment : EncodeSet := fun c => controls c || " \"<>`".toList.contains c

/-- What is encoded in a query. -/
def query : EncodeSet := fun c => controls c || " \"#<>".toList.contains c

/-- What is encoded in the query of a special URL. -/
def specialQuery : EncodeSet := fun c => query c || c == '\''

/-- What is encoded in a path. -/
def path : EncodeSet := fun c => fragment c || "#?\x7b\x7d".toList.contains c

/-- What is encoded in a user name or a password. -/
def userInfo : EncodeSet := fun c => path c || "/:;=@[\\]^|".toList.contains c

end EncodeSet

/-- A hexadecimal digit in upper case. -/
def upperHexDigit (n : Nat) : Char :=
  if n < 10 then Char.ofNat (n + 48) else Char.ofNat (n + 55)

/-- The encoded form of a byte. -/
def percentByte (b : UInt8) : List Char :=
  ['%', upperHexDigit (b.toNat / 16), upperHexDigit (b.toNat % 16)]

/-- The form of a character in a part of a URL. -/
def encodeChar (set : EncodeSet) (c : Char) : List Char :=
  if c.toNat < 0x80 && !set c then [c] else (String.utf8EncodeChar c).flatMap percentByte

/-- The form of a text in a part of a URL. -/
def encode (set : EncodeSet) (s : List Char) : List Char :=
  s.flatMap (encodeChar set)

/-- The value of a hexadecimal digit. -/
def hexDigit? (c : Char) : Option Nat :=
  if c.isDigit then some (c.toNat - '0'.toNat)
  else if 'a' ≤ c && c ≤ 'f' then some (c.toNat - 'a'.toNat + 10)
  else if 'A' ≤ c && c ≤ 'F' then some (c.toNat - 'A'.toNat + 10)
  else none

/-- The bytes of a text in which encoded bytes stand for themselves. -/
def decodeBytes : List Char → List UInt8
  | [] => []
  | '%' :: a :: b :: rest =>
    match hexDigit? a, hexDigit? b with
    | some x, some y => UInt8.ofNat (16 * x + y) :: decodeBytes rest
    | _, _ => String.utf8EncodeChar '%' ++ decodeBytes (a :: b :: rest)
  | c :: rest => String.utf8EncodeChar c ++ decodeBytes rest

end NodeTelemetry.Url
