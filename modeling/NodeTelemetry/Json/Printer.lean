import NodeTelemetry.Decimal.Layout
import NodeTelemetry.Json.Basic

/-!
# Printing JSON

The compact form: no blanks, fields in their order. In strings, quotes and backslashes stand behind a
backslash, and so do the controls, with a letter where there is one and with four hexadecimal
digits otherwise; every other character stands for itself. In particular a printed value never
holds a line feed.
-/

namespace NodeTelemetry.Json

/-- A hexadecimal digit in lower case. -/
def hexDigit (n : Nat) : Char :=
  if n < 10 then Char.ofNat (n + 48) else Char.ofNat (n + 87)

/-- The form of one character in a string. -/
def escapedChar (c : Char) : List Char :=
  match c with
  | '"' => ['\\', '"']
  | '\\' => ['\\', '\\']
  | '\x08' => ['\\', 'b']
  | '\t' => ['\\', 't']
  | '\n' => ['\\', 'n']
  | '\x0c' => ['\\', 'f']
  | '\r' => ['\\', 'r']
  | c =>
    if c.toNat < 0x20 then
      ['\\', 'u', '0', '0', hexDigit (c.toNat / 16), hexDigit (c.toNat % 16)]
    else [c]

/-- The form of a string, with its quotes. -/
def stringChars (s : String) : List Char :=
  '"' :: (s.toList.flatMap escapedChar ++ ['"'])

mutual

/-- The characters of a value. -/
def chars : Json → List Char
  | null => "null".toList
  | bool b => (if b then "true" else "false").toList
  | int n => (toString n).toList
  | float x => (Decimal.Layout.json.text x).toList
  | str s => stringChars s
  | arr items => '[' :: (itemChars items ++ [']'])
  | obj fields => '\x7b' :: (fieldChars fields ++ ['\x7d'])
  | unreadable => "null".toList

/-- The characters of the values of a list, with commas between them. -/
def itemChars : List Json → List Char
  | [] => []
  | [j] => j.chars
  | j :: k :: rest => j.chars ++ ',' :: itemChars (k :: rest)

/-- The characters of fields, with commas between them. -/
def fieldChars : List (String × Json) → List Char
  | [] => []
  | [(key, j)] => stringChars key ++ ':' :: j.chars
  | (key, j) :: f :: rest => stringChars key ++ ':' :: (j.chars ++ ',' :: fieldChars (f :: rest))

end

/-- The compact text of a value. -/
def text (j : Json) : String :=
  String.ofList j.chars

end NodeTelemetry.Json
