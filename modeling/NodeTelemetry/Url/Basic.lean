import NodeTelemetry.Url.Host

/-!
# URLs

A URL in its parts, following the URL Standard: scheme, user name and password, host, port, path, query
and fragment. The schemes of the web are *special*: their URLs have a host, and a path that is a list
of segments.

## Main definitions

* `Url.text`: the written form.
* `Url.effectivePort?`: the port to which requests go.
* `Url.withScheme`: the URL under another special scheme.
* `Url.withSlash`: the URL with a slash at the end of its path.
-/

namespace NodeTelemetry

/-- The path of a URL. -/
inductive UrlPath where
  /-- A text without structure, of a URL that can not be a base. -/
  | opaqueText (path : String)
  /-- Segments, each behind a slash. -/
  | segments (segments : List String)
  deriving DecidableEq, Repr

/-- The written form of a path. -/
def UrlPath.text : UrlPath → String
  | opaqueText path => path
  | segments ss => String.join (ss.map fun s => "/" ++ s)

/-- A URL. Every part is in its written form; an empty user name or password is the same as none. -/
structure Url where
  scheme : String
  username : String
  password : String
  host : Option Host
  /-- The port, unless it is the one of the scheme. -/
  port : Option Nat
  path : UrlPath
  query : Option String
  fragment : Option String
  deriving DecidableEq, Repr

namespace Url

/-- The special schemes with their ports. -/
def specialSchemes : List (String × Option Nat) :=
  [("http", some 80), ("https", some 443), ("ws", some 80), ("wss", some 443), ("ftp", some 21),
    ("file", none)]

/-- Whether a scheme is special. -/
def isSpecialScheme (scheme : String) : Bool :=
  (specialSchemes.lookup scheme).isSome

/-- The port of a scheme. -/
def defaultPort? (scheme : String) : Option Nat :=
  (specialSchemes.lookup scheme).join

/-- Whether the URL has a special scheme. -/
def isSpecial (u : Url) : Bool := isSpecialScheme u.scheme

/-- Whether the path has no structure. -/
def isOpaque (u : Url) : Bool :=
  match u.path with
  | .opaqueText _ => true
  | .segments _ => false

/-- Whether there is a host that is not the empty name. -/
def hasHost (u : Url) : Bool :=
  match u.host with
  | some host => !host.isEmpty
  | none => false

/-- The port to which requests go: the one of the URL or else the one of the scheme. -/
def effectivePort? (u : Url) : Option Nat :=
  u.port <|> defaultPort? u.scheme

/-- The user name and the password before the host. -/
def credentialsText (u : Url) : String :=
  if u.username = "" ∧ u.password = "" then ""
  else u.username ++ (if u.password = "" then "" else ":" ++ u.password) ++ "@"

/-- What stands between the scheme and the path. A path that begins with two slashes has a mark before it where
there is no host, so that it is not taken for one. -/
def authorityText (u : Url) : String :=
  match u.host with
  | some host =>
    "//" ++ u.credentialsText ++ host.text ++
      (match u.port with
        | some port => ":" ++ toString port
        | none => "")
  | none =>
    match u.path with
    | .segments ("" :: _ :: _) => "/."
    | _ => ""

/-- The written form of a part that has a mark before it. -/
def markedText (mark : String) : Option String → String
  | some s => mark ++ s
  | none => ""

/-- The written form of a URL. -/
def text (u : Url) : String :=
  u.scheme ++ ":" ++ u.authorityText ++ u.path.text ++ markedText "?" u.query ++
    markedText "#" u.fragment

/-- The URL without its fragment, which is not part of a request. -/
def withoutFragment (u : Url) : Url := { u with fragment := none }

/-- The URL under another scheme. A special URL stays special and keeps its host; a port that is the one
of the new scheme is dropped. -/
def withScheme (u : Url) (scheme : String) : Option Url :=
  if isSpecialScheme scheme = u.isSpecial ∧ (u.hasHost ∨ ¬ isSpecialScheme scheme) then
    some { u with
      scheme := scheme
      port := if u.port = defaultPort? scheme then none else u.port }
  else none

/-! ### Drives -/

/-- Whether two characters name a drive: a letter with a colon or a bar. -/
def isDriveName (c d : Char) : Bool :=
  c.isAlpha && (d == ':' || d == '|')

/-- Whether a segment names a drive. -/
def isLooseDrive (segment : String) : Bool :=
  match segment.toList with
  | [c, d] => isDriveName c d
  | _ => false

/-- Whether a segment names a drive with a colon. -/
def isDrive (segment : String) : Bool :=
  isLooseDrive segment && segment.toList.getLast? == some ':'

/-- A segment with its drive written with a colon, if it names one. -/
def driveSegment (segment : String) : String :=
  if isLooseDrive segment then String.ofList (segment.toList.take 1 ++ [':']) else segment

/-! ### Slashes -/

/-- The segments of a path that is set anew, with a slash at the end. Where there is a host, a drive at the front of a
file path is written with a colon. -/
def segmentsWithSlash (u : Url) (segments : List String) : List String :=
  match segments with
  | first :: rest =>
    (if u.scheme = "file" ∧ u.hasHost then driveSegment first else first) :: rest ++ [""]
  | [] => [""]

/-- The URL with a slash at the end of its path. In a path without structure a slash at the front is encoded. -/
def withSlash (u : Url) : Url :=
  match u.path with
  | .opaqueText "" => { u with path := .opaqueText "%2F" }
  | .opaqueText path =>
    if path.endsWith "/" then u else { u with path := .opaqueText (path ++ "/") }
  | .segments ss =>
    if ss.getLast? = some "" then u else { u with path := .segments (u.segmentsWithSlash ss) }

end Url

end NodeTelemetry
