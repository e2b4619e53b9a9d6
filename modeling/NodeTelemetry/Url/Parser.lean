import NodeTelemetry.Url.Basic

/-!
# Reading URLs

A text is read as a URL of its own or relative to a base. Blanks and controls at its ends and tabs and line
ends inside are dropped first. In special URLs a backslash is a slash, and any number of slashes may
stand before the host.

## Main definitions

* `Url.resolveSegments`: a path without the segments that point to itself or to its parent.
* `Url.parse`: the URL of a text.
* `Url.join`: the URL of a text relative to a base.
-/

namespace NodeTelemetry.Url

/-- The characters of a text that count. -/
def clean (s : List Char) : List Char :=
  let isEdge (c : Char) : Bool := c.toNat ≤ 0x20
  let trimmed := ((s.dropWhile isEdge).reverse.dropWhile isEdge).reverse
  trimmed.filter fun c => c ≠ '\t' && c ≠ '\n' && c ≠ '\r'

/-- Whether a character may stand in a scheme. -/
def isSchemeChar (c : Char) : Bool :=
  c.isAlphanum || c == '+' || c == '-' || c == '.'

/-- The scheme at the front, in lower case, and the rest after its colon. -/
def cutScheme (s : List Char) : Option (String × List Char) :=
  match s with
  | c :: _ =>
    if c.isAlpha then
      let name := s.takeWhile isSchemeChar
      match s.dropWhile isSchemeChar with
      | ':' :: rest => some (String.ofList (name.map Char.toLower), rest)
      | _ => none
    else none
  | [] => none

/-! ### Paths -/

/-- Whether a character separates the segments of a path. -/
def isSlash (special : Bool) (c : Char) : Bool :=
  c == '/' || (special && c == '\\')

/-- The pieces of a path between its slashes. -/
def splitSegments (special : Bool) : List Char → List (List Char)
  | [] => [[]]
  | c :: rest =>
    if isSlash special c then [] :: splitSegments special rest
    else
      match splitSegments special rest with
      | [] => [[c]]
      | s :: ss => (c :: s) :: ss

/-- Whether a segment points to the parent. -/
def isParent (segment : String) : Bool :=
  ["..", "%2e%2e", "%2e.", ".%2e"].contains (String.ofList (segment.toList.map Char.toLower))

/-- Whether a segment points to itself. -/
def isSelf (segment : String) : Bool :=
  [".", "%2e"].contains (String.ofList (segment.toList.map Char.toLower))

/-- Whether a segment can not be left through a segment that points to the parent: a letter with a colon or a bar,
which may stand for a drive. A backslash, which is part of a segment where the scheme is not special, ends the name of
the drive. -/
def isFixed (segment : String) : Bool :=
  match segment.toList with
  | [c, d] => isDriveName c d
  | c :: d :: '\\' :: _ => isDriveName c d
  | _ => false

/-- The segments without the last one, unless that is fixed. -/
def leaveSegment (done : List String) : List String :=
  match done.getLast? with
  | some last => if isFixed last then done else done.dropLast
  | none => done

/-- Puts a segment at the end. The first segment of a file URL has its drive written with a colon. -/
def addSegment (file : Bool) (done : List String) (segment : String) : List String :=
  if file && done.isEmpty then [driveSegment segment] else done ++ [segment]

/-- The path of further segments behind `done`. A segment that points to the parent drops the one before it;
at the end, a segment that points anywhere leaves a slash. -/
def resolveSegments (file : Bool) (done : List String) : List String → List String
  | [] => done
  | [last] =>
    if isParent last then leaveSegment done ++ [""]
    else if isSelf last then done ++ [""]
    else addSegment file done last
  | s :: rest =>
    if isParent s then resolveSegments file (leaveSegment done) rest
    else if isSelf s then resolveSegments file done rest
    else resolveSegments file (addSegment file done s) rest

/-- A file path without the empty segments at its front. -/
def trimFilePath (segments : List String) : List String :=
  match segments.dropWhile (· = "") with
  | [] => [""]
  | ss => ss

/-- The segments of a path text behind `done`. Those of a file URL may still have empty ones at the front. -/
def rawSegments (scheme : String) (done : List String) (path : List Char) : List String :=
  resolveSegments (scheme == "file") done
    ((splitSegments (isSpecialScheme scheme) path).map fun s => String.ofList (encode EncodeSet.path s))

/-- The segments of a path text behind `done`. -/
def readSegments (scheme : String) (done : List String) (path : List Char) : List String :=
  let segments := rawSegments scheme done path
  if scheme == "file" then trimFilePath segments else segments

/-- The text of a path without the slash at its front. -/
def dropSlash (special : Bool) (path : List Char) : List Char :=
  match path with
  | c :: rest => if isSlash special c then rest else path
  | [] => []

/-! ### Parts -/

/-- The parts before the query and the fragment. -/
def beforeTail (s : List Char) : List Char :=
  s.takeWhile fun c => c ≠ '?' && c ≠ '#'

/-- The query and the fragment. -/
def readTail (special : Bool) (s : List Char) : Option String × Option String :=
  let tail := s.dropWhile fun c => c ≠ '?' && c ≠ '#'
  let fragmentOf (s : List Char) : Option String :=
    match s with
    | '#' :: rest => some (String.ofList (encode EncodeSet.fragment rest))
    | _ => none
  match tail with
  | '?' :: rest =>
    let set := if special then EncodeSet.specialQuery else EncodeSet.query
    (some (String.ofList (encode set (rest.takeWhile (· ≠ '#')))),
      fragmentOf (rest.dropWhile (· ≠ '#')))
  | rest => (none, fragmentOf rest)

/-- The user name and the password. -/
def readCredentials (s : List Char) : String × String :=
  let encoded (s : List Char) : String := String.ofList (encode EncodeSet.userInfo s)
  match Text.cutAtFirst ':' s with
  | some (name, password) => (encoded name, encoded password)
  | none => (encoded s, "")

/-- The host text at the front of an authority, up to a colon outside of brackets, and the rest. -/
def cutHost (inBrackets : Bool) : List Char → List Char × List Char
  | [] => ([], [])
  | c :: rest =>
    if c = ':' && !inBrackets then ([], c :: rest)
    else
      let inBrackets := if c = '[' then true else if c = ']' then false else inBrackets
      let (host, after) := cutHost inBrackets rest
      (c :: host, after)

/-- The port behind the host, unless there is none or it is the one of the scheme, and what follows it. Only a
backslash may follow, which ends a port in every scheme. -/
def readPort (scheme : String) (s : List Char) : Except UrlError (Option Nat × List Char) :=
  match s with
  | ':' :: rest =>
    let digits := rest.takeWhile Char.isDigit
    let after := rest.dropWhile Char.isDigit
    let n := digits.foldl (fun n c => 10 * n + (c.toNat - '0'.toNat)) 0
    if n > 65535 || !(after.isEmpty || after.head? = some '\\') then .error .invalidPort
    else .ok (if digits.isEmpty || some n = defaultPort? scheme then none else some n, after)
  | s => .ok (none, s)

/-- The host of an authority without credentials, in a scheme. -/
def readHost (scheme : String) (s : List Char) : Except UrlError Host :=
  if isSpecialScheme scheme then
    if s.isEmpty then .error .emptyHost else Host.read s
  else Host.readOpaque s

/-- The path behind an authority. -/
def pathAfterAuthority (scheme : String) (path : List Char) : List String :=
  let special := isSpecialScheme scheme
  if special || !path.isEmpty then readSegments scheme [] (dropSlash special path) else []

/-- The URL of a text behind the slashes that announce an authority. -/
def afterSlashes (scheme : String) (s : List Char) : Except UrlError Url := do
  let special := isSpecialScheme scheme
  let front := beforeTail s
  let authority := front.takeWhile fun c => !isSlash special c
  let path := front.dropWhile fun c => !isSlash special c
  let (credentials, address) :=
    match Text.cutAtLast '@' authority with
    | some (credentials, address) => (some credentials, address)
    | none => (none, authority)
  if credentials = some [] && address.isEmpty && authority.length < s.length then
    .error .emptyHost
  let (username, password) := readCredentials (credentials.getD [])
  let (hostText, portText) := cutHost false address
  let host ← readHost scheme hostText
  if host.isEmpty && (!portText.isEmpty || username ≠ "" || password ≠ "") then .error .emptyHost
  let (port, rest) ← readPort scheme portText
  let (query, fragment) := readTail special s
  .ok ⟨scheme, username, password, some host, port,
    .segments (pathAfterAuthority scheme (rest ++ path)), query, fragment⟩

/-- The URL of a text behind a scheme that is not special. -/
def afterPlainScheme (scheme : String) (s : List Char) : Except UrlError Url :=
  match s with
  | '/' :: '/' :: rest => afterSlashes scheme rest
  | s =>
    let (query, fragment) := readTail false s
    let path :=
      match beforeTail s with
      | '/' :: rest => UrlPath.segments (readSegments scheme [] rest)
      | front => .opaqueText (String.ofList (encode EncodeSet.controls front))
    .ok ⟨scheme, "", "", none, none, path, query, fragment⟩

/-! ### Files -/

/-- Whether a text begins with the segment of a drive. -/
def startsWithDrive (s : List Char) : Bool :=
  isLooseDrive (String.ofList (s.take 2)) &&
    (match s.drop 2 with
      | [] => true
      | c :: _ => "/\\?#".toList.contains c)

/-- A file URL. -/
def fileUrl (host : Option Host) (done : List String) (path s : List Char) : Url :=
  let (query, fragment) := readTail true s
  ⟨"file", "", "", some (host.getD (.domain "")), none,
    .segments (readSegments "file" done path), query, fragment⟩

/-- The host of a file URL behind two slashes, if the name is one and does not stand for this machine. -/
def readFileHost (name : List Char) : Except UrlError (Option Host) :=
  if name.isEmpty then .ok none
  else (Host.read name).map fun host => if host = .domain "localhost" then none else some host

/-- The file URL of a text behind two slashes: a host, unless it is a drive. A path that begins with a drive leaves no
host, and without a host the slash at the front of the path makes an empty segment. -/
def fileAfterSlashes (s : List Char) : Except UrlError Url := do
  let front := beforeTail s
  let name := front.takeWhile fun c => !isSlash true c
  let path := front.dropWhile fun c => !isSlash true c
  if isLooseDrive (String.ofList name) then .ok (fileUrl none [] front s)
  else
    match ← readFileHost name with
    | none => .ok (fileUrl none [] path s)
    | some host =>
      let path := dropSlash true path
      let hasDrive := (rawSegments "file" [] path).head?.any isDrive
      .ok (fileUrl (if hasDrive then none else some host) [] path s)

/-- The segments of a base that is a file URL. -/
def baseSegments (base : Option Url) : List String :=
  match base with
  | some b =>
    match b.path with
    | .segments ss => ss
    | .opaqueText _ => []
  | none => []

/-- The segments without the last one, but never without a drive. -/
def dropLeaf (segments : List String) : List String :=
  match segments.getLast? with
  | some last => if isDrive last then segments else segments.dropLast
  | none => segments

/-- The file URL of a text behind the scheme, relative to a base that is a file URL if there is one. -/
def fileAfterScheme (base : Option Url) (s : List Char) : Except UrlError Url :=
  let front := beforeTail s
  let host := base.bind fun b => b.host
  match s with
  | c :: rest =>
    if isSlash true c then
      match rest with
      | d :: after =>
        if isSlash true d then fileAfterSlashes after
        else fileAfterSlash host front s
      | [] => fileAfterSlash host front s
    else
      match base with
      | none => .ok (fileUrl none [] front s)
      | some b =>
        let (query, fragment) := readTail true s
        if c = '?' then .ok { b with query := query, fragment := fragment }
        else if c = '#' then .ok { b with fragment := fragment }
        else if startsWithDrive s then .ok (fileUrl none [] front s)
        else .ok (fileUrl host (dropLeaf (baseSegments base)) front s)
  | [] =>
    match base with
    | none => .ok (fileUrl none [] [] s)
    | some b => .ok b.withoutFragment
where
  /-- The file URL of a text with one slash at its front. -/
  fileAfterSlash (host : Option Host) (front s : List Char) : Except UrlError Url :=
    let path := dropSlash true front
    if startsWithDrive path then .ok (fileUrl none [] path s)
    else
      match (baseSegments base).head? with
      | some first =>
        if isDrive first then .ok (fileUrl none [first] path s) else .ok (fileUrl host [] path s)
      | none => .ok (fileUrl host [] path s)

/-! ### Relative URLs -/

/-- The URL of a text that has no scheme, relative to a base that is no file URL and has segments. -/
def relativeTo (base : Url) (s : List Char) : Except UrlError Url :=
  let special := base.isSpecial
  let front := beforeTail s
  let (query, fragment) := readTail special s
  match s with
  | [] => .ok base.withoutFragment
  | '?' :: _ => .ok { base with query := query, fragment := fragment }
  | '#' :: _ => .ok { base with fragment := fragment }
  | c :: _ =>
    if c = '/' || c = '\\' then
      let isAnySlash (c : Char) : Bool := c == '/' || c == '\\'
      if (s.takeWhile isAnySlash).length ≥ 2 then
        match s with
        | '/' :: '/' :: rest => afterSlashes base.scheme rest
        | s => afterSlashes base.scheme (s.dropWhile isAnySlash)
      else
        .ok { base with
          path := .segments (readSegments base.scheme [] (front.drop 1))
          query := query
          fragment := fragment }
    else
      let done := (baseSegments (some base)).dropLast
      .ok { base with
        path := .segments (readSegments base.scheme done front)
        query := query
        fragment := fragment }

/-- The URL of a text behind its scheme. A special scheme without two slashes is relative to a base
of the same scheme. -/
def afterScheme (base : Option Url) (scheme : String) (s : List Char) : Except UrlError Url :=
  if scheme = "file" then fileAfterScheme (base.filter fun b => b.scheme == "file") s
  else if isSpecialScheme scheme then
    let slashes := s.takeWhile (isSlash true)
    match base with
    | some b =>
      if slashes.length < 2 ∧ b.scheme = scheme then relativeTo b s
      else afterSlashes scheme (s.dropWhile (isSlash true))
    | none => afterSlashes scheme (s.dropWhile (isSlash true))
  else afterPlainScheme scheme s

/-- The URL of a text, relative to a base if there is one. -/
def read (base : Option Url) (text : String) : Except UrlError Url :=
  let s := clean text.toList
  match cutScheme s with
  | some (scheme, rest) => afterScheme base scheme rest
  | none =>
    match base with
    | none => .error .relativeWithoutBase
    | some b =>
      if s.head? = some '#' then
        .ok { b with fragment := (readTail b.isSpecial s).2 }
      else if b.isOpaque then .error .relativeWithOpaqueBase
      else if b.scheme = "file" then fileAfterScheme base s
      else relativeTo b s

/-- The URL of a text. -/
def parse (text : String) : Except UrlError Url :=
  read none text

/-- The URL of a text relative to a base. -/
def join (base : Url) (text : String) : Except UrlError Url :=
  read (some base) text

end NodeTelemetry.Url
