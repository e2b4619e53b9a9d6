import NodeTelemetry.Pass
import NodeTelemetry.Text.LowerCase

/-!
# Settings

The collector is set up by variables of its environment. The variables that concern it begin with a common
mark; the rest of the name, in lower case, names a setting. Unknown names are ignored, and of two variables for
one setting the last counts.

A name that goes on behind the setting with a point or an index speaks of a part of it, and then the setting is
no text and can not be used.

## Main definitions

* `Settings.load`: the settings that variables give.
* `Settings.passConfig`: what the settings tell a pass.
-/

namespace NodeTelemetry

/-- The settings of the collector. -/
structure Settings where
  nodeName : String
  clusterName : String
  timeoutMillis : UInt64
  cacheDirectory : String
  cacheSeconds : UInt64
  kubeletUrl : Option String
  stateMetricsUrl : Option String
  deriving DecidableEq, Repr

/-- What is said about a setting. -/
inductive Setting where
  | text (s : String)
  /-- The variable names an entry of a table. -/
  | table
  /-- The variable names an item of a list. -/
  | list
  deriving DecidableEq, Repr

/-- What kind of value a setting wants. -/
inductive SettingKind where
  | text
  | number
  deriving DecidableEq, Repr

/-- A setting that can not be used. -/
structure SettingsError where
  name : String
  wanted : SettingKind
  found : Setting
  deriving DecidableEq, Repr

namespace SettingsError

/-- What a setting is, and where it stands. -/
def foundText : Setting → String × String
  | .text s => ("string " ++ Text.quoted s, " in the environment")
  | .table => ("map", "")
  | .list => ("sequence", "")

/-- The wording of a setting that can not be used. -/
def message (e : SettingsError) : String :=
  let (found, place) := foundText e.found
  let wanted :=
    match e.wanted with
    | .text => "a string"
    | .number => "an integer"
  "invalid telemetry configuration: invalid type: " ++ found ++ ", expected " ++ wanted ++
    " for key \x60" ++ e.name ++ "\x60" ++ place

end SettingsError

namespace Settings

/-! ### Names of variables -/

/-- What the names of the variables begin with. -/
def mark : List Char := "telemetry_".toList

/-- Whether a character may stand in the name of a setting. -/
def isNameChar (c : Char) : Bool :=
  c.isAlphanum || c == ' ' || c == '_' || c == '-'

/-- Whether a text is an index: a number in brackets, with blanks around it. It gives the rest. -/
def cutIndex (s : List Char) : Option (List Char) :=
  let isSpace (c : Char) : Bool := c == ' ' || c == '\t' || c == '\n' || c == '\r'
  let body := s.dropWhile isSpace
  let digits := body.takeWhile Char.isDigit
  match (body.drop digits.length).dropWhile isSpace with
  | ']' :: rest => if digits.isEmpty then none else some rest
  | _ => none

/-- Whether a text consists of steps into a table or a list. -/
def isPath : Nat → List Char → Bool
  | _, [] => true
  | 0, _ => false
  | fuel + 1, '.' :: rest =>
    let name := rest.takeWhile isNameChar
    !name.isEmpty && isPath fuel (rest.drop name.length)
  | fuel + 1, '[' :: rest =>
    match cutIndex rest with
    | some rest => isPath fuel rest
    | none => false
  | _, _ => false

/-- The setting that a name without its mark speaks of, and what it says about it. -/
def settingOf (name : List Char) (value : String) : String × Setting :=
  let root := name.takeWhile isNameChar
  let path := name.dropWhile isNameChar
  if root.isEmpty || !isPath path.length path then (String.ofList name, .text value)
  else
    match path with
    | [] => (String.ofList name, .text value)
    | '.' :: _ => (String.ofList root, .table)
    | _ => (String.ofList root, .list)

/-- The setting that a variable speaks of, if it concerns the collector. -/
def ofVariable (v : String × String) : Option (String × Setting) :=
  (mark.isPrefixOf? (v.1.toList.map Text.lower)).map fun name => settingOf name v.2

/-- All settings that variables give. -/
def ofVariables (vars : List (String × String)) : TextMap Setting :=
  .ofList (vars.filterMap ofVariable)

/-! ### Values -/

/-- A whole number of 64 bits: digits behind an optional plus, or a word for yes or no. -/
def readNumber? (s : String) : Option UInt64 :=
  let word := String.ofList (s.toList.map Text.lower)
  if ["true", "on", "yes"].contains word then some 1
  else if ["false", "off", "no"].contains word then some 0
  else
    let digits :=
      match s.toList with
      | '+' :: rest => rest
      | cs => cs
    let n := Decimal.digitsValue digits
    if digits.isEmpty || !digits.all Char.isDigit || UInt64.size ≤ n then none
    else some (UInt64.ofNat n)

/-- A setting that is a text, if it is given. -/
def text? (settings : TextMap Setting) (name : String) : Except SettingsError (Option String) :=
  match settings.get? name with
  | none => .ok none
  | some (.text s) => .ok (some s)
  | some found => .error ⟨name, .text, found⟩

/-- A setting that is a number, if it is given. -/
def number? (settings : TextMap Setting) (name : String) : Except SettingsError (Option UInt64) :=
  match settings.get? name with
  | none => .ok none
  | some (.text s) =>
    match readNumber? s with
    | some n => .ok (some n)
    | none => .error ⟨name, .number, .text s⟩
  | some found => .error ⟨name, .number, found⟩

/-- The variable that names the node when no setting does. -/
def nodeVariable : String := "NODE_NAME"

/-- The names of all settings. -/
def names : List String :=
  ["node_name", "cluster_name", "timeout_ms", "cache_dir", "cache_ttl_secs", "kubelet_url", "ksm_url"]

/-- The usual name of the variable of a setting. -/
def variableName (name : String) : String :=
  (String.ofList mark ++ name).map Char.toUpper

/-- The settings that variables give, with the usual ones where nothing is said. -/
def load (vars : List (String × String)) : Except SettingsError Settings := do
  let given := ofVariables vars
  let node := ((TextMap.ofList vars).get? nodeVariable).getD PassConfig.default.nodeName
  let nodeName ← text? given "node_name"
  let clusterName ← text? given "cluster_name"
  let timeout ← number? given "timeout_ms"
  let directory ← text? given "cache_dir"
  let seconds ← number? given "cache_ttl_secs"
  let kubeletUrl ← text? given "kubelet_url"
  let stateMetricsUrl ← text? given "ksm_url"
  return {
    nodeName := nodeName.getD node
    clusterName := clusterName.getD PassConfig.default.clusterName
    timeoutMillis := timeout.getD (UInt64.ofNat PassConfig.default.timeout.millis)
    cacheDirectory := directory.getD PassConfig.default.cacheDirectory
    cacheSeconds := seconds.getD (UInt64.ofNat PassConfig.default.cacheSeconds)
    kubeletUrl := kubeletUrl
    stateMetricsUrl := stateMetricsUrl }

/-- What the settings tell a pass: an empty endpoint is none. -/
def passConfig (s : Settings) : PassConfig where
  nodeName := s.nodeName
  clusterName := s.clusterName
  timeout := ⟨s.timeoutMillis.toNat⟩
  cacheDirectory := s.cacheDirectory
  cacheSeconds := s.cacheSeconds.toNat
  kubeletUrl := Locator.given? s.kubeletUrl
  stateMetricsUrl := Locator.given? s.stateMetricsUrl

end Settings

end NodeTelemetry
