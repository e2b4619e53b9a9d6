import NodeTelemetry.Cluster.Api
import NodeTelemetry.Text.Blank

/-!
# The service account

Secure requests trust the authority of the cluster and carry a token. Both are files of the service account: the
certificate of the authority, which is read first, and the token.
-/

namespace NodeTelemetry.ServiceAccount

open Cluster (ApiError)

/-- Files in a directory by name. -/
abbrev Files := String → Option (List UInt8)

/-- The name of the file with the certificate of the authority. -/
def authorityFile : String := "ca.crt"

/-- The name of the file with the token. -/
def tokenFile : String := "token"

/-- The path of a file in a directory. -/
def pathIn (directory file : String) : String :=
  if directory = "" then file else directory ++ "/" ++ file

/-- Whether a byte may stand in the header of a request. -/
def isHeaderByte (b : UInt8) : Bool :=
  b = 9 || (32 ≤ b && b ≠ 127)

/-- The header that carries a token: the token without the blanks around it, behind a word that says what
it is. -/
def bearer? (token : List UInt8) : Option String := do
  let text ← Text.Utf8.read? token
  let header := "Bearer " ++ String.ofList (Text.trim text)
  if header.toUTF8.toList.all isHeaderByte then some header else none

/-- The header of secure requests, from the files of a directory. -/
def header (directory : String) (files : Files) : Except ApiError String :=
  match files authorityFile, files tokenFile with
  | none, _ => .error (.credentials (pathIn directory authorityFile))
  | some _, none => .error (.credentials (pathIn directory tokenFile))
  | some _, some token =>
    match bearer? token with
    | some header => .ok header
    | none => .error .invalidToken

end NodeTelemetry.ServiceAccount
