import TaskQueue.Error
import TaskQueue.Files
import TaskQueue.Json.Decode

/-!
# `TaskQueue.Connection.Tls`: options of an encrypted connection

There are five named options, and any number of others that are passed through. Setting any of
them, whatever its value, asks for an encrypted connection.
-/

set_option autoImplicit false

namespace TaskQueue

/-- The options of an encrypted connection. -/
structure TlsOptions where
  caCert : Option String := none
  cert : Option String := none
  key : Option String := none
  skipVerify : Bool := false
  serverName : Option String := none
  extra : Json.Map := .empty
deriving Repr, Inhabited

/-- What is wrong with the options. -/
inductive TlsFault where
  | missingCertOrKey
  | fileNotFound (path : String)
  | invalidCertificate (reason : String)
deriving DecidableEq, Repr

namespace TlsFault

/-- The fault in words. -/
def message : TlsFault → String
  | missingCertOrKey => "TLS requires both cert and key, or neither"
  | fileNotFound path => "File not found: " ++ path
  | invalidCertificate reason => "Invalid certificate: " ++ reason

/-- The fault as the client reports it. -/
def toError (f : TlsFault) : Error := .configuration f.message

end TlsFault

namespace TlsOptions

instance : BEq TlsOptions where
  beq a b := a.caCert == b.caCert && a.cert == b.cert && a.key == b.key &&
    a.skipVerify == b.skipVerify && a.serverName == b.serverName &&
    Json.beqMembers a.extra.entries b.extra.entries

/-- Options that check the broker against a certificate. -/
def withCa (caCert : String) : TlsOptions := { caCert := some caCert }

/-- Options with a certificate of the client. -/
def withClientCert (caCert cert key : String) : TlsOptions :=
  { caCert := some caCert, cert := some cert, key := some key }

/-- Sets an option that is passed through. -/
def option (o : TlsOptions) (key : String) (value : Json.Value) : TlsOptions :=
  { o with extra := o.extra.set key value }

/-- Whether no option is set. -/
def isEmpty (o : TlsOptions) : Bool :=
  o.caCert.isNone && o.cert.isNone && o.key.isNone && !o.skipVerify && o.serverName.isNone &&
    o.extra.entries.isEmpty

/-- Whether the client has a certificate. -/
def isMutual (o : TlsOptions) : Bool := o.cert.isSome && o.key.isSome

/-- The paths that are set. -/
def paths (o : TlsOptions) : List String := [o.caCert, o.cert, o.key].filterMap id

/-- Checks that certificate and key come together and that the files exist. -/
def validate (o : TlsOptions) (files : Files) : Except TlsFault Unit :=
  if o.cert.isSome != o.key.isSome then .error .missingCertOrKey
  else
    match o.paths.find? fun p => !files.contains p with
    | some p => .error (.fileNotFound p)
    | none => .ok ()

/-- Reads the certificate that the broker is checked against, if one is set. -/
def caChain (o : TlsOptions) (files : Files) : Except TlsFault (Option String) :=
  match o.caCert with
  | none => .ok none
  | some path =>
    match files.readText path with
    | .ok s => .ok (some s)
    | .error e => .error (.invalidCertificate (path ++ ": " ++ e.message))

/-- Takes a text off the front of another. -/
def dropFront : List Char → List Char → Option (List Char)
  | [], cs => some cs
  | _ :: _, [] => none
  | c :: front, d :: cs => if c = d then dropFront front cs else none

/-- Turns the URL of a plain connection into that of an encrypted one. -/
def applyToUrl (url : String) : String :=
  match dropFront "amqp://".toList url.toList with
  | some rest => "amqps://" ++ String.ofList rest
  | none => url

/-- A member for an option that is set. -/
def optionMember (key : String) : Option String → List (String × Json)
  | some s => [(key, .string s)]
  | none => []

/-- The members in the order in which they are written; options that are not set are left
out. -/
def members (o : TlsOptions) : List (String × Json) :=
  optionMember "ca_cert" o.caCert ++ optionMember "cert" o.cert ++ optionMember "key" o.key ++
    (if o.skipVerify then [("skip_verify", .bool true)] else []) ++
    optionMember "server_name" o.serverName ++ o.extra.entries

/-- The options as a value. -/
def toJson (o : TlsOptions) : Json := .object o.members

open Decode in
/-- Reads options. -/
def decode : Decoder TlsOptions :=
  let path := optional (textAs "path string")
  openRecord "TlsOptions"
    [("ca_cert", check path), ("cert", check path), ("key", check path),
      ("skip_verify", check bool), ("server_name", check (optional text))]
    fun p extra => do
      .ok {
        caCert := ← p.field "ca_cert" path none
        cert := ← p.field "cert" path none
        key := ← p.field "key" path none
        skipVerify := ← p.field "skip_verify" bool false
        serverName := ← p.field "server_name" (optional text) none
        extra := extra }

end TlsOptions
end TaskQueue
