import TaskQueue.Url.Host
import TaskQueue.Url.Path

/-!
# `TaskQueue.Url.Basic`: URLs

A URL is taken apart by the rules of the URL standard: blanks around it and line breaks inside
it are dropped, the scheme is read in small letters, and after `//` come user name and
password, host, port and path. Query and fragment are dropped. User name, password and path
keep their escapes.
-/

set_option autoImplicit false

namespace TaskQueue

/-- A URL in its parts. -/
structure Url where
  scheme : String
  username : List Char
  password : List Char
  host : Option (List Char)
  port : Option UInt16
  path : List Char
deriving Repr

namespace Url

/-- Whether the character is dropped at the ends: a blank or a control character. -/
def isEdge (c : Char) : Bool := c.toNat ≤ 0x20

/-- Whether the character is dropped everywhere. -/
def isBreak (c : Char) : Bool := c == '\t' || c == '\n' || c == '\r'

/-- The text without what is dropped. -/
def cleaned (s : String) : List Char :=
  let cs := (s.toList.dropWhile isEdge).reverse.dropWhile isEdge |>.reverse
  cs.filter fun c => !isBreak c

/-- The rest of a scheme in small letters, up to its colon, and what follows. -/
def takeScheme : List Char → Option (List Char × List Char)
  | [] => none
  | c :: cs =>
    if c = ':' then some ([], cs)
    else if c.isAlphanum || c == '+' || c == '-' || c == '.' then
      (takeScheme cs).map fun r => (c.toLower :: r.1, r.2)
    else none

/-- A scheme, which begins with a letter, and what follows its colon. -/
def scheme? : List Char → Option (List Char × List Char)
  | [] => none
  | c :: cs => if c.isAlpha then takeScheme (c :: cs) else none

/-- The schemes of the web. -/
def webSchemes : List String := ["http", "https", "ws", "wss", "ftp"]

/-- Whether the character ends the authority. -/
def endsAuthority (web : Bool) (c : Char) : Bool :=
  c == '/' || c == '?' || c == '#' || (web && c == '\\')

/-- Whether the character ends the path. -/
def endsPath (c : Char) : Bool := c == '?' || c == '#'

/-- Splits an authority at its last `@`. -/
def splitUserinfo : List Char → Option (List Char) × List Char
  | [] => (none, [])
  | c :: cs =>
    match splitUserinfo cs with
    | (some user, rest) => (some (c :: user), rest)
    | (none, rest) => if c = '@' then (some [], rest) else (none, c :: rest)

/-- Splits user name and password at the first colon. -/
def splitPassword : List Char → List Char × List Char
  | [] => ([], [])
  | c :: cs =>
    if c = ':' then ([], cs)
    else let (user, password) := splitPassword cs; (c :: user, password)

/-- Splits host and port at the first colon outside of brackets. -/
def splitPort : (inBrackets : Bool) → List Char → List Char × Option (List Char)
  | _, [] => ([], none)
  | inBrackets, c :: cs =>
    if c = ':' ∧ !inBrackets then ([], some cs)
    else
      let inBrackets := if c = '[' then true else if c = ']' then false else inBrackets
      let (host, port) := splitPort inBrackets cs
      (c :: host, port)

/-- Reads the digits of a port, which must stay below 65536. -/
def readPort : (value : Nat) → List Char → Except UrlFault Nat
  | value, [] => .ok value
  | value, c :: cs =>
    if c.isDigit then
      let value := value * 10 + (c.toNat - 0x30)
      if value < 65536 then readPort value cs else .error .invalidPort
    else .error .invalidPort

/-- A port; without digits there is none. -/
def port? (cs : List Char) : Except UrlFault (Option UInt16) :=
  if cs.isEmpty then .ok none else (readPort 0 cs).map fun n => some (.ofNat n)

/-- Reads what follows `//`. -/
def ofAuthority (web : Bool) (scheme : String) (cs : List Char) : Except UrlFault Url := do
  let authority := cs.takeWhile fun c => !endsAuthority web c
  let behind := cs.dropWhile fun c => !endsAuthority web c
  let (userinfo, hostport) := splitUserinfo authority
  if userinfo = some [] ∧ hostport.isEmpty ∧ !behind.isEmpty then .error .emptyHost
  else
    let (username, password) := splitPassword (userinfo.getD [])
    let (hostText, portText) := splitPort false hostport
    if web ∧ hostText.isEmpty then .error .emptyHost
    else
      let host ← if web then Host.domainHost hostText else Host.opaqueHost hostText
      if host.isEmpty ∧ portText.isSome then .error .emptyHost
      else
        -- A backslash ends the port and begins the path.
        let port ← port? ((portText.getD []).takeWhile (· != '\\'))
        let between := (portText.getD []).dropWhile (· != '\\')
        if host.isEmpty ∧ !(username.isEmpty ∧ password.isEmpty) then .error .emptyHost
        else
          let path := UrlPath.ofChars (between ++ behind.takeWhile fun c => !endsPath c)
          .ok ⟨scheme, username, password, if host.isEmpty then none else some host, port, path⟩

/-- Reads what follows the scheme of a file, whose host is a domain name if there is one. -/
def ofFile (scheme : String) (cs : List Char) : Except UrlFault Url :=
  match cs with
  | a :: b :: rest =>
    if endsAuthority true a && endsAuthority true b && !endsPath a && !endsPath b then
      let host := rest.takeWhile fun c => !endsAuthority true c
      if host.isEmpty ∨ UrlPath.isDrive host then .ok ⟨scheme, [], [], none, none, rest⟩
      else (Host.domainHost host).map fun h => ⟨scheme, [], [], some h, none, rest⟩
    else .ok ⟨scheme, [], [], none, none, cs⟩
  | _ => .ok ⟨scheme, [], [], none, none, cs⟩

/-- Reads a URL. -/
def parse (s : String) : Except UrlFault Url :=
  match scheme? (cleaned s) with
  | none => .error .relative
  | some (schemeChars, cs) =>
    let scheme := String.ofList schemeChars
    if webSchemes.contains scheme then
      ofAuthority true scheme (cs.dropWhile fun c => c == '/' || c == '\\')
    else if scheme = "file" then ofFile scheme cs
    else
      match cs with
      | '/' :: '/' :: rest => ofAuthority false scheme rest
      | cs => .ok ⟨scheme, [], [], none, none, cs⟩

end Url
end TaskQueue
