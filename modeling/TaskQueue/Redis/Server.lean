import TaskQueue.Redis.Command
import TaskQueue.Connection.Descriptor

/-!
# `TaskQueue.Redis.Server`: a Redis server

The server keeps strings and lists under keys, in the order in which the keys were made. It
listens at one address. Whoever dials it introduces himself with the credentials and the
database of the URL. Single commands can be made to fail, and the server can be stopped; it
logs every command it gets.
-/

set_option autoImplicit false

namespace TaskQueue
namespace Redis

/-- What stands under a key. -/
inductive Entry where
  | string (value : Bytes)
  | list (items : List String)
deriving DecidableEq, Repr

/-- The keys of a server. -/
abbrev Keys := List (String × Entry)

namespace Keys

/-- What stands under a key. -/
def get? (key : String) : Keys → Option Entry
  | [] => none
  | (k, e) :: rest => if k = key then some e else get? key rest

/-- Puts an entry under a key. -/
def put (key : String) (e : Entry) : Keys → Keys
  | [] => [(key, e)]
  | (k, f) :: rest => if k = key then (key, e) :: rest else (k, f) :: put key e rest

/-- The keys without one. -/
def remove (key : String) (ks : Keys) : Keys := ks.filter fun k => k.1 != key

/-- The keys of strings. -/
def strings (ks : Keys) : List String :=
  ks.filterMap fun k =>
    match k.2 with
    | .string _ => some k.1
    | .list _ => none

/-- The keys of lists, with the lengths of the lists. -/
def lengths (ks : Keys) : List (String × Nat) :=
  ks.filterMap fun k =>
    match k.2 with
    | .string _ => none
    | .list items => some (k.1, items.length)

end Keys

/-- A server. -/
structure Server where
  listening : Bool := true
  keys : Keys := []
  /-- Commands that fail, with what they are replied with. -/
  failing : List (String × String) := []
  log : List Command := []
deriving Repr

namespace Server

/-- Where the server listens. -/
def host : String := "127.0.0.1"

/-- The port on which the server listens. -/
def port : UInt16 := 6379

/-- Stores a string. -/
def putString (s : Server) (key : String) (value : Bytes) : Server :=
  { s with keys := s.keys.put key (.string value) }

/-- Stores a list of one item. -/
def putList (s : Server) (key : String) (item : String) : Server :=
  { s with keys := s.keys.put key (.list [item]) }

/-- Makes a command fail, or no longer fail. -/
def setFailing (s : Server) (name : String) (reply : Option String) : Server :=
  let others := s.failing.filter fun f => f.1 != name
  { s with failing := match reply with
      | some r => others ++ [(name, r)]
      | none => others }

/-- Ends all connections and takes no new ones. -/
def stop (s : Server) : Server := { s with listening := false }

/-- The reply to a command that fails. -/
def failure? (s : Server) (c : Command) : Option String :=
  (s.failing.find? fun f => f.1 == c.name).map (·.2)

/-- The reply when a key holds something else than the command takes. -/
def wrongType : String :=
  "WRONGTYPE Operation against a key holding the wrong kind of value"

/-- Executes a command. -/
def execute (s : Server) : (c : Command) → Except String c.Reply × Server
  | .auth .. => (.ok (), s)
  | .select _ => (.ok (), s)
  | .ping => (.ok (), s)
  | .push list value =>
    match s.keys.get? list with
    | some (.string _) => (.error wrongType, s)
    | some (.list items) =>
      (.ok (items.length + 1), { s with keys := s.keys.put list (.list (value :: items)) })
    | none => (.ok 1, { s with keys := s.keys.put list (.list [value]) })
  | .get key =>
    match s.keys.get? key with
    | some (.string value) => (.ok (some value), s)
    | some (.list _) => (.error wrongType, s)
    | none => (.ok none, s)
  | .delete key =>
    match s.keys.get? key with
    | some _ => (.ok 1, { s with keys := s.keys.remove key })
    | none => (.ok 0, s)

/-- Takes a command. -/
def call (s : Server) (c : Command) : Except String c.Reply × Server :=
  if !s.listening then (.error "connection refused", s)
  else
    let s := { s with log := s.log ++ [c] }
    -- The command is in the log even if it fails.
    match s.failure? c with
    | some reply => (.error reply, s)
    | none => s.execute c

/-- The commands with which a client introduces itself: its credentials, and the database if it
is not the first. Without a password there are no credentials. -/
def introduction (url : Url) : List Command :=
  let login := Descriptor.decoded url.username
  let password := Descriptor.decoded url.password
  let database := Descriptor.decoded (Descriptor.withoutSlash url.path)
  (if password.isEmpty then []
    else [.auth (if login.isEmpty then none else some login) password]) ++
  match Descriptor.index? database.toList with
  | some n => if n = 0 then [] else [.select n]
  | none => []

/-- Takes commands until one fails. -/
def callAll (s : Server) : List Command → Except String Unit × Server
  | [] => (.ok (), s)
  | c :: rest =>
    match s.call c with
    | (.ok _, s) => s.callAll rest
    | (.error reason, s) => (.error reason, s)

/-- Takes a new connection, if the URL leads here. -/
def accept (s : Server) (url : String) : Except String Unit × Server :=
  match Url.parse url with
  | .error _ => (.error "Redis: Redis URL did not parse- InvalidClientConfig", s)
  | .ok u =>
    if u.host = some host.toList ∧ u.port = some port ∧ s.listening then
      s.callAll (introduction u)
    else (.error "connection refused", s)

/-- Answers a request. -/
def answer : (q : Request) → Server → Answer q × Server
  | .dial url, s => s.accept url
  | .lease, s => (if s.listening then .ok () else .error "connection refused", s)
  | .call c, s => s.call c

end Server
end Redis
end TaskQueue
