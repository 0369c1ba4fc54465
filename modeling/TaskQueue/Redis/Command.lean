import TaskQueue.Dialogue
import TaskQueue.Text.Utf8

/-!
# `TaskQueue.Redis.Command`: what is said to Redis

A connector dials a server, borrows a connection that it dialled before, or sends a command.
Each command has its type of reply. What fails comes with a reason.
-/

set_option autoImplicit false

namespace TaskQueue
namespace Redis

/-- A command. -/
inductive Command where
  | auth (login : Option String) (password : String)
  | select (database : Nat)
  | ping
  | push (list : String) (value : String)
  | get (key : String)
  | delete (key : String)
deriving DecidableEq, Repr

namespace Command

/-- The name of the command. -/
def name : Command → String
  | auth .. => "AUTH"
  | select _ => "SELECT"
  | ping => "PING"
  | push .. => "LPUSH"
  | get _ => "GET"
  | delete _ => "DEL"

/-- The arguments of the command. -/
def arguments : Command → List String
  | auth (some login) password => [login, password]
  | auth none password => [password]
  | select database => [toString database]
  | ping => []
  | push list value => [list, value]
  | get key => [key]
  | delete key => [key]

/-- What a command is replied with: a value that was read, the length of a list, the number of
keys that were deleted, or nothing. -/
abbrev Reply : Command → Type
  | get _ => Option Bytes
  | push .. => Nat
  | delete _ => Nat
  | auth .. => Unit
  | select _ => Unit
  | ping => Unit

end Command

/-- What a connector asks for: a new connection to the server of a URL, one that it has, or a
command. -/
inductive Request where
  | dial (url : String)
  | lease
  | call (c : Command)
deriving DecidableEq, Repr

/-- The answers to a request. -/
abbrev Answer : Request → Type
  | .dial _ => Except String Unit
  | .lease => Except String Unit
  | .call c => Except String c.Reply

/-- A dialogue with Redis. -/
abbrev Talk := Attempt Request Answer

/-- Sends a command; when it fails, `fault` makes the error out of the reason. -/
def call (fault : String → ConnectorError) (c : Command) : Talk c.Reply :=
  ExceptT.mk (.ask (.call c) fun
    | .ok reply => .done (.ok reply)
    | .error reason => .done (.error (fault reason)))

/-- Dials a server. -/
def dial (url : String) : Talk Unit :=
  ExceptT.mk (.ask (.dial url) fun
    | .ok () => .done (.ok ())
    | .error reason => .done (.error (.connection reason)))

/-- Borrows a connection. -/
def lease : Talk Unit :=
  ExceptT.mk (.ask .lease fun
    | .ok () => .done (.ok ())
    | .error reason => .done (.error (.pool reason)))

end Redis
end TaskQueue
