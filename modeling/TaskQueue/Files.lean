import TaskQueue.Text.Utf8

/-!
# `TaskQueue.Files`: the files a configuration refers to

Configuration files and certificates are read from a directory, which is given as a list of
names with what stands under them. A name may itself be a path; the directories on the way to
it exist too.
-/

set_option autoImplicit false

namespace TaskQueue

/-- What stands under a name. -/
inductive FileEntry where
  | file (content : Bytes)
  | directory
deriving Repr

/-- A directory with everything in it. -/
abbrev Files := List (String × FileEntry)

/-- Why a file cannot be read. -/
inductive FileFault where
  | notFound
  | notDirectory
  | isDirectory
  | notText
  | badName
deriving DecidableEq, Repr

/-- The fault in words. -/
def FileFault.message : FileFault → String
  | notFound => "No such file or directory (os error 2)"
  | notDirectory => "Not a directory (os error 20)"
  | isDirectory => "Is a directory (os error 21)"
  | notText => "stream did not contain valid UTF-8"
  | badName => "file name contained an unexpected NUL byte"

namespace Files

/-- The parts of a path, with the empty ones and those that stay in place left out. -/
def parts (path : String) : List (List Char) :=
  let rec split : List Char → List (List Char)
    | [] => [[]]
    | c :: cs =>
      if c = '/' then [] :: split cs
      else
        match split cs with
        | [] => [[c]]
        | p :: ps => (c :: p) :: ps
  (split path.toList).filter fun p => !p.isEmpty && p != ['.']

/-- What stands under the parts of a path. -/
def entry? (files : Files) (ps : List (List Char)) : Option FileEntry :=
  if ps.isEmpty then some .directory
  else
    match files.find? fun f => parts f.1 == ps with
    | some f => some f.2
    | none =>
      if files.any fun f => ps.isPrefixOf (parts f.1) then some .directory else none

/-- Walks down a path; `behind` are the parts already passed, which lead to a directory. -/
def walk (files : Files) (behind : List (List Char)) : List (List Char) →
    Except FileFault FileEntry
  | [] => .ok .directory
  | p :: rest =>
    let here := if p = ['.', '.'] then behind.dropLast else behind ++ [p]
    match entry? files here with
    | none => .error .notFound
    | some .directory => walk files here rest
    | some (.file content) => if rest.isEmpty then .ok (.file content) else .error .notDirectory

/-- What stands under a path. A path that ends with a slash leads to a directory. -/
def find (files : Files) (path : String) : Except FileFault FileEntry :=
  if path.toList.contains (Char.ofNat 0) then .error .badName
  else if path.isEmpty ∨ path.toList.head? = some '/' then .error .notFound
  else
    match walk files [] (parts path) with
    | .ok (.file content) =>
      if path.toList.getLast? = some '/' then .error .notDirectory else .ok (.file content)
    | r => r

/-- Whether anything stands under a path. -/
def contains (files : Files) (path : String) : Bool :=
  match files.find path with
  | .ok _ => true
  | .error _ => false

/-- The text of a file. -/
def readText (files : Files) (path : String) : Except FileFault String :=
  match files.find path with
  | .ok (.file content) =>
    match Utf8.decode? content with
    | some s => .ok s
    | none => .error .notText
  | .ok .directory => .error .isDirectory
  | .error e => .error e

end Files
end TaskQueue
