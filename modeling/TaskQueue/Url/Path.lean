/-!
# `TaskQueue.Url.Path`: paths of URLs

A path is a sequence of segments with slashes between them. A segment `.` stands for nothing
and `..` takes back the segment before it; the points may be written as `%2e`. A drive letter
is not taken back.
-/

set_option autoImplicit false

namespace TaskQueue.UrlPath

/-- The points a segment consists of, if it is made of points alone. -/
def points? : List Char → Option Nat
  | [] => some 0
  | '.' :: rest => (points? rest).map (· + 1)
  | '%' :: '2' :: 'e' :: rest => (points? rest).map (· + 1)
  | '%' :: '2' :: 'E' :: rest => (points? rest).map (· + 1)
  | _ => none

/-- Whether the segment is a letter with a colon or a bar. -/
def isDrive : List Char → Bool
  | [a, b] => a.isAlpha && (b == ':' || b == '|')
  | _ => false

/-- Takes the last segment back; segments are listed last first. -/
def goUp : List (List Char) → List (List Char)
  | [] => []
  | s :: rest => if isDrive s then s :: rest else rest

/-- Splits a text at slashes. -/
def splitSegments : List Char → List (List Char)
  | [] => [[]]
  | c :: cs =>
    if c = '/' then [] :: splitSegments cs
    else
      match splitSegments cs with
      | [] => [[c]]
      | s :: rest => (c :: s) :: rest

/-- Resolves the segments after the first slash; `done` holds the finished ones, last first.
The last segment has no slash behind it. -/
def resolve (done : List (List Char)) : List (List Char) → List (List Char) × List Char
  | [] => (done, [])
  | [s] =>
    if points? s = some 1 then (done, [])
    else if points? s = some 2 then (goUp done, [])
    else (done, s)
  | s :: rest =>
    if points? s = some 1 then resolve done rest
    else if points? s = some 2 then resolve (goUp done) rest
    else resolve (s :: done) rest

/-- The path written from its segments. -/
def written (done : List (List Char)) (last : List Char) : List Char :=
  '/' :: (done.reverse.flatMap (· ++ ['/']) ++ last)

/-- The path of a URL with a host, from the text behind the host: nothing, or a slash and the
resolved segments. -/
def ofChars : List Char → List Char
  | [] => []
  | '/' :: cs => let (done, last) := resolve [] (splitSegments cs); written done last
  | cs => let (done, last) := resolve [] (splitSegments cs); written done last

end TaskQueue.UrlPath
