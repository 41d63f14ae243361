/-
# Routes

The exposition has a page, an object of readings, and a folder for files that is
empty.  A path leads to one of them or nowhere; a path with doubled slashes that
leads somewhere without them is redirected, and so is the empty path.  All three
are only read.
-/

import SensorLink.Exposition.Locator

namespace SensorLink.Exposition

/-- Where a path leads. -/
inductive Place where
  | page
  | readings
  /-- Some file in the folder, which holds none. -/
  | file
  deriving DecidableEq, Repr

/-- How a request treats a place. -/
inductive Method where
  | get
  | head
  | options
  | other
  deriving DecidableEq, Repr

/-- The method with a name, in any letter case. -/
def Method.named (name : String) : Method :=
  match name.toUpper with
  | "GET" => get
  | "HEAD" => head
  | "OPTIONS" => options
  | _ => other

/-- Whether a method only reads. -/
def Method.reads (m : Method) : Bool :=
  m ≠ other

/-- What follows a common beginning. -/
def behind? : (beginning path : List Char) → Option (List Char)
  | [], path => some path
  | _ :: _, [] => none
  | b :: beginning, c :: path => if b = c then behind? beginning path else none

/-- Whether a text names a file: it is neither empty nor begins with a slash, and only its first
character may be a line feed. -/
def isFileName : List Char → Bool
  | [] => false
  | c :: rest => c ≠ '/' && !rest.contains '\n'

/-- The place that a path leads to. -/
def Place.at? (path : List Char) : Option Place :=
  if path = ['/'] then some page
  else if path = "/api/readings".toList then some readings
  else if (behind? "/static/".toList path).any isFileName then some file
  else none

/-- Each pair of slashes made one. -/
def mergeSlashes : List Char → List Char
  | '/' :: '/' :: rest => '/' :: mergeSlashes rest
  | c :: rest => c :: mergeSlashes rest
  | [] => []

/-- What becomes of a request. -/
inductive Verdict where
  | granted (place : Place)
  | redirected
  | unknown
  | refused
  deriving DecidableEq, Repr

/-- What becomes of a request with a method for a path. -/
def verdict (m : Method) (path : List Char) : Verdict :=
  if path.isEmpty then (if m.reads then .redirected else .unknown)
  else
    match Place.at? path with
    | some place => if m.reads then .granted place else .refused
    | none =>
      match Place.at? (mergeSlashes path) with
      | some _ => if m.reads then .redirected else .refused
      | none => .unknown

/-- Only reading is granted. -/
theorem reads_of_granted {m : Method} {path : List Char} {place : Place}
    (granted : verdict m path = .granted place) : m.reads = true := by
  revert granted
  unfold verdict
  cases m.reads <;> grind

end SensorLink.Exposition
