/-
# Locators

A locator names a resource: it may begin with a scheme and an authority, and the
path may be followed by a query and a fragment.  Tabs and line breaks anywhere
in it count for nothing.  The path that a request asks for is what is left of
its target when authority, query and fragment are taken off, with the octets
that are written by percent signs decoded.
-/

import SensorLink.Failure
import SensorLink.Text.Hexadecimal

namespace SensorLink.Exposition

/-- The parts of a locator but its fragment. -/
structure Locator where
  scheme : Option (List Char)
  authority : List Char
  path : List Char
  query : List Char

namespace Locator

/-- Whether a character counts for nothing. -/
def isIdle (c : Char) : Bool :=
  c = '\t' || c = '\n' || c = '\r'

/-- Whether a character may stand in the name of a scheme. -/
def isSchemeChar (c : Char) : Bool :=
  c.isAlphanum || c = '+' || c = '-' || c = '.'

/-- What stands before a mark, and what stands behind it, if the mark occurs. -/
def cutAt (mark : Char) (cs : List Char) : List Char × Option (List Char) :=
  match cs.dropWhile (· ≠ mark) with
  | [] => (cs, none)
  | _ :: rest => (cs.takeWhile (· ≠ mark), some rest)

/-- Split a scheme off, which begins with a letter and ends before a colon. -/
def splitScheme (cs : List Char) : Option (List Char) × List Char :=
  match cutAt ':' cs with
  | (name, some rest) =>
    if name.head?.any Char.isAlpha && name.all isSchemeChar then (some name, rest) else (none, cs)
  | (_, none) => (none, cs)

/-- Split an authority off, which stands behind two slashes. -/
def splitAuthority : List Char → List Char × List Char
  | '/' :: '/' :: rest =>
    let inside (c : Char) := c ≠ '/' && c ≠ '?' && c ≠ '#'
    (rest.takeWhile inside, rest.dropWhile inside)
  | cs => ([], cs)

/-- Read a locator; a bracket in its authority needs a partner. -/
def read (cs : List Char) : Except Failure Locator :=
  let (scheme, rest) := splitScheme (cs.filter (!isIdle ·))
  let (authority, rest) := splitAuthority rest
  if authority.contains '[' != authority.contains ']' then .error .loneBracket
  else
    let (path, query) := cutAt '?' (cutAt '#' rest).1
    .ok ⟨scheme, authority, path, query.getD []⟩

/-- The path, followed by the query unless that is empty. -/
def pathAndQuery (l : Locator) : List Char :=
  if l.query.isEmpty then l.path else l.path ++ '?' :: l.query

end Locator

/-- Decode the octets that are written by a percent sign and two digits.  One beyond ASCII is a
part of some character that no known path contains. -/
def decodeOctets : List Char → List Char
  | '%' :: high :: low :: rest =>
    match Text.hexValue? high, Text.hexValue? low with
    | some h, some l =>
      let n := 16 * h + l
      (if n < 128 then Char.ofNat n else '\uFFFD') :: decodeOctets rest
    | _, _ => '%' :: decodeOctets (high :: low :: rest)
  | c :: rest => c :: decodeOctets rest
  | [] => []

/-- A path with one slash in front of it, unless it is empty. -/
def rooted (path : List Char) : List Char :=
  if path.isEmpty then [] else '/' :: path.dropWhile (· = '/')

/-- The path that the target of a request asks for.  The target is read as a locator; so is what
is left of it without the authority, and the path of that once more. -/
def requestedPath (target : String) : Except Failure (List Char) := do
  let whole ← Locator.read target.toList
  let inner ← Locator.read whole.pathAndQuery
  let bare ← Locator.read inner.path
  let path := if bare.scheme.isNone && bare.authority.isEmpty then bare.path else inner.path
  return rooted (decodeOctets path)

/-- Slashes in front of a path are as good as one. -/
theorem rooted_slash (path : List Char) : rooted ('/' :: '/' :: path) = rooted ('/' :: path) := by
  simp [rooted]

end SensorLink.Exposition
