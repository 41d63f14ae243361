/-
# Markup for terminals

Escape sequences that a terminal takes as instructions.  A control sequence
shows nothing, and a hyperlink shows its text.  What is left of a text without
its markup is what can be seen of it.
-/

namespace SensorLink.Text

/-- The character that begins markup. -/
def escapeChar : Char := '\x1b'

/-- A piece of markup at the beginning of a text. -/
structure Markup where
  /-- The number of its characters. -/
  length : Nat
  /-- What it shows. -/
  shown : List Char

/-- A control sequence behind its two opening characters: parameters, intermediate characters and
a final one. -/
def controlSequence? (cs : List Char) : Option Markup :=
  let parameters := cs.takeWhile fun c => '0' ≤ c && c ≤ '?'
  let behind := cs.drop parameters.length
  let intermediate := behind.takeWhile fun c => ' ' ≤ c && c ≤ '/'
  match behind.drop intermediate.length with
  | final :: _ =>
    if '@' ≤ final ∧ final ≤ '~' then
      some ⟨2 + parameters.length + intermediate.length + 1, []⟩
    else none
  | [] => none

/-- The pieces between the occurrences of a mark. -/
def piecesAt (mark : Char) : List Char → List (List Char)
  | [] => [[]]
  | c :: rest =>
    match piecesAt mark rest with
    | [] => [[]]
    | piece :: pieces => if c = mark then [] :: piece :: pieces else (c :: piece) :: pieces

/-- Whether a character may stand in the key or the value of a hyperlink's parameter. -/
def isWordChar (c : Char) : Bool :=
  c.isAlphanum || c = '_' || 128 ≤ c.toNat

/-- Whether a text is a run of parameters, each a key, an equality sign and a value.  A value may
run on into the next key, so that a word between two signs has at least two characters. -/
def isParameterRun (cs : List Char) : Bool :=
  match piecesAt '=' cs with
  | first :: second :: more =>
    let words := first :: second :: more
    let inner := (second :: more).dropLast
    words.all (fun w => !w.isEmpty && w.all isWordChar) && inner.all (2 ≤ ·.length)
  | _ => false

/-- Whether a text may stand where a hyperlink has its parameters: runs of them, each but the last
ended by a colon. -/
def areParameters (cs : List Char) : Bool :=
  let runs := piecesAt ':' cs
  runs.dropLast.all isParameterRun && (runs.getLast?.any fun r => r.isEmpty || isParameterRun r)

/-- A hyperlink behind its two opening characters. -/
def hyperlink? (cs : List Char) : Option Markup :=
  let ending := [escapeChar, '\\']
  let closing := [escapeChar, ']', '8', ';', ';', escapeChar, '\\']
  match cs with
  | '8' :: ';' :: cs =>
    let parameters := cs.takeWhile (· ≠ ';')
    let behind := cs.drop (parameters.length + 1)
    let target := behind.takeWhile (· ≠ escapeChar)
    let behind := behind.drop target.length
    let shown := (behind.drop 2).takeWhile (· ≠ escapeChar)
    let isWhole := areParameters parameters && !target.isEmpty && ending.isPrefixOf behind &&
      !shown.isEmpty && closing.isPrefixOf (behind.drop (2 + shown.length))
    if isWhole then some ⟨4 + parameters.length + 1 + target.length + 2 + shown.length + 7, shown⟩
    else none
  | _ => none

/-- The markup at the beginning of a text. -/
def markup? : List Char → Option Markup
  | e :: '[' :: rest => if e = escapeChar then controlSequence? rest else none
  | e :: ']' :: rest => if e = escapeChar then hyperlink? rest else none
  | _ => none

/-- What can be seen of a text; `skip` counts the characters of the current markup that are still
to be left out. -/
def visibleFrom : (skip : Nat) → List Char → List Char
  | _, [] => []
  | skip + 1, _ :: rest => visibleFrom skip rest
  | 0, c :: rest =>
    match markup? (c :: rest) with
    | some m => m.shown ++ visibleFrom (m.length - 1) rest
    | none => c :: visibleFrom 0 rest

/-- What can be seen of a text. -/
def visible (s : String) : String :=
  String.ofList (visibleFrom 0 s.toList)

/-- Whether a text has markup. -/
def hasMarkup : List Char → Bool
  | [] => false
  | c :: rest => (markup? (c :: rest)).isSome || hasMarkup rest

/-- A coloured word is seen without its colour. -/
example :
    visibleFrom 0 [escapeChar, '[', '3', '1', 'm', 'r', escapeChar, '[', '0', 'm'] = ['r'] := by
  decide

end SensorLink.Text
