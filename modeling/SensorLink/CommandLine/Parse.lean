/-
# Reading the command line

The words of a command line are sorted first: a word is a switch, possibly with
an argument attached, an unknown switch, or plain.  A long switch may be
shortened as long as only one switch begins that way, and letters of short
switches may be run together.  Then the switches are taken from left to right;
plain words that no switch takes are left over, and nothing may be left over.
-/

import SensorLink.CommandLine.Switch
import SensorLink.Decimal.Numeral
import SensorLink.Text.Digit

namespace SensorLink.CommandLine

open Device (Field Setting)

/-- What a command line asks for. -/
structure Request where
  /-- The settings, in the order in which they are given. -/
  settings : List Setting := []
  noWeb : Bool := false
  verbose : Bool := false
  quiet : Bool := false

/-- The setting of a field; of several, the last one counts. -/
def Request.setting? (r : Request) (field : Field) : Option Setting :=
  r.settings.reverse.find? (·.field = field)

/-- What a request gives for every field: its setting, or nothing. -/
def Request.overrides (r : Request) : List Setting :=
  Field.all.map fun field => (r.setting? field).getD (.nothing field)

/-- Why reading a command line ends without a request. -/
inductive Stop where
  | helpAsked
  | ambiguous (word : String) (candidates : List String)
  | operandMissing (s : Switch)
  | notANumber (s : Switch) (type given : String)
  | notOffered (s : Switch) (names : List String) (given : String)
  | notWith (s rival : Switch)
  | operandUnexpected (s : Switch) (given : String)
  | leftOver (words : List String)

/-- What is wrong with a command line; nothing is wrong with asking for help. -/
def Stop.complaint? : Stop → Option String
  | helpAsked => none
  | ambiguous word candidates =>
    some ("ambiguous option: " ++ word ++ " could match " ++ ", ".intercalate candidates)
  | operandMissing s => some ("argument " ++ s.title ++ ": expected one argument")
  | notANumber s type given =>
    some ("argument " ++ s.title ++ ": invalid " ++ type ++ " value: " ++ Text.quoted given)
  | notOffered s names given =>
    some ("argument " ++ s.title ++ ": invalid choice: " ++ Text.quoted given ++
      " (choose from " ++ Text.quotedList names ++ ")")
  | notWith s rival =>
    some ("argument " ++ s.title ++ ": not allowed with argument " ++ rival.title)
  | operandUnexpected s given =>
    some ("argument " ++ s.title ++ ": ignored explicit argument " ++ Text.quoted given)
  | leftOver words => some ("unrecognized arguments: " ++ " ".intercalate words)

/-- A word of the command line. -/
inductive Word where
  | plain (word : String)
  /-- A switch, spelled by its letter or not, with the text attached to it. -/
  | switch (s : Switch) (short : Bool) (attached : Option String)
  /-- A word that looks like a switch and is none, or the mark that ends the switches. -/
  | stray (word : String)

/-- The mark that ends the switches. -/
def endMark : String := "--"

/-- Split a text at its first equality sign. -/
def splitAtEquals : List Char → Option (List Char × List Char)
  | [] => none
  | c :: rest =>
    if c = '=' then some ([], rest)
    else (splitAtEquals rest).map fun (before, after) => (c :: before, after)

/-- Whether a word is a negative number, which is plain. -/
def isNegativeNumber (word : List Char) : Bool :=
  let isDigit c := (Text.digitValue? c).isSome
  match word with
  | '-' :: rest =>
    let rest := if rest.getLast? = some '\n' then rest.dropLast else rest
    let fraction := rest.dropWhile isDigit
    match fraction with
    | [] => !rest.isEmpty
    | '.' :: digits => !digits.isEmpty && digits.all isDigit
    | _ => false
  | _ => false

/-- The switches that a word may shorten, with the text attached to each. -/
def candidates (word : List Char) : List (String × Word) :=
  match word with
  | '-' :: '-' :: _ =>
    let (stem, attached) := match splitAtEquals word with
      | some (stem, attached) => (stem, some (String.ofList attached))
      | none => (word, none)
    let shortens (s : Switch) := stem.isPrefixOf s.long.toList
    (Switch.all.filter shortens).map fun s => (s.long, .switch s false attached)
  | '-' :: c :: rest =>
    (Switch.ofLetter? c).toList.map fun s =>
      (s.title, .switch s true (some (String.ofList rest)))
  | _ => []

/-- Sort a word that begins like a switch and is not exactly one. -/
def sortInexact (word : String) : Except Stop Word :=
  match candidates word.toList with
  | [(_, w)] => .ok w
  | [] =>
    if isNegativeNumber word.toList || word.toList.contains ' ' then .ok (.plain word)
    else .ok (.stray word)
  | several => .error (.ambiguous word (several.map Prod.fst))

/-- A word with an argument attached to an exact spelling. -/
def exactWithOperand? (word : String) : Option Word :=
  (splitAtEquals word.toList).bind fun (stem, attached) =>
    (Switch.ofSpelling? (String.ofList stem)).map fun s =>
      .switch s (stem.length == 2) (some (String.ofList attached))

/-- Sort a word. -/
def sortWord (word : String) : Except Stop Word :=
  if word.toList.head? = some '-' then
    match Switch.ofSpelling? word with
    | some s => .ok (.switch s (word.length == 2) none)
    | none =>
      if word.length = 1 then .ok (.plain word)
      else
        match exactWithOperand? word with
        | some w => .ok w
        | none => sortInexact word
  else .ok (.plain word)

/-- Sort the words of a command line; after the end mark, all are plain. -/
def sortWords : List String → Except Stop (List Word)
  | [] => .ok []
  | word :: rest =>
    if word = endMark then .ok (.stray word :: rest.map .plain)
    else do return (← sortWord word) :: (← sortWords rest)

/-- What has been taken so far. -/
structure Progress where
  request : Request := {}
  seen : List Switch := []
  leftOver : List String := []

/-- Store that a switch without argument was given. -/
def Request.raise (r : Request) : Switch → Request
  | .noWeb => { r with noWeb := true }
  | .verbose => { r with verbose := true }
  | .quiet => { r with quiet := true }
  | _ => r

/-- The switch seen before with which a switch may not be combined. -/
def Progress.rivalSeen? (p : Progress) (s : Switch) : Option Switch :=
  s.rival?.filter (· ∈ p.seen)

/-- Take a switch that stands alone. -/
def takeAlone (p : Progress) (s : Switch) : Except Stop Progress :=
  match p.rivalSeen? s with
  | some rival => .error (.notWith s rival)
  | none =>
    if s = .help then .error .helpAsked
    else .ok { p with request := p.request.raise s, seen := s :: p.seen }

/-- A setting whose text is one of the offered names. -/
def chosen (s : Switch) (names : List String) (make : String → Setting) (given : String) :
    Except Stop Setting :=
  if given ∈ names then .ok (make given) else .error (.notOffered s names given)

/-- A setting whose text is a real number. -/
def measured (s : Switch) (make : Float → Setting) (given : String) : Except Stop Setting :=
  match Decimal.readFloat? given with
  | some value => .ok (make value)
  | none => .error (.notANumber s "float" given)

/-- The setting that the text given to a switch makes.  The end mark is no value and leaves the
field without one. -/
def settingOf (s : Switch) (field : Field) (given : String) : Except Stop Setting :=
  if given = endMark then .ok (.vacant ⟨field, .emptied, fun _ => rfl⟩)
  else
    match field with
    | .address => .ok (.address given)
    | .addressType => chosen s Device.addressTypes .addressType given
    | .security => chosen s Device.securityLevels .security given
    | .ingestion => chosen s Device.ingestionModes .ingestion given
    | .pollInterval => measured s .pollInterval given
    | .reconnectDelay => measured s .reconnectDelay given
    | .discoveryTimeout => measured s (fun limit => .discoveryTimeout (some limit)) given
    | .httpHost => .ok (.httpHost given)
    | .httpPort =>
      match Decimal.readInteger? given with
      | some value => .ok (.httpPort value)
      | none => .error (.notANumber s "int" given)

/-- Take a switch with its argument. -/
def takeWith (p : Progress) (s : Switch) (given : String) : Except Stop Progress :=
  match s.field? with
  | none => .error (.operandUnexpected s given)
  | some field =>
    (settingOf s field given).map fun setting =>
      { p with request := { p.request with settings := p.request.settings ++ [setting] } }

/-- The switches whose letters are run together behind a switch's own. -/
def lettersBehind (s : Switch) : List Char → Except Stop (List Switch)
  | [] => .ok []
  | c :: rest =>
    match Switch.ofLetter? c with
    | some next => (lettersBehind next rest).map (next :: ·)
    | none => .error (.operandUnexpected s (String.ofList (c :: rest)))

/-- Take a switch with the text attached to it. -/
def takeAttached (p : Progress) (s : Switch) (short : Bool) (attached : String) :
    Except Stop Progress :=
  if s.standsAlone then
    if short && !attached.isEmpty then do
      (s :: (← lettersBehind s attached.toList)).foldlM takeAlone p
    else .error (.operandUnexpected s attached)
  else takeWith p s attached

/-- Take the words of a command line from left to right. -/
def takeWords (p : Progress) : List Word → Except Stop Progress
  | [] => .ok p
  | .plain word :: rest => takeWords { p with leftOver := p.leftOver ++ [word] } rest
  | .stray word :: rest => takeWords { p with leftOver := p.leftOver ++ [word] } rest
  | .switch s short (some attached) :: rest => do
    takeWords (← takeAttached p s short attached) rest
  | [.switch s _ none] =>
    if s.standsAlone then takeAlone p s else .error (.operandMissing s)
  | .switch s _ none :: next :: rest =>
    if s.standsAlone then do takeWords (← takeAlone p s) (next :: rest)
    else
      match next with
      | .plain word => do takeWords (← takeWith p s word) rest
      | _ => .error (.operandMissing s)

/-- Read a command line. -/
def parse (words : List String) : Except Stop Request := do
  let p ← takeWords {} (← sortWords words)
  if p.leftOver.isEmpty then return p.request else throw (.leftOver p.leftOver)

end SensorLink.CommandLine
