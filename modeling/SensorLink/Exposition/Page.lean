/-
# The page

The page for people is a template of fixed lines with slots: for the seconds
after which a browser loads it again, and for the reading of each kind.  How a
text is put into a slot is up to the engine that fills the template; one that
escapes markup is at hand.
-/

import SensorLink.Store

namespace SensorLink.Exposition

open Sensor (Kind Reading)

/-- Whether a character has a meaning in markup. -/
def isMark (c : Char) : Bool :=
  c = '&' || c = '<' || c = '>' || c = '\'' || c = '"'

/-- A character as it is shown; marks are spelled out. -/
def escapedChar : Char → List Char
  | '&' => "&amp;".toList
  | '<' => "&lt;".toList
  | '>' => "&gt;".toList
  | '\'' => "&#39;".toList
  | '"' => "&#34;".toList
  | c => [c]

/-- A text as it is shown. -/
def escape (s : String) : String :=
  String.ofList (s.toList.flatMap escapedChar)

/-- How the page writes a value. -/
structure Format where
  places : Nat
  unit : String

namespace Format

/-- The format of a kind. -/
def of : Kind → Format
  | .temperature => ⟨2, " °C"⟩
  | .pressure => ⟨1, " hPa"⟩
  | .humidity => ⟨2, " %RH"⟩

/-- A value in a format. -/
def write (f : Format) (value : Float) : String :=
  Decimal.fixed f.places value ++ f.unit

end Format

/-- What the page shows of a value that is not available. -/
def unavailable : String := "N/A"

/-- What the page shows of a reading. -/
def shownReading (f : Format) (r : Reading) : String :=
  if r.observed then f.write r.value else unavailable

/-- The seconds after which a browser loads the page again. -/
def refreshSeconds : Nat := 5

/-- A piece of a line of the template. -/
inductive Piece where
  | text (s : String)
  /-- The slot for the seconds after which the page is loaded again. -/
  | refresh
  /-- The slot for the reading of a kind. -/
  | reading (kind : Kind)

/-- The lines of the template. -/
def template : List (List Piece) :=
  [[.text "<!DOCTYPE html>"],
    [.text "<html>"],
    [.text "<head>"],
    [.text "<title>Sensor Values</title>"],
    [.text "<meta http-equiv=\"refresh\" content=\"", .refresh, .text "\">"],
    [.text "</head>"],
    [.text "<body>"],
    [.text "<h1>Sensor Values</h1>"],
    [.text "<p>Temperature: ", .reading .temperature, .text "</p>"],
    [.text "<p>Pressure: ", .reading .pressure, .text "</p>"],
    [.text "<p>Humidity: ", .reading .humidity, .text "</p>"],
    [.text "</body>"],
    [.text "</html>"]]

variable (insert : String → String) (s : Store)

/-- A piece with its slot filled. -/
def Piece.fill : Piece → String
  | text t => t
  | refresh => insert (toString refreshSeconds)
  | reading kind => insert (shownReading (.of kind) (s.read kind))

/-- A line with its slots filled. -/
def fillLine (line : List Piece) : String :=
  String.join (line.map (Piece.fill insert s))

/-- The page about a store; `insert` puts a text into a slot. -/
def page : String :=
  "\n".intercalate (template.map (fillLine insert s))

end SensorLink.Exposition
