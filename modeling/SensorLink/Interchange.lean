/-
# Interchange values

Values as programs exchange them in text: null, truth values, numbers, texts,
arrays and objects.  A number keeps its spelling and an object the order of its
keys, so reading a written value loses nothing.
-/

import SensorLink.Text.Hexadecimal

namespace SensorLink

/-- A value; numbers keep their spelling, objects the order of their keys. -/
inductive Interchange where
  | null
  | bool (b : Bool)
  | number (spelling : String)
  | text (s : String)
  | array (items : List Interchange)
  | object (fields : List (String × Interchange))
  deriving Inhabited, Repr

namespace Interchange

/-! ## Writing -/

/-- A character by its sixteen-bit code unit. -/
def escapedUnit (n : Nat) : List Char :=
  '\\' :: 'u' :: Text.zeroFill 4 (Text.hexDigits n)

/-- How a character stands in written text, which is plain ASCII. -/
def writtenChar (c : Char) : List Char :=
  if c = '"' ∨ c = '\\' then ['\\', c]
  else if 32 ≤ c.toNat ∧ c.toNat < 127 then [c]
  else if c.toNat < 0x10000 then escapedUnit c.toNat
  else
    let n := c.toNat - 0x10000
    escapedUnit (0xd800 + n / 0x400) ++ escapedUnit (0xdc00 + n % 0x400)

/-- A written text. -/
def writeText (s : String) : String :=
  "\"" ++ String.ofList (s.toList.flatMap writtenChar) ++ "\""

mutual

/-- A written value, without blanks. -/
def write : Interchange → String
  | null => "null"
  | bool b => if b then "true" else "false"
  | number spelling => spelling
  | text s => writeText s
  | array items => "[" ++ ",".intercalate (writeItems items) ++ "]"
  | object fields => "\x7b" ++ ",".intercalate (writeFields fields) ++ "\x7d"

/-- The written items of an array. -/
def writeItems : List Interchange → List String
  | [] => []
  | item :: rest => item.write :: writeItems rest

/-- The written fields of an object. -/
def writeFields : List (String × Interchange) → List String
  | [] => []
  | (key, value) :: rest => (writeText key ++ ":" ++ value.write) :: writeFields rest

end

/-! ## Reading -/

/-- Whether a character is a blank between tokens. -/
def isSpace (c : Char) : Bool :=
  c = ' ' ∨ c = '\t' ∨ c = '\n' ∨ c = '\r'

/-- Whether a character may stand in a number. -/
def isNumberChar (c : Char) : Bool :=
  c.isDigit || c = '-' || c = '+' || c = '.' || c = 'e' || c = 'E'

/-- The code of an escaped character other than a numbered one. -/
def escapeCode : Char → Nat
  | 'b' => 8
  | 't' => 9
  | 'n' => 10
  | 'f' => 12
  | 'r' => 13
  | c => c.toNat

/-- The number of four hexadecimal digits. -/
def unitOf (digits : List Char) : Nat :=
  digits.foldl (fun n c => 16 * n + (Text.hexValue? c).getD 0) 0

/-- The codes of a text up to its closing mark, and what follows. -/
def readCodes : List Char → Option (List Nat × List Char)
  | [] => none
  | '"' :: rest => some ([], rest)
  | '\\' :: 'u' :: a :: b :: c :: d :: rest =>
    (readCodes rest).map fun (codes, rest) => (unitOf [a, b, c, d] :: codes, rest)
  | '\\' :: c :: rest => (readCodes rest).map fun (codes, rest) => (escapeCode c :: codes, rest)
  | c :: rest => (readCodes rest).map fun (codes, rest) => (c.toNat :: codes, rest)

/-- The characters of codes; two surrogate units in a row are one character. -/
def joinCodes : List Nat → List Char
  | [] => []
  | [code] => [Char.ofNat code]
  | high :: low :: rest =>
    if 0xd800 ≤ high ∧ high < 0xdc00 ∧ 0xdc00 ≤ low ∧ low < 0xe000 then
      Char.ofNat (0x10000 + (high - 0xd800) * 0x400 + (low - 0xdc00)) :: joinCodes rest
    else Char.ofNat high :: joinCodes (low :: rest)

/-- A text after its opening mark, and what follows. -/
def readText (cs : List Char) : Option (String × List Char) :=
  (readCodes cs).map fun (codes, rest) => (String.ofList (joinCodes codes), rest)

/-- What follows a fixed word. -/
def readWord (word : String) (value : Interchange) (cs : List Char) :
    Option (Interchange × List Char) :=
  if word.toList.isPrefixOf cs then some (value, cs.drop word.length) else none

mutual

/-- A value and what follows; `fuel` bounds the number of tokens. -/
def readValue : (fuel : Nat) → List Char → Option (Interchange × List Char)
  | 0, _ => none
  | fuel + 1, cs =>
    match cs.dropWhile isSpace with
    | [] => none
    | '"' :: rest => (readText rest).map fun (s, rest) => (text s, rest)
    | '[' :: rest => (readItems fuel rest).map fun (items, rest) => (array items, rest)
    | '\x7b' :: rest => (readFields fuel rest).map fun (fields, rest) => (object fields, rest)
    | 'n' :: rest => readWord "null" null ('n' :: rest)
    | 't' :: rest => readWord "true" (bool true) ('t' :: rest)
    | 'f' :: rest => readWord "false" (bool false) ('f' :: rest)
    | cs =>
      let spelling := cs.takeWhile isNumberChar
      if spelling.isEmpty then none
      else some (number (String.ofList spelling), cs.dropWhile isNumberChar)

/-- The items of an array up to its end, and what follows. -/
def readItems : (fuel : Nat) → List Char → Option (List Interchange × List Char)
  | 0, _ => none
  | fuel + 1, cs =>
    match cs.dropWhile isSpace with
    | ']' :: rest => some ([], rest)
    | ',' :: rest => readItems fuel rest
    | cs => do
      let (item, rest) ← readValue fuel cs
      let (items, rest) ← readItems fuel rest
      return (item :: items, rest)

/-- The fields of an object up to its end, and what follows. -/
def readFields : (fuel : Nat) → List Char → Option (List (String × Interchange) × List Char)
  | 0, _ => none
  | fuel + 1, cs =>
    match cs.dropWhile isSpace with
    | '\x7d' :: rest => some ([], rest)
    | ',' :: rest => readFields fuel rest
    | '"' :: rest => do
      let (key, rest) ← readText rest
      match rest.dropWhile isSpace with
      | ':' :: rest => do
        let (value, rest) ← readValue fuel rest
        let (fields, rest) ← readFields fuel rest
        return ((key, value) :: fields, rest)
      | _ => none
    | _ => none

end

/-- The value that a text starts with. -/
def read? (s : String) : Option Interchange :=
  (readValue (s.length + 1) s.toList).map Prod.fst

end Interchange

end SensorLink
