import TimeWindow.Json.Basic
import TimeWindow.Text.Printable

/-!
# Writing JSON

The text of a value. A number that is a whole one is written in plain digits,
whatever its size and kind, and any other double by its shortest decimal;
numbers that are not finite are written as strings. Half a surrogate pair is
escaped.
-/

namespace TimeWindow.Json

def writeUnit (n : Nat) : List Char := '\\' :: 'u' :: Text.hexText 4 n

/-- A character within a string: quotes, backslashes and control characters are
escaped. -/
def writeChar (c : Char) : List Char :=
  if c = '\x22' then ['\\', '\x22']
  else if c = '\\' then ['\\', '\\']
  else if c = '\n' then ['\\', 'n']
  else if c = '\r' then ['\\', 'r']
  else if c = '\t' then ['\\', 't']
  else if c.toNat < 0x20 then writeUnit c.toNat
  else (Text.half? c).elim [c] writeUnit

def writeString (s : String) : String :=
  "\x22" ++ String.ofList (s.toList.flatMap writeChar) ++ "\x22"

def writeDouble (d : Double) : String :=
  match d.value? with
  | some q => if q.den = 1 then toString q.num else d.text
  | none => writeString d.text

def writeNumber : Number → String
  | .int n => toString n
  | .real d => writeDouble d

mutual

def write : Json → String
  | .null => "null"
  | .bool b => if b then "true" else "false"
  | .num n => writeNumber n
  | .str s => writeString s
  | .arr items => "[" ++ ",".intercalate (writeItems items) ++ "]"
  | .obj members => "\x7b" ++ ",".intercalate (writeMembers members) ++ "\x7d"

def writeItems : List Json → List String
  | [] => []
  | v :: rest => write v :: writeItems rest

def writeMembers : List (String × Json) → List String
  | [] => []
  | (name, v) :: rest =>
    (writeString name ++ ":" ++ write v) :: writeMembers rest

end

end TimeWindow.Json
