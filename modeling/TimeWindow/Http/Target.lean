import TimeWindow.Text.Digit
import TimeWindow.Text.Search
import TimeWindow.Text.Utf8

/-!
# Request targets

The path and the query of a request, as they are written and as they are meant.
Both are written with percent signs in front of the hexadecimal digits of bytes;
a percent sign without such digits stands for itself.
-/

namespace TimeWindow.Http

open Text

def unescape : List Char → List Nat
  | '%' :: a :: b :: cs =>
    match hexValue? a, hexValue? b with
    | some x, some y => (x * 16 + y) :: unescape cs
    | _, _ => 0x25 :: unescape (a :: b :: cs)
  | c :: cs => (String.utf8EncodeChar c).map UInt8.toNat ++ unescape cs
  | [] => []
termination_by cs => cs.length

def decodeText (cs : List Char) : List Char := Utf8.decode (unescape cs)

def directSteps : List (List Char) → List (List Char) → List (List Char)
  | taken, [] => taken.reverse
  | taken, step :: steps =>
    if step = ['.'] then directSteps taken steps
    else if step = ['.', '.'] then
      directSteps (if taken = [[]] then taken else taken.drop 1) steps
    else directSteps (step :: taken) steps

def directPath (cs : List Char) : List Char :=
  List.intercalate ['/'] (directSteps [] (splitAt '/' cs))

/-- A query's pairs of names and values; a plus sign stands for a blank. -/
def readQuery (cs : List Char) : List (String × String) :=
  ((splitAt '&' cs).filter (· ≠ [])).map fun pair =>
    let name := pair.takeWhile (· ≠ '=')
    let value := pair.drop (name.length + 1)
    let meant (cs : List Char) :=
      String.ofList (decodeText (cs.map fun c => if c = '+' then ' ' else c))
    (meant name, meant value)

structure Target where
  path : List Char
  query : List (String × String)

/-- The target that is written as a path, whose own query counts only when none
is given besides. A path is decoded when the target is taken apart, and once
more when it is handed over. -/
def Target.read (written : String) (query : List (String × String)) : Target :=
  let cs := written.toList.takeWhile (· ≠ '#')
  let path := cs.takeWhile (· ≠ '?')
  { path := decodeText
      (decodeText (directPath ('/' :: path.dropWhile (· = '/'))))
    query := if query.isEmpty then readQuery (cs.drop (path.length + 1))
      else query }

def Target.value? (t : Target) (name : String) : Option String :=
  t.query.reverse.lookup name

def Target.label (t : Target) : String :=
  String.ofList ((t.path.filter fun c =>
    !(c = '\t' || c = '\n' || c = '\r')).takeWhile fun c => c ≠ '?' && c ≠ '#')

end TimeWindow.Http
