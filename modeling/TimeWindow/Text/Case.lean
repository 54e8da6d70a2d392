/-!
# Letter case, as far as ASCII words go

Names of units, zones, levels and variables are ASCII words compared without
regard to case. Three characters outside ASCII have an ASCII letter as their
counterpart in the other case; all others never meet such a word.
-/

namespace TimeWindow.Text

def lowerChar (c : Char) : Char := if c = '\u212A' then 'k' else c.toLower

/-- The upper case of a character; the dotless i and the long s have ASCII
capitals. -/
def upperChar (c : Char) : Char :=
  if c = '\u0131' then 'I' else if c = '\u017F' then 'S' else c.toUpper

def lower (s : String) : String := String.ofList (s.toList.map lowerChar)

def upper (s : String) : String := String.ofList (s.toList.map upperChar)

end TimeWindow.Text
