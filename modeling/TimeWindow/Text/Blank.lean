/-!
# White space

Which characters separate words, and how text is freed of them at both ends.
-/

namespace TimeWindow.Text

/-- The four information separators U+001C to U+001F: white space in text, but
not around a numeral. -/
def isInformationSeparator (c : Char) : Bool := 0x1C ≤ c.toNat && c.toNat ≤ 0x1F

/-- White space: the Unicode property together with the information
separators. -/
def isBlank (c : Char) : Bool :=
  let n := c.toNat
  (0x09 ≤ n && n ≤ 0x0D) || (0x1C ≤ n && n ≤ 0x20) || n == 0x85 || n == 0xA0 ||
    n == 0x1680 ||
    (0x2000 ≤ n && n ≤ 0x200A) || n == 0x2028 || n == 0x2029 || n == 0x202F ||
      n == 0x205F || n == 0x3000

def isUnicodeBlank (c : Char) : Bool := isBlank c && !isInformationSeparator c

def dropTrailing (p : Char → Bool) (cs : List Char) : List Char :=
  (cs.reverse.dropWhile p).reverse

def trimBy (p : Char → Bool) (cs : List Char) : List Char :=
  dropTrailing p (cs.dropWhile p)

def trim (cs : List Char) : List Char := trimBy isBlank cs

end TimeWindow.Text
