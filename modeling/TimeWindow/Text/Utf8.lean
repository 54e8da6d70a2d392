/-!
# Reading UTF-8

Bytes become characters one after the other. Bytes that cannot belong together
are replaced: each longest beginning of a character that breaks off, and each
byte that begins none, becomes one replacement character.
-/

namespace TimeWindow.Text.Utf8

def replacement : Char := '\uFFFD'

/-- A character of which only the first bytes are known: their value, how many
bytes are to come, and the bounds of the next one. -/
structure Begun where
  value : Nat
  missing : Nat
  low : Nat := 0x80
  high : Nat := 0xBF
  deriving DecidableEq, Repr

/-- The characters that a first byte settles, and the character that it
begins. -/
def first (b : Nat) : List Char × Option Begun :=
  if b < 0x80 then ([Char.ofNat b], none)
  else if b < 0xC2 then ([replacement], none)
  else if b < 0xE0 then ([], some { value := b - 0xC0, missing := 1 })
  else if b = 0xE0 then ([], some { value := 0, missing := 2, low := 0xA0 })
  else if b = 0xED then ([], some { value := 0xD, missing := 2, high := 0x9F })
  else if b < 0xF0 then ([], some { value := b - 0xE0, missing := 2 })
  else if b = 0xF0 then ([], some { value := 0, missing := 3, low := 0x90 })
  else if b < 0xF4 then ([], some { value := b - 0xF0, missing := 3 })
  else if b = 0xF4 then ([], some { value := 4, missing := 3, high := 0x8F })
  else ([replacement], none)

def next (p : Begun) (b : Nat) : List Char × Option Begun :=
  if p.low ≤ b && b ≤ p.high then
    let value := p.value * 0x40 + (b - 0x80)
    if p.missing ≤ 1 then ([Char.ofNat value], none)
      else ([], some { value, missing := p.missing - 1 })
  else
    let (settled, begun) := first b
    (replacement :: settled, begun)

def decodeFrom : Option Begun → List Nat → List Char
  | none, [] => []
  | some _, [] => [replacement]
  | pending, b :: bs =>
    let (settled, pending) := pending.elim (first b) (next · b)
    settled ++ decodeFrom pending bs

def decode (bytes : List Nat) : List Char := decodeFrom none bytes

end TimeWindow.Text.Utf8
