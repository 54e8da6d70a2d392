import TimeWindow.Number.Basic
import TimeWindow.Text.Surrogate

/-!
# JSON values

The values of a JSON text. Members of an object keep the order of their first
appearance; `insert` replaces the value of a name that is there already, so the
last of several equal names counts.
-/

namespace TimeWindow

inductive Json where
  | null
  | bool (b : Bool)
  | num (n : Number)
  | str (s : String)
  | arr (items : List Json)
  | obj (members : List (String × Json))

namespace Json

def insert (name : String) (value : Json) :
    List (String × Json) → List (String × Json)
  | [] => [(name, value)]
  | (n, v) :: rest =>
    if n = name then (n, value) :: rest else (n, v) :: insert name value rest

def get? (name : String) : Json → Option Json
  | .obj members => members.lookup name
  | _ => none

def isFilled : Json → Bool
  | .null => false
  | .bool b => b
  | .num n => !n.isZero
  | .str s => s ≠ ""
  | .arr items => !items.isEmpty
  | .obj members => !members.isEmpty

mutual

/-- Whether a property holds somewhere in a value, the names of members
included: `p` is asked about each value that has no parts, and about each name
as a text. -/
def any (p : Json → Bool) : Json → Bool
  | .arr items => anyItem p items
  | .obj members => anyMember p members
  | v => p v

def anyItem (p : Json → Bool) : List Json → Bool
  | [] => false
  | v :: rest => any p v || anyItem p rest

def anyMember (p : Json → Bool) : List (String × Json) → Bool
  | [] => false
  | (name, v) :: rest => p (.str name) || any p v || anyMember p rest

end

/-- Whether a value holds a number that is infinite or none at all, which JSON
has no form for. -/
def hasInfinite : Json → Bool :=
  any fun v =>
    match v with
    | .num n => n.value?.isNone
    | _ => false

def hasHalf : Json → Bool :=
  any fun v =>
    match v with
    | .str s => Text.hasHalf s
    | _ => false

def ofString? (s : Option String) : Json := s.elim .null .str

end Json

end TimeWindow
