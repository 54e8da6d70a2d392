import TimeWindow.Zone.Europe
import TimeWindow.Zone.America
import TimeWindow.Zone.Asia
import TimeWindow.Zone.Pacific
import TimeWindow.Calendar.Timestamp
import TimeWindow.Text.Case
import TimeWindow.Text.Search

/-!
# The catalog of zones

Zones by name. `Zone.resolve` reads a name as callers give it: none at all and
`browser` mean the host's zone, `utc` is UTC, and any other name is looked up
without regard to case.
-/

namespace TimeWindow.Zone

def hoursText (hours : Int) : String :=
  (if hours < 0 then "-" else "+") ++ Timestamp.padded 2 hours

/-- The zone some hours west of UTC, or east of it when negative; its name
counts the hours westwards. -/
def west (hours : Int) : Zone :=
  fixed ("Etc/GMT" ++ (if hours < 0 then "-" else "+") ++ toString hours.natAbs)
    (-hours) (hoursText (-hours))

def maritime : List Zone :=
  (List.range 12).map (fun n => west (n + 1 : Nat)) ++
    (List.range 14).map fun n => west (-(n + 1 : Nat))

def universal : List Zone :=
  (["Etc/GMT", "Etc/GMT+0", "Etc/GMT-0", "Etc/GMT0", "Etc/Greenwich", "GMT",
    "GMT+0", "GMT-0", "GMT0", "Greenwich"].map fun name => fixed name 0 "GMT") ++
  (["Etc/UCT", "Etc/UTC", "Etc/Universal", "Etc/Zulu", "UCT", "Universal",
    "Zulu"].map fun name => fixed name 0 "UTC")

def regional : List Zone :=
  [Europe.berlin, Europe.london, Europe.dublin, America.newYork,
    America.stJohns, America.saoPaulo, America.buenosAires, Asia.kolkata,
    Asia.kathmandu, Asia.tokyo, Pacific.lordHowe, Pacific.apia].map ofTable

/-- A collection of zones that have names. Their clocks change in steps shorter
than a day, at times that 32 bits count, and not more often than every two
days. -/
structure Catalog where
  zones : List Zone
  sane : ∀ z ∈ zones, z.Sane
  recorded : ∀ z ∈ zones, z.Recorded
  spread : ∀ z ∈ zones, z.Spread
  deriving DecidableEq

def Catalog.standard : Catalog where
  zones := universal ++ maritime ++ regional
  sane := by decide +kernel
  recorded := by decide +kernel
  spread := by decide +kernel

def Kind.name? : Kind → Option String
  | .host => none
  | .utc => some "UTC"
  | .named name => some name

def spellSigns (name : String) : String :=
  String.ofList (Text.replaceAll "_minus_".toList ['-']
    (Text.replaceAll "_plus_".toList ['+'] name.toList))

def Catalog.find? (c : Catalog) (name : String) : Option Zone :=
  c.zones.find? fun z => z.kind.name?.any fun own =>
    Text.lower own = Text.lower name

def resolve (name : Option String) (c : Catalog := .standard) :
    Except Fault Zone :=
  match name with
  | none => .ok host
  | some name =>
    if name = "" ∨ Text.lower name = "browser" then .ok host
    else if Text.lower name = "utc" then .ok utc
    else if name.toList.any fun c => 0x80 ≤ c.toNat then
      .error (.unknownZone name)
    else
      match c.find? (spellSigns name) with
      | some z => .ok z
      | none => .error (.unknownZone (spellSigns name))

end TimeWindow.Zone
