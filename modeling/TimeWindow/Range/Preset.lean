import TimeWindow.Range.Basic

/-!
# Presets

Ranges that have a name of their own. Those of `Preset.offered` are shown to
users for choice; those of `Preset.hidden`, which look ahead, are only
recognised. `Preset.find?` looks both up by the two sides of a raw range.
-/

namespace TimeWindow

inductive Section where
  | longer
  | previous
  | current
  | shorter
  deriving DecidableEq, Repr

def Section.number : Section → Nat
  | .longer => 0
  | .previous => 1
  | .current => 2
  | .shorter => 3

structure Preset where
  start : String
  stop : String
  display : String
  group : Option Section := none
  deriving DecidableEq, Repr

namespace Preset

def key (p : Preset) : String := p.start ++ " to " ++ p.stop

def offered : List Preset := [
  ⟨"now/d", "now/d", "Today", some .current⟩,
  ⟨"now/d", "now", "Today so far", some .current⟩,
  ⟨"now/w", "now/w", "This week", some .current⟩,
  ⟨"now/w", "now", "This week so far", some .current⟩,
  ⟨"now/M", "now/M", "This month", some .current⟩,
  ⟨"now/M", "now", "This month so far", some .current⟩,
  ⟨"now/y", "now/y", "This year", some .current⟩,
  ⟨"now/y", "now", "This year so far", some .current⟩,
  ⟨"now-1d/d", "now-1d/d", "Yesterday", some .previous⟩,
  ⟨"now-2d/d", "now-2d/d", "Day before yesterday", some .previous⟩,
  ⟨"now-7d/d", "now-7d/d", "This day last week", some .previous⟩,
  ⟨"now-1w/w", "now-1w/w", "Previous week", some .previous⟩,
  ⟨"now-1M/M", "now-1M/M", "Previous month", some .previous⟩,
  ⟨"now-1Q/fQ", "now-1Q/fQ", "Previous fiscal quarter", some .previous⟩,
  ⟨"now-1y/y", "now-1y/y", "Previous year", some .previous⟩,
  ⟨"now-1y/fy", "now-1y/fy", "Previous fiscal year", some .previous⟩,
  ⟨"now-5m", "now", "Last 5 minutes", some .shorter⟩,
  ⟨"now-15m", "now", "Last 15 minutes", some .shorter⟩,
  ⟨"now-30m", "now", "Last 30 minutes", some .shorter⟩,
  ⟨"now-1h", "now", "Last 1 hour", some .shorter⟩,
  ⟨"now-3h", "now", "Last 3 hours", some .shorter⟩,
  ⟨"now-6h", "now", "Last 6 hours", some .shorter⟩,
  ⟨"now-12h", "now", "Last 12 hours", some .shorter⟩,
  ⟨"now-24h", "now", "Last 24 hours", some .shorter⟩,
  ⟨"now-2d", "now", "Last 2 days", some .longer⟩,
  ⟨"now-7d", "now", "Last 7 days", some .longer⟩,
  ⟨"now-30d", "now", "Last 30 days", some .longer⟩,
  ⟨"now-90d", "now", "Last 90 days", some .longer⟩,
  ⟨"now-6M", "now", "Last 6 months", some .longer⟩,
  ⟨"now-1y", "now", "Last 1 year", some .longer⟩,
  ⟨"now-2y", "now", "Last 2 years", some .longer⟩,
  ⟨"now-5y", "now", "Last 5 years", some .longer⟩,
  ⟨"now/fQ", "now", "This fiscal quarter so far", some .current⟩,
  ⟨"now/fQ", "now/fQ", "This fiscal quarter", some .current⟩,
  ⟨"now/fy", "now", "This fiscal year so far", some .current⟩,
  ⟨"now/fy", "now/fy", "This fiscal year", some .current⟩]

def hidden : List Preset := [
  ⟨"now", "now+1m", "Next minute", none⟩,
  ⟨"now", "now+5m", "Next 5 minutes", none⟩,
  ⟨"now", "now+15m", "Next 15 minutes", none⟩,
  ⟨"now", "now+30m", "Next 30 minutes", none⟩,
  ⟨"now", "now+1h", "Next hour", none⟩,
  ⟨"now", "now+3h", "Next 3 hours", none⟩,
  ⟨"now", "now+6h", "Next 6 hours", none⟩,
  ⟨"now", "now+12h", "Next 12 hours", none⟩,
  ⟨"now", "now+24h", "Next 24 hours", none⟩,
  ⟨"now", "now+2d", "Next 2 days", none⟩,
  ⟨"now", "now+7d", "Next 7 days", none⟩,
  ⟨"now", "now+30d", "Next 30 days", none⟩,
  ⟨"now", "now+90d", "Next 90 days", none⟩,
  ⟨"now", "now+6M", "Next 6 months", none⟩,
  ⟨"now", "now+1y", "Next year", none⟩,
  ⟨"now", "now+2y", "Next 2 years", none⟩,
  ⟨"now", "now+5y", "Next 5 years", none⟩]

def find? (r : RawRange) : Option Preset :=
  (offered ++ hidden).find? fun p => p.key = r.key

end Preset

end TimeWindow
