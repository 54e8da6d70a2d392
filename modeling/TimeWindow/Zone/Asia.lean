import TimeWindow.Zone.Table

/-!
# Zones of Asia

The clock changes on record, up to the last one for which a rule is known.
-/

namespace TimeWindow.Zone.Asia

def kolkata : Table where
  name := "Asia/Kolkata"
  base := period 353 0 "LMT"
  periods := [period 321 0 "MMT", period 330 0 "IST", period 390 60 "+0630"]
  changes := [
    (19011213204552, 1), (19051231183850, 2), (19410930183000, 3),
      (19420514173000, 2), (19420831183000, 3),
    (19451014173000, 2)]

def kathmandu : Table where
  name := "Asia/Kathmandu"
  base := period 341 0 "LMT"
  periods := [period 330 0 "+0530", period 345 0 "+0545"]
  changes := [
    (19191231181844, 1), (19851231183000, 2)]

def tokyo : Table where
  name := "Asia/Tokyo"
  base := period 559 0 "LMT"
  periods := [period 540 0 "JST", period 600 60 "JDT"]
  changes := [
    (19011213204552, 1), (19480501150000, 2), (19480911150000, 1),
      (19490402150000, 2), (19490910150000, 1),
    (19500506150000, 2), (19500909150000, 1), (19510505150000, 2),
    (19510908150000, 1)]

end TimeWindow.Zone.Asia
