import TimeWindow.Zone.Table

/-!
# Zones of Australia and the Pacific

The clock changes on record, up to the last one for which a rule is known.
-/

namespace TimeWindow.Zone.Pacific

def lordHowe : Table where
  name := "Australia/Lord_Howe"
  base := period 636 0 "LMT"
  periods := [period 600 0 "AEST", period 630 0 "+1030", period 690 60 "+1130",
    period 660 30 "+11"]
  changes := [
    (19011213204552, 1), (19810228140000, 2), (19811024153000, 3),
      (19820306143000, 2), (19821030153000, 3),
    (19830305143000, 2), (19831029153000, 3), (19840303143000, 2),
    (19841027153000, 3), (19850302143000, 2),
    (19851026153000, 4), (19860315150000, 2), (19861018153000, 4),
    (19870314150000, 2), (19871024153000, 4),
    (19880319150000, 2), (19881029153000, 4), (19890318150000, 2),
    (19891028153000, 4), (19900303150000, 2),
    (19901027153000, 4), (19910302150000, 2), (19911026153000, 4),
    (19920229150000, 2), (19921024153000, 4),
    (19930306150000, 2), (19931030153000, 4), (19940305150000, 2),
    (19941029153000, 4), (19950304150000, 2),
    (19951028153000, 4), (19960330150000, 2), (19961026153000, 4),
    (19970329150000, 2), (19971025153000, 4),
    (19980328150000, 2), (19981024153000, 4), (19990327150000, 2),
    (19991030153000, 4), (20000325150000, 2),
    (20000826153000, 4), (20010324150000, 2), (20011027153000, 4),
    (20020330150000, 2), (20021026153000, 4),
    (20030329150000, 2), (20031025153000, 4), (20040327150000, 2),
    (20041030153000, 4), (20050326150000, 2),
    (20051029153000, 4), (20060401150000, 2), (20061028153000, 4),
    (20070324150000, 2), (20071027153000, 4),
    (20080405150000, 2), (20081004153000, 4), (20090404150000, 2),
    (20091003153000, 4), (20100403150000, 2),
    (20101002153000, 4), (20110402150000, 2), (20111001153000, 4),
    (20120331150000, 2), (20121006153000, 4),
    (20130406150000, 2), (20131005153000, 4), (20140405150000, 2),
    (20141004153000, 4), (20150404150000, 2),
    (20151003153000, 4), (20160402150000, 2), (20161001153000, 4),
    (20170401150000, 2), (20170930153000, 4),
    (20180331150000, 2), (20181006153000, 4), (20190406150000, 2),
    (20191005153000, 4), (20200404150000, 2),
    (20201003153000, 4), (20210403150000, 2), (20211002153000, 4),
    (20220402150000, 2), (20221001153000, 4),
    (20230401150000, 2), (20230930153000, 4), (20240406150000, 2),
    (20241005153000, 4), (20250405150000, 2),
    (20251004153000, 4), (20260404150000, 2), (20261003153000, 4),
    (20270403150000, 2), (20271002153000, 4),
    (20280401150000, 2), (20280930153000, 4), (20290331150000, 2),
    (20291006153000, 4), (20300406150000, 2),
    (20301005153000, 4), (20310405150000, 2), (20311004153000, 4),
    (20320403150000, 2), (20321002153000, 4),
    (20330402150000, 2), (20331001153000, 4), (20340401150000, 2),
    (20340930153000, 4), (20350331150000, 2),
    (20351006153000, 4), (20360405150000, 2), (20361004153000, 4),
    (20370404150000, 2), (20371003153000, 4)]

def apia : Table where
  name := "Pacific/Apia"
  base := period 753 0 "LMT"
  periods := [
    period (-687) 0 "LMT", period (-690) 0 "-1130", period (-660) 0 "-11",
      period (-600) 60 "-10", period 840 60 "+14",
    period 780 0 "+13"]
  changes := [
    (19011213204552, 1), (19110101112656, 2), (19500101113000, 3),
      (20100926110000, 4), (20110402140000, 3),
    (20110924140000, 4), (20111230100000, 5), (20120331140000, 6),
    (20120929140000, 5), (20130406140000, 6),
    (20130928140000, 5), (20140405140000, 6), (20140927140000, 5),
    (20150404140000, 6), (20150926140000, 5),
    (20160402140000, 6), (20160924140000, 5), (20170401140000, 6),
    (20170923140000, 5), (20180331140000, 6),
    (20180929140000, 5), (20190406140000, 6), (20190928140000, 5),
    (20200404140000, 6), (20200926140000, 5),
    (20210403140000, 6)]

end TimeWindow.Zone.Pacific
