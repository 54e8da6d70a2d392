import TimeWindow.Zone.Table

/-!
# Zones of America

The clock changes on record, up to the last one for which a rule is known.
-/

namespace TimeWindow.Zone.America

def newYork : Table where
  name := "America/New_York"
  base := period (-296) 0 "LMT"
  periods := [period (-300) 0 "EST", period (-240) 60 "EDT",
    period (-240) 60 "EWT", period (-240) 60 "EPT"]
  changes := [
    (19011213204552, 1), (19180331070000, 2), (19181027060000, 1),
      (19190330070000, 2), (19191026060000, 1),
    (19200328070000, 2), (19201031060000, 1), (19210424070000, 2),
    (19210925060000, 1), (19220430070000, 2),
    (19220924060000, 1), (19230429070000, 2), (19230930060000, 1),
    (19240427070000, 2), (19240928060000, 1),
    (19250426070000, 2), (19250927060000, 1), (19260425070000, 2),
    (19260926060000, 1), (19270424070000, 2),
    (19270925060000, 1), (19280429070000, 2), (19280930060000, 1),
    (19290428070000, 2), (19290929060000, 1),
    (19300427070000, 2), (19300928060000, 1), (19310426070000, 2),
    (19310927060000, 1), (19320424070000, 2),
    (19320925060000, 1), (19330430070000, 2), (19330924060000, 1),
    (19340429070000, 2), (19340930060000, 1),
    (19350428070000, 2), (19350929060000, 1), (19360426070000, 2),
    (19360927060000, 1), (19370425070000, 2),
    (19370926060000, 1), (19380424070000, 2), (19380925060000, 1),
    (19390430070000, 2), (19390924060000, 1),
    (19400428070000, 2), (19400929060000, 1), (19410427070000, 2),
    (19410928060000, 1), (19420209070000, 3),
    (19450814230000, 4), (19450930060000, 1), (19460428070000, 2),
    (19460929060000, 1), (19470427070000, 2),
    (19470928060000, 1), (19480425070000, 2), (19480926060000, 1),
    (19490424070000, 2), (19490925060000, 1),
    (19500430070000, 2), (19500924060000, 1), (19510429070000, 2),
    (19510930060000, 1), (19520427070000, 2),
    (19520928060000, 1), (19530426070000, 2), (19530927060000, 1),
    (19540425070000, 2), (19540926060000, 1),
    (19550424070000, 2), (19551030060000, 1), (19560429070000, 2),
    (19561028060000, 1), (19570428070000, 2),
    (19571027060000, 1), (19580427070000, 2), (19581026060000, 1),
    (19590426070000, 2), (19591025060000, 1),
    (19600424070000, 2), (19601030060000, 1), (19610430070000, 2),
    (19611029060000, 1), (19620429070000, 2),
    (19621028060000, 1), (19630428070000, 2), (19631027060000, 1),
    (19640426070000, 2), (19641025060000, 1),
    (19650425070000, 2), (19651031060000, 1), (19660424070000, 2),
    (19661030060000, 1), (19670430070000, 2),
    (19671029060000, 1), (19680428070000, 2), (19681027060000, 1),
    (19690427070000, 2), (19691026060000, 1),
    (19700426070000, 2), (19701025060000, 1), (19710425070000, 2),
    (19711031060000, 1), (19720430070000, 2),
    (19721029060000, 1), (19730429070000, 2), (19731028060000, 1),
    (19740106070000, 2), (19741027060000, 1),
    (19750223070000, 2), (19751026060000, 1), (19760425070000, 2),
    (19761031060000, 1), (19770424070000, 2),
    (19771030060000, 1), (19780430070000, 2), (19781029060000, 1),
    (19790429070000, 2), (19791028060000, 1),
    (19800427070000, 2), (19801026060000, 1), (19810426070000, 2),
    (19811025060000, 1), (19820425070000, 2),
    (19821031060000, 1), (19830424070000, 2), (19831030060000, 1),
    (19840429070000, 2), (19841028060000, 1),
    (19850428070000, 2), (19851027060000, 1), (19860427070000, 2),
    (19861026060000, 1), (19870405070000, 2),
    (19871025060000, 1), (19880403070000, 2), (19881030060000, 1),
    (19890402070000, 2), (19891029060000, 1),
    (19900401070000, 2), (19901028060000, 1), (19910407070000, 2),
    (19911027060000, 1), (19920405070000, 2),
    (19921025060000, 1), (19930404070000, 2), (19931031060000, 1),
    (19940403070000, 2), (19941030060000, 1),
    (19950402070000, 2), (19951029060000, 1), (19960407070000, 2),
    (19961027060000, 1), (19970406070000, 2),
    (19971026060000, 1), (19980405070000, 2), (19981025060000, 1),
    (19990404070000, 2), (19991031060000, 1),
    (20000402070000, 2), (20001029060000, 1), (20010401070000, 2),
    (20011028060000, 1), (20020407070000, 2),
    (20021027060000, 1), (20030406070000, 2), (20031026060000, 1),
    (20040404070000, 2), (20041031060000, 1),
    (20050403070000, 2), (20051030060000, 1), (20060402070000, 2),
    (20061029060000, 1), (20070311070000, 2),
    (20071104060000, 1), (20080309070000, 2), (20081102060000, 1),
    (20090308070000, 2), (20091101060000, 1),
    (20100314070000, 2), (20101107060000, 1), (20110313070000, 2),
    (20111106060000, 1), (20120311070000, 2),
    (20121104060000, 1), (20130310070000, 2), (20131103060000, 1),
    (20140309070000, 2), (20141102060000, 1),
    (20150308070000, 2), (20151101060000, 1), (20160313070000, 2),
    (20161106060000, 1), (20170312070000, 2),
    (20171105060000, 1), (20180311070000, 2), (20181104060000, 1),
    (20190310070000, 2), (20191103060000, 1),
    (20200308070000, 2), (20201101060000, 1), (20210314070000, 2),
    (20211107060000, 1), (20220313070000, 2),
    (20221106060000, 1), (20230312070000, 2), (20231105060000, 1),
    (20240310070000, 2), (20241103060000, 1),
    (20250309070000, 2), (20251102060000, 1), (20260308070000, 2),
    (20261101060000, 1), (20270314070000, 2),
    (20271107060000, 1), (20280312070000, 2), (20281105060000, 1),
    (20290311070000, 2), (20291104060000, 1),
    (20300310070000, 2), (20301103060000, 1), (20310309070000, 2),
    (20311102060000, 1), (20320314070000, 2),
    (20321107060000, 1), (20330313070000, 2), (20331106060000, 1),
    (20340312070000, 2), (20341105060000, 1),
    (20350311070000, 2), (20351104060000, 1), (20360309070000, 2),
    (20361102060000, 1), (20370308070000, 2),
    (20371101060000, 1)]

def stJohns : Table where
  name := "America/St_Johns"
  base := period (-211) 0 "LMT"
  periods := [
    period (-211) 0 "NST", period (-151) 60 "NDT", period (-210) 0 "NST",
      period (-150) 60 "NDT",
    period (-150) 60 "NWT", period (-150) 60 "NPT", period (-90) 120 "NDDT"]
  changes := [
    (19011213204552, 1), (19170408053052, 2), (19170917043052, 1),
      (19180414053052, 2), (19181027043052, 1),
    (19190506023052, 2), (19190813013052, 1), (19200503023052, 2),
    (19201101013052, 1), (19210502023052, 2),
    (19211031013052, 1), (19220508023052, 2), (19221030013052, 1),
    (19230507023052, 2), (19231029013052, 1),
    (19240505023052, 2), (19241027013052, 1), (19250504023052, 2),
    (19251026013052, 1), (19260503023052, 2),
    (19261101013052, 1), (19270502023052, 2), (19271031013052, 1),
    (19280507023052, 2), (19281029013052, 1),
    (19290506023052, 2), (19291028013052, 1), (19300505023052, 2),
    (19301027013052, 1), (19310504023052, 2),
    (19311026013052, 1), (19320502023052, 2), (19321031013052, 1),
    (19330508023052, 2), (19331030013052, 1),
    (19340507023052, 2), (19341029013052, 1), (19350330033052, 3),
    (19350506023000, 4), (19351028013000, 3),
    (19360511033000, 4), (19361005023000, 3), (19370510033000, 4),
    (19371004023000, 3), (19380509033000, 4),
    (19381003023000, 3), (19390515033000, 4), (19391002023000, 3),
    (19400513033000, 4), (19401007023000, 3),
    (19410512033000, 4), (19411006023000, 3), (19420511033000, 5),
    (19450814230000, 6), (19450930043000, 3),
    (19460512053000, 4), (19461006043000, 3), (19470511053000, 4),
    (19471005043000, 3), (19480509053000, 4),
    (19481003043000, 3), (19490508053000, 4), (19491002043000, 3),
    (19500514053000, 4), (19501008043000, 3),
    (19510429053000, 4), (19510930043000, 3), (19520427053000, 4),
    (19520928043000, 3), (19530426053000, 4),
    (19530927043000, 3), (19540425053000, 4), (19540926043000, 3),
    (19550424053000, 4), (19550925043000, 3),
    (19560429053000, 4), (19560930043000, 3), (19570428053000, 4),
    (19570929043000, 3), (19580427053000, 4),
    (19580928043000, 3), (19590426053000, 4), (19590927043000, 3),
    (19600424053000, 4), (19601030043000, 3),
    (19610430053000, 4), (19611029043000, 3), (19620429053000, 4),
    (19621028043000, 3), (19630428053000, 4),
    (19631027043000, 3), (19640426053000, 4), (19641025043000, 3),
    (19650425053000, 4), (19651031043000, 3),
    (19660424053000, 4), (19661030043000, 3), (19670430053000, 4),
    (19671029043000, 3), (19680428053000, 4),
    (19681027043000, 3), (19690427053000, 4), (19691026043000, 3),
    (19700426053000, 4), (19701025043000, 3),
    (19710425053000, 4), (19711031043000, 3), (19720430053000, 4),
    (19721029043000, 3), (19730429053000, 4),
    (19731028043000, 3), (19740428053000, 4), (19741027043000, 3),
    (19750427053000, 4), (19751026043000, 3),
    (19760425053000, 4), (19761031043000, 3), (19770424053000, 4),
    (19771030043000, 3), (19780430053000, 4),
    (19781029043000, 3), (19790429053000, 4), (19791028043000, 3),
    (19800427053000, 4), (19801026043000, 3),
    (19810426053000, 4), (19811025043000, 3), (19820425053000, 4),
    (19821031043000, 3), (19830424053000, 4),
    (19831030043000, 3), (19840429053000, 4), (19841028043000, 3),
    (19850428053000, 4), (19851027043000, 3),
    (19860427053000, 4), (19861026043000, 3), (19870405033100, 4),
    (19871025023100, 3), (19880403033100, 7),
    (19881030013100, 3), (19890402033100, 4), (19891029023100, 3),
    (19900401033100, 4), (19901028023100, 3),
    (19910407033100, 4), (19911027023100, 3), (19920405033100, 4),
    (19921025023100, 3), (19930404033100, 4),
    (19931031023100, 3), (19940403033100, 4), (19941030023100, 3),
    (19950402033100, 4), (19951029023100, 3),
    (19960407033100, 4), (19961027023100, 3), (19970406033100, 4),
    (19971026023100, 3), (19980405033100, 4),
    (19981025023100, 3), (19990404033100, 4), (19991031023100, 3),
    (20000402033100, 4), (20001029023100, 3),
    (20010401033100, 4), (20011028023100, 3), (20020407033100, 4),
    (20021027023100, 3), (20030406033100, 4),
    (20031026023100, 3), (20040404033100, 4), (20041031023100, 3),
    (20050403033100, 4), (20051030023100, 3),
    (20060402033100, 4), (20061029023100, 3), (20070311033100, 4),
    (20071104023100, 3), (20080309033100, 4),
    (20081102023100, 3), (20090308033100, 4), (20091101023100, 3),
    (20100314033100, 4), (20101107023100, 3),
    (20110313033100, 4), (20111106043000, 3), (20120311053000, 4),
    (20121104043000, 3), (20130310053000, 4),
    (20131103043000, 3), (20140309053000, 4), (20141102043000, 3),
    (20150308053000, 4), (20151101043000, 3),
    (20160313053000, 4), (20161106043000, 3), (20170312053000, 4),
    (20171105043000, 3), (20180311053000, 4),
    (20181104043000, 3), (20190310053000, 4), (20191103043000, 3),
    (20200308053000, 4), (20201101043000, 3),
    (20210314053000, 4), (20211107043000, 3), (20220313053000, 4),
    (20221106043000, 3), (20230312053000, 4),
    (20231105043000, 3), (20240310053000, 4), (20241103043000, 3),
    (20250309053000, 4), (20251102043000, 3),
    (20260308053000, 4), (20261101043000, 3), (20270314053000, 4),
    (20271107043000, 3), (20280312053000, 4),
    (20281105043000, 3), (20290311053000, 4), (20291104043000, 3),
    (20300310053000, 4), (20301103043000, 3),
    (20310309053000, 4), (20311102043000, 3), (20320314053000, 4),
    (20321107043000, 3), (20330313053000, 4),
    (20331106043000, 3), (20340312053000, 4), (20341105043000, 3),
    (20350311053000, 4), (20351104043000, 3),
    (20360309053000, 4), (20361102043000, 3), (20370308053000, 4),
    (20371101043000, 3)]

def saoPaulo : Table where
  name := "America/Sao_Paulo"
  base := period (-186) 0 "LMT"
  periods := [period (-180) 0 "-03", period (-120) 60 "-02"]
  changes := [
    (19140101030628, 1), (19311003140000, 2), (19320401020000, 1),
      (19321003030000, 2), (19330401020000, 1),
    (19491201030000, 2), (19500416030000, 1), (19501201030000, 2),
    (19510401020000, 1), (19511201030000, 2),
    (19520401020000, 1), (19521201030000, 2), (19530301020000, 1),
    (19631023030000, 2), (19640301020000, 1),
    (19650131030000, 2), (19650331020000, 1), (19651201030000, 2),
    (19660301020000, 1), (19661101030000, 2),
    (19670301020000, 1), (19671101030000, 2), (19680301020000, 1),
    (19851102030000, 2), (19860315020000, 1),
    (19861025030000, 2), (19870214020000, 1), (19871025030000, 2),
    (19880207020000, 1), (19881016030000, 2),
    (19890129020000, 1), (19891015030000, 2), (19900211020000, 1),
    (19901021030000, 2), (19910217020000, 1),
    (19911020030000, 2), (19920209020000, 1), (19921025030000, 2),
    (19930131020000, 1), (19931017030000, 2),
    (19940220020000, 1), (19941016030000, 2), (19950219020000, 1),
    (19951015030000, 2), (19960211020000, 1),
    (19961006030000, 2), (19970216020000, 1), (19971006030000, 2),
    (19980301020000, 1), (19981011030000, 2),
    (19990221020000, 1), (19991003030000, 2), (20000227020000, 1),
    (20001008030000, 2), (20010218020000, 1),
    (20011014030000, 2), (20020217020000, 1), (20021103030000, 2),
    (20030216020000, 1), (20031019030000, 2),
    (20040215020000, 1), (20041102030000, 2), (20050220020000, 1),
    (20051016030000, 2), (20060219020000, 1),
    (20061105030000, 2), (20070225020000, 1), (20071014030000, 2),
    (20080217020000, 1), (20081019030000, 2),
    (20090215020000, 1), (20091018030000, 2), (20100221020000, 1),
    (20101017030000, 2), (20110220020000, 1),
    (20111016030000, 2), (20120226020000, 1), (20121021030000, 2),
    (20130217020000, 1), (20131020030000, 2),
    (20140216020000, 1), (20141019030000, 2), (20150222020000, 1),
    (20151018030000, 2), (20160221020000, 1),
    (20161016030000, 2), (20170219020000, 1), (20171015030000, 2),
    (20180218020000, 1), (20181104030000, 2),
    (20190217020000, 1)]

def buenosAires : Table where
  name := "America/Argentina/Buenos_Aires"
  base := period (-234) 0 "LMT"
  periods := [
    period (-257) 0 "CMT", period (-240) 0 "-04", period (-180) 60 "-03",
      period (-180) 0 "-03",
    period (-120) 60 "-02"]
  changes := [
    (19011213204552, 1), (19200501041648, 2), (19301201040000, 3),
      (19310401030000, 2),
    (19311015040000, 3), (19320301030000, 2), (19321101040000, 3),
    (19330301030000, 2),
    (19331101040000, 3), (19340301030000, 2), (19341101040000, 3),
    (19350301030000, 2),
    (19351101040000, 3), (19360301030000, 2), (19361101040000, 3),
    (19370301030000, 2),
    (19371101040000, 3), (19380301030000, 2), (19381101040000, 3),
    (19390301030000, 2),
    (19391101040000, 3), (19400301030000, 2), (19400701040000, 3),
    (19410615030000, 2),
    (19411015040000, 3), (19430801030000, 2), (19431015040000, 3),
    (19460301030000, 2),
    (19461001040000, 3), (19631001030000, 2), (19631215040000, 3),
    (19640301030000, 2),
    (19641015040000, 3), (19650301030000, 2), (19651015040000, 3),
    (19660301030000, 2),
    (19661015040000, 3), (19670402030000, 2), (19671001040000, 3),
    (19680407030000, 2),
    (19681006040000, 3), (19690406030000, 2), (19691005040000, 4),
    (19740123030000, 5),
    (19740501020000, 4), (19881201030000, 5), (19890305020000, 4),
    (19891015030000, 5),
    (19900304020000, 4), (19901021030000, 5), (19910303020000, 4),
    (19911020030000, 5),
    (19920301020000, 4), (19921018030000, 5), (19930307020000, 4),
    (19991003030000, 4),
    (20000303030000, 4), (20071230030000, 5), (20080316020000, 4),
    (20081019030000, 5),
    (20090315020000, 4)]

end TimeWindow.Zone.America
