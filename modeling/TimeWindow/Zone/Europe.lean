import TimeWindow.Zone.Table

/-!
# Zones of Europe

The clock changes on record, up to the last one for which a rule is known.
-/

namespace TimeWindow.Zone.Europe

def berlin : Table where
  name := "Europe/Berlin"
  base := period 53 0 "LMT"
  periods := [period 60 0 "CET", period 120 60 "CEST", period 180 120 "CEMT"]
  changes := [
    (19011213204552, 1), (19160430220000, 2), (19160930230000, 1),
      (19170416010000, 2), (19170917010000, 1),
    (19180415010000, 2), (19180916010000, 1), (19400401010000, 2),
    (19421102010000, 1), (19430329010000, 2),
    (19431004010000, 1), (19440403010000, 2), (19441002010000, 1),
    (19450402010000, 2), (19450524000000, 3),
    (19450924000000, 2), (19451118010000, 1), (19460414010000, 2),
    (19461007010000, 1), (19470406020000, 2),
    (19470511010000, 3), (19470629000000, 2), (19471005010000, 1),
    (19480418010000, 2), (19481003010000, 1),
    (19490410010000, 2), (19491002010000, 1), (19800406010000, 2),
    (19800928010000, 1), (19810329010000, 2),
    (19810927010000, 1), (19820328010000, 2), (19820926010000, 1),
    (19830327010000, 2), (19830925010000, 1),
    (19840325010000, 2), (19840930010000, 1), (19850331010000, 2),
    (19850929010000, 1), (19860330010000, 2),
    (19860928010000, 1), (19870329010000, 2), (19870927010000, 1),
    (19880327010000, 2), (19880925010000, 1),
    (19890326010000, 2), (19890924010000, 1), (19900325010000, 2),
    (19900930010000, 1), (19910331010000, 2),
    (19910929010000, 1), (19920329010000, 2), (19920927010000, 1),
    (19930328010000, 2), (19930926010000, 1),
    (19940327010000, 2), (19940925010000, 1), (19950326010000, 2),
    (19950924010000, 1), (19960331010000, 2),
    (19961027010000, 1), (19970330010000, 2), (19971026010000, 1),
    (19980329010000, 2), (19981025010000, 1),
    (19990328010000, 2), (19991031010000, 1), (20000326010000, 2),
    (20001029010000, 1), (20010325010000, 2),
    (20011028010000, 1), (20020331010000, 2), (20021027010000, 1),
    (20030330010000, 2), (20031026010000, 1),
    (20040328010000, 2), (20041031010000, 1), (20050327010000, 2),
    (20051030010000, 1), (20060326010000, 2),
    (20061029010000, 1), (20070325010000, 2), (20071028010000, 1),
    (20080330010000, 2), (20081026010000, 1),
    (20090329010000, 2), (20091025010000, 1), (20100328010000, 2),
    (20101031010000, 1), (20110327010000, 2),
    (20111030010000, 1), (20120325010000, 2), (20121028010000, 1),
    (20130331010000, 2), (20131027010000, 1),
    (20140330010000, 2), (20141026010000, 1), (20150329010000, 2),
    (20151025010000, 1), (20160327010000, 2),
    (20161030010000, 1), (20170326010000, 2), (20171029010000, 1),
    (20180325010000, 2), (20181028010000, 1),
    (20190331010000, 2), (20191027010000, 1), (20200329010000, 2),
    (20201025010000, 1), (20210328010000, 2),
    (20211031010000, 1), (20220327010000, 2), (20221030010000, 1),
    (20230326010000, 2), (20231029010000, 1),
    (20240331010000, 2), (20241027010000, 1), (20250330010000, 2),
    (20251026010000, 1), (20260329010000, 2),
    (20261025010000, 1), (20270328010000, 2), (20271031010000, 1),
    (20280326010000, 2), (20281029010000, 1),
    (20290325010000, 2), (20291028010000, 1), (20300331010000, 2),
    (20301027010000, 1), (20310330010000, 2),
    (20311026010000, 1), (20320328010000, 2), (20321031010000, 1),
    (20330327010000, 2), (20331030010000, 1),
    (20340326010000, 2), (20341029010000, 1), (20350325010000, 2),
    (20351028010000, 1), (20360330010000, 2),
    (20361026010000, 1), (20370329010000, 2), (20371025010000, 1)]

def london : Table where
  name := "Europe/London"
  base := period (-1) 0 "LMT"
  periods := [period 0 0 "GMT", period 60 60 "BST", period 120 120 "BDST",
    period 60 0 "BST"]
  changes := [
    (19011213204552, 1), (19160521020000, 2), (19161001020000, 1),
      (19170408020000, 2), (19170917020000, 1),
    (19180324020000, 2), (19180930020000, 1), (19190330020000, 2),
    (19190929020000, 1), (19200328020000, 2),
    (19201025020000, 1), (19210403020000, 2), (19211003020000, 1),
    (19220326020000, 2), (19221008020000, 1),
    (19230422020000, 2), (19230916020000, 1), (19240413020000, 2),
    (19240921020000, 1), (19250419020000, 2),
    (19251004020000, 1), (19260418020000, 2), (19261003020000, 1),
    (19270410020000, 2), (19271002020000, 1),
    (19280422020000, 2), (19281007020000, 1), (19290421020000, 2),
    (19291006020000, 1), (19300413020000, 2),
    (19301005020000, 1), (19310419020000, 2), (19311004020000, 1),
    (19320417020000, 2), (19321002020000, 1),
    (19330409020000, 2), (19331008020000, 1), (19340422020000, 2),
    (19341007020000, 1), (19350414020000, 2),
    (19351006020000, 1), (19360419020000, 2), (19361004020000, 1),
    (19370418020000, 2), (19371003020000, 1),
    (19380410020000, 2), (19381002020000, 1), (19390416020000, 2),
    (19391119020000, 1), (19400225020000, 2),
    (19410504010000, 3), (19410810010000, 2), (19420405010000, 3),
    (19420809010000, 2), (19430404010000, 3),
    (19430815010000, 2), (19440402010000, 3), (19440917010000, 2),
    (19450402010000, 3), (19450715010000, 2),
    (19451007020000, 1), (19460414020000, 2), (19461006020000, 1),
    (19470316020000, 2), (19470413010000, 3),
    (19470810010000, 2), (19471102020000, 1), (19480314020000, 2),
    (19481031020000, 1), (19490403020000, 2),
    (19491030020000, 1), (19500416020000, 2), (19501022020000, 1),
    (19510415020000, 2), (19511021020000, 1),
    (19520420020000, 2), (19521026020000, 1), (19530419020000, 2),
    (19531004020000, 1), (19540411020000, 2),
    (19541003020000, 1), (19550417020000, 2), (19551002020000, 1),
    (19560422020000, 2), (19561007020000, 1),
    (19570414020000, 2), (19571006020000, 1), (19580420020000, 2),
    (19581005020000, 1), (19590419020000, 2),
    (19591004020000, 1), (19600410020000, 2), (19601002020000, 1),
    (19610326020000, 2), (19611029020000, 1),
    (19620325020000, 2), (19621028020000, 1), (19630331020000, 2),
    (19631027020000, 1), (19640322020000, 2),
    (19641025020000, 1), (19650321020000, 2), (19651024020000, 1),
    (19660320020000, 2), (19661023020000, 1),
    (19670319020000, 2), (19671029020000, 1), (19680218020000, 2),
    (19681026230000, 4), (19711031020000, 1),
    (19720319020000, 2), (19721029020000, 1), (19730318020000, 2),
    (19731028020000, 1), (19740317020000, 2),
    (19741027020000, 1), (19750316020000, 2), (19751026020000, 1),
    (19760321020000, 2), (19761024020000, 1),
    (19770320020000, 2), (19771023020000, 1), (19780319020000, 2),
    (19781029020000, 1), (19790318020000, 2),
    (19791028020000, 1), (19800316020000, 2), (19801026020000, 1),
    (19810329010000, 2), (19811025010000, 1),
    (19820328010000, 2), (19821024010000, 1), (19830327010000, 2),
    (19831023010000, 1), (19840325010000, 2),
    (19841028010000, 1), (19850331010000, 2), (19851027010000, 1),
    (19860330010000, 2), (19861026010000, 1),
    (19870329010000, 2), (19871025010000, 1), (19880327010000, 2),
    (19881023010000, 1), (19890326010000, 2),
    (19891029010000, 1), (19900325010000, 2), (19901028010000, 1),
    (19910331010000, 2), (19911027010000, 1),
    (19920329010000, 2), (19921025010000, 1), (19930328010000, 2),
    (19931024010000, 1), (19940327010000, 2),
    (19941023010000, 1), (19950326010000, 2), (19951022010000, 1),
    (19960331010000, 2), (19961027010000, 1),
    (19970330010000, 2), (19971026010000, 1), (19980329010000, 2),
    (19981025010000, 1), (19990328010000, 2),
    (19991031010000, 1), (20000326010000, 2), (20001029010000, 1),
    (20010325010000, 2), (20011028010000, 1),
    (20020331010000, 2), (20021027010000, 1), (20030330010000, 2),
    (20031026010000, 1), (20040328010000, 2),
    (20041031010000, 1), (20050327010000, 2), (20051030010000, 1),
    (20060326010000, 2), (20061029010000, 1),
    (20070325010000, 2), (20071028010000, 1), (20080330010000, 2),
    (20081026010000, 1), (20090329010000, 2),
    (20091025010000, 1), (20100328010000, 2), (20101031010000, 1),
    (20110327010000, 2), (20111030010000, 1),
    (20120325010000, 2), (20121028010000, 1), (20130331010000, 2),
    (20131027010000, 1), (20140330010000, 2),
    (20141026010000, 1), (20150329010000, 2), (20151025010000, 1),
    (20160327010000, 2), (20161030010000, 1),
    (20170326010000, 2), (20171029010000, 1), (20180325010000, 2),
    (20181028010000, 1), (20190331010000, 2),
    (20191027010000, 1), (20200329010000, 2), (20201025010000, 1),
    (20210328010000, 2), (20211031010000, 1),
    (20220327010000, 2), (20221030010000, 1), (20230326010000, 2),
    (20231029010000, 1), (20240331010000, 2),
    (20241027010000, 1), (20250330010000, 2), (20251026010000, 1),
    (20260329010000, 2), (20261025010000, 1),
    (20270328010000, 2), (20271031010000, 1), (20280326010000, 2),
    (20281029010000, 1), (20290325010000, 2),
    (20291028010000, 1), (20300331010000, 2), (20301027010000, 1),
    (20310330010000, 2), (20311026010000, 1),
    (20320328010000, 2), (20321031010000, 1), (20330327010000, 2),
    (20331030010000, 1), (20340326010000, 2),
    (20341029010000, 1), (20350325010000, 2), (20351028010000, 1),
    (20360330010000, 2), (20361026010000, 1),
    (20370329010000, 2), (20371025010000, 1)]

def dublin : Table where
  name := "Europe/Dublin"
  base := period (-25) 0 "LMT"
  periods := [
    period (-25) 0 "DMT", period 35 60 "IST", period 0 0 "GMT",
      period 60 60 "BST", period 60 60 "IST",
    period 60 0 "IST", period 0 (-60) "GMT"]
  changes := [
    (19011213204552, 1), (19160521022521, 2), (19161001022521, 3),
      (19170408020000, 4), (19170917020000, 3),
    (19180324020000, 4), (19180930020000, 3), (19190330020000, 4),
    (19190929020000, 3), (19200328020000, 4),
    (19201025020000, 3), (19210403020000, 4), (19211003020000, 3),
    (19220326020000, 5), (19221008020000, 3),
    (19230422020000, 5), (19230916020000, 3), (19240413020000, 5),
    (19240921020000, 3), (19250419020000, 5),
    (19251004020000, 3), (19260418020000, 5), (19261003020000, 3),
    (19270410020000, 5), (19271002020000, 3),
    (19280422020000, 5), (19281007020000, 3), (19290421020000, 5),
    (19291006020000, 3), (19300413020000, 5),
    (19301005020000, 3), (19310419020000, 5), (19311004020000, 3),
    (19320417020000, 5), (19321002020000, 3),
    (19330409020000, 5), (19331008020000, 3), (19340422020000, 5),
    (19341007020000, 3), (19350414020000, 5),
    (19351006020000, 3), (19360419020000, 5), (19361004020000, 3),
    (19370418020000, 5), (19371003020000, 3),
    (19380410020000, 5), (19381002020000, 3), (19390416020000, 5),
    (19391119020000, 3), (19400225020000, 5),
    (19461006020000, 3), (19470316020000, 5), (19471102020000, 3),
    (19480418020000, 5), (19481031020000, 3),
    (19490403020000, 5), (19491030020000, 3), (19500416020000, 5),
    (19501022020000, 3), (19510415020000, 5),
    (19511021020000, 3), (19520420020000, 5), (19521026020000, 3),
    (19530419020000, 5), (19531004020000, 3),
    (19540411020000, 5), (19541003020000, 3), (19550417020000, 5),
    (19551002020000, 3), (19560422020000, 5),
    (19561007020000, 3), (19570414020000, 5), (19571006020000, 3),
    (19580420020000, 5), (19581005020000, 3),
    (19590419020000, 5), (19591004020000, 3), (19600410020000, 5),
    (19601002020000, 3), (19610326020000, 5),
    (19611029020000, 3), (19620325020000, 5), (19621028020000, 3),
    (19630331020000, 5), (19631027020000, 3),
    (19640322020000, 5), (19641025020000, 3), (19650321020000, 5),
    (19651024020000, 3), (19660320020000, 5),
    (19661023020000, 3), (19670319020000, 5), (19671029020000, 3),
    (19680218020000, 5), (19681026230000, 6),
    (19711031020000, 7), (19720319020000, 6), (19721029020000, 7),
    (19730318020000, 6), (19731028020000, 7),
    (19740317020000, 6), (19741027020000, 7), (19750316020000, 6),
    (19751026020000, 7), (19760321020000, 6),
    (19761024020000, 7), (19770320020000, 6), (19771023020000, 7),
    (19780319020000, 6), (19781029020000, 7),
    (19790318020000, 6), (19791028020000, 7), (19800316020000, 6),
    (19801026020000, 7), (19810329010000, 6),
    (19811025010000, 7), (19820328010000, 6), (19821024010000, 7),
    (19830327010000, 6), (19831023010000, 7),
    (19840325010000, 6), (19841028010000, 7), (19850331010000, 6),
    (19851027010000, 7), (19860330010000, 6),
    (19861026010000, 7), (19870329010000, 6), (19871025010000, 7),
    (19880327010000, 6), (19881023010000, 7),
    (19890326010000, 6), (19891029010000, 7), (19900325010000, 6),
    (19901028010000, 7), (19910331010000, 6),
    (19911027010000, 7), (19920329010000, 6), (19921025010000, 7),
    (19930328010000, 6), (19931024010000, 7),
    (19940327010000, 6), (19941023010000, 7), (19950326010000, 6),
    (19951022010000, 7), (19960331010000, 6),
    (19961027010000, 7), (19970330010000, 6), (19971026010000, 7),
    (19980329010000, 6), (19981025010000, 7),
    (19990328010000, 6), (19991031010000, 7), (20000326010000, 6),
    (20001029010000, 7), (20010325010000, 6),
    (20011028010000, 7), (20020331010000, 6), (20021027010000, 7),
    (20030330010000, 6), (20031026010000, 7),
    (20040328010000, 6), (20041031010000, 7), (20050327010000, 6),
    (20051030010000, 7), (20060326010000, 6),
    (20061029010000, 7), (20070325010000, 6), (20071028010000, 7),
    (20080330010000, 6), (20081026010000, 7),
    (20090329010000, 6), (20091025010000, 7), (20100328010000, 6),
    (20101031010000, 7), (20110327010000, 6),
    (20111030010000, 7), (20120325010000, 6), (20121028010000, 7),
    (20130331010000, 6), (20131027010000, 7),
    (20140330010000, 6), (20141026010000, 7), (20150329010000, 6),
    (20151025010000, 7), (20160327010000, 6),
    (20161030010000, 7), (20170326010000, 6), (20171029010000, 7),
    (20180325010000, 6), (20181028010000, 7),
    (20190331010000, 6), (20191027010000, 7), (20200329010000, 6),
    (20201025010000, 7), (20210328010000, 6),
    (20211031010000, 7), (20220327010000, 6), (20221030010000, 7),
    (20230326010000, 6), (20231029010000, 7),
    (20240331010000, 6), (20241027010000, 7), (20250330010000, 6),
    (20251026010000, 7), (20260329010000, 6),
    (20261025010000, 7), (20270328010000, 6), (20271031010000, 7),
    (20280326010000, 6), (20281029010000, 7),
    (20290325010000, 6), (20291028010000, 7), (20300331010000, 6),
    (20301027010000, 7), (20310330010000, 6),
    (20311026010000, 7), (20320328010000, 6), (20321031010000, 7),
    (20330327010000, 6), (20331030010000, 7),
    (20340326010000, 6), (20341029010000, 7), (20350325010000, 6),
    (20351028010000, 7), (20360330010000, 6),
    (20361026010000, 7), (20370329010000, 6), (20371025010000, 7)]

end TimeWindow.Zone.Europe
