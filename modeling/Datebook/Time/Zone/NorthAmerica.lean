import Datebook.Time.Zone.History

/-!
This module contains the histories of zones in and near North America.
-/

namespace Datebook.Zone.History

def newYork : History :=
  { initial := -17762
    listed :=
      [(18831118170000, -18000), (19180331070000, -14400), (19181027060000, -18000),
       (19190330070000, -14400), (19191026060000, -18000), (19200328070000, -14400),
       (19201031060000, -18000), (19210424070000, -14400), (19210925060000, -18000),
       (19220430070000, -14400), (19220924060000, -18000), (19230429070000, -14400),
       (19230930060000, -18000), (19240427070000, -14400), (19240928060000, -18000),
       (19250426070000, -14400), (19250927060000, -18000), (19260425070000, -14400),
       (19260926060000, -18000), (19270424070000, -14400), (19270925060000, -18000),
       (19280429070000, -14400), (19280930060000, -18000), (19290428070000, -14400),
       (19290929060000, -18000), (19300427070000, -14400), (19300928060000, -18000),
       (19310426070000, -14400), (19310927060000, -18000), (19320424070000, -14400),
       (19320925060000, -18000), (19330430070000, -14400), (19330924060000, -18000),
       (19340429070000, -14400), (19340930060000, -18000), (19350428070000, -14400),
       (19350929060000, -18000), (19360426070000, -14400), (19360927060000, -18000),
       (19370425070000, -14400), (19370926060000, -18000), (19380424070000, -14400),
       (19380925060000, -18000), (19390430070000, -14400), (19390924060000, -18000),
       (19400428070000, -14400), (19400929060000, -18000), (19410427070000, -14400),
       (19410928060000, -18000), (19420209070000, -14400), (19450930060000, -18000),
       (19460428070000, -14400), (19460929060000, -18000), (19470427070000, -14400),
       (19470928060000, -18000), (19480425070000, -14400), (19480926060000, -18000),
       (19490424070000, -14400), (19490925060000, -18000), (19500430070000, -14400),
       (19500924060000, -18000), (19510429070000, -14400), (19510930060000, -18000),
       (19520427070000, -14400), (19520928060000, -18000), (19530426070000, -14400),
       (19530927060000, -18000), (19540425070000, -14400), (19540926060000, -18000),
       (19550424070000, -14400), (19551030060000, -18000), (19560429070000, -14400),
       (19561028060000, -18000), (19570428070000, -14400), (19571027060000, -18000),
       (19580427070000, -14400), (19581026060000, -18000), (19590426070000, -14400),
       (19591025060000, -18000), (19600424070000, -14400), (19601030060000, -18000),
       (19610430070000, -14400), (19611029060000, -18000), (19620429070000, -14400),
       (19621028060000, -18000), (19630428070000, -14400), (19631027060000, -18000),
       (19640426070000, -14400), (19641025060000, -18000), (19650425070000, -14400),
       (19651031060000, -18000), (19660424070000, -14400), (19661030060000, -18000),
       (19670430070000, -14400), (19671029060000, -18000), (19680428070000, -14400),
       (19681027060000, -18000), (19690427070000, -14400), (19691026060000, -18000),
       (19700426070000, -14400), (19701025060000, -18000), (19710425070000, -14400),
       (19711031060000, -18000), (19720430070000, -14400), (19721029060000, -18000),
       (19730429070000, -14400), (19731028060000, -18000), (19740106070000, -14400),
       (19741027060000, -18000), (19750223070000, -14400), (19751026060000, -18000),
       (19760425070000, -14400), (19761031060000, -18000), (19770424070000, -14400),
       (19771030060000, -18000), (19780430070000, -14400), (19781029060000, -18000),
       (19790429070000, -14400), (19791028060000, -18000), (19800427070000, -14400),
       (19801026060000, -18000), (19810426070000, -14400), (19811025060000, -18000),
       (19820425070000, -14400), (19821031060000, -18000), (19830424070000, -14400),
       (19831030060000, -18000), (19840429070000, -14400), (19841028060000, -18000),
       (19850428070000, -14400), (19851027060000, -18000), (19860427070000, -14400),
       (19861026060000, -18000), (19870405070000, -14400), (19871025060000, -18000),
       (19880403070000, -14400), (19881030060000, -18000), (19890402070000, -14400),
       (19891029060000, -18000), (19900401070000, -14400), (19901028060000, -18000),
       (19910407070000, -14400), (19911027060000, -18000), (19920405070000, -14400),
       (19921025060000, -18000), (19930404070000, -14400), (19931031060000, -18000),
       (19940403070000, -14400), (19941030060000, -18000), (19950402070000, -14400),
       (19951029060000, -18000), (19960407070000, -14400), (19961027060000, -18000),
       (19970406070000, -14400), (19971026060000, -18000), (19980405070000, -14400),
       (19981025060000, -18000), (19990404070000, -14400), (19991031060000, -18000),
       (20000402070000, -14400), (20001029060000, -18000), (20010401070000, -14400),
       (20011028060000, -18000), (20020407070000, -14400), (20021027060000, -18000),
       (20030406070000, -14400), (20031026060000, -18000), (20040404070000, -14400),
       (20041031060000, -18000), (20050403070000, -14400), (20051030060000, -18000),
       (20060402070000, -14400), (20061029060000, -18000)]
    rulesFrom := 2007
    rules := northAmerican 420 360 (-14400) (-18000) }

def losAngeles : History :=
  { initial := -28378
    listed :=
      [(18831118200000, -28800), (19180331100000, -25200), (19181027090000, -28800),
       (19190330100000, -25200), (19191026090000, -28800), (19420209100000, -25200),
       (19450930090000, -28800), (19480314100100, -25200), (19490101090000, -28800),
       (19500430090000, -25200), (19500924090000, -28800), (19510429090000, -25200),
       (19510930090000, -28800), (19520427090000, -25200), (19520928090000, -28800),
       (19530426090000, -25200), (19530927090000, -28800), (19540425090000, -25200),
       (19540926090000, -28800), (19550424090000, -25200), (19550925090000, -28800),
       (19560429090000, -25200), (19560930090000, -28800), (19570428090000, -25200),
       (19570929090000, -28800), (19580427090000, -25200), (19580928090000, -28800),
       (19590426090000, -25200), (19590927090000, -28800), (19600424090000, -25200),
       (19600925090000, -28800), (19610430090000, -25200), (19610924090000, -28800),
       (19620429090000, -25200), (19621028090000, -28800), (19630428090000, -25200),
       (19631027090000, -28800), (19640426090000, -25200), (19641025090000, -28800),
       (19650425090000, -25200), (19651031090000, -28800), (19660424090000, -25200),
       (19661030090000, -28800), (19670430100000, -25200), (19671029090000, -28800),
       (19680428100000, -25200), (19681027090000, -28800), (19690427100000, -25200),
       (19691026090000, -28800), (19700426100000, -25200), (19701025090000, -28800),
       (19710425100000, -25200), (19711031090000, -28800), (19720430100000, -25200),
       (19721029090000, -28800), (19730429100000, -25200), (19731028090000, -28800),
       (19740106100000, -25200), (19741027090000, -28800), (19750223100000, -25200),
       (19751026090000, -28800), (19760425100000, -25200), (19761031090000, -28800),
       (19770424100000, -25200), (19771030090000, -28800), (19780430100000, -25200),
       (19781029090000, -28800), (19790429100000, -25200), (19791028090000, -28800),
       (19800427100000, -25200), (19801026090000, -28800), (19810426100000, -25200),
       (19811025090000, -28800), (19820425100000, -25200), (19821031090000, -28800),
       (19830424100000, -25200), (19831030090000, -28800), (19840429100000, -25200),
       (19841028090000, -28800), (19850428100000, -25200), (19851027090000, -28800),
       (19860427100000, -25200), (19861026090000, -28800), (19870405100000, -25200),
       (19871025090000, -28800), (19880403100000, -25200), (19881030090000, -28800),
       (19890402100000, -25200), (19891029090000, -28800), (19900401100000, -25200),
       (19901028090000, -28800), (19910407100000, -25200), (19911027090000, -28800),
       (19920405100000, -25200), (19921025090000, -28800), (19930404100000, -25200),
       (19931031090000, -28800), (19940403100000, -25200), (19941030090000, -28800),
       (19950402100000, -25200), (19951029090000, -28800), (19960407100000, -25200),
       (19961027090000, -28800), (19970406100000, -25200), (19971026090000, -28800),
       (19980405100000, -25200), (19981025090000, -28800), (19990404100000, -25200),
       (19991031090000, -28800), (20000402100000, -25200), (20001029090000, -28800),
       (20010401100000, -25200), (20011028090000, -28800), (20020407100000, -25200),
       (20021027090000, -28800), (20030406100000, -25200), (20031026090000, -28800),
       (20040404100000, -25200), (20041031090000, -28800), (20050403100000, -25200),
       (20051030090000, -28800), (20060402100000, -25200), (20061029090000, -28800)]
    rulesFrom := 2007
    rules := northAmerican 600 540 (-25200) (-28800) }

/--
Pacific time as the whole country keeps it.
-/
def pacific : History :=
  { initial := -28800
    listed :=
      [(19180331100000, -25200), (19181027090000, -28800), (19190330100000, -25200),
       (19191026090000, -28800), (19420209100000, -25200), (19450930090000, -28800),
       (19670430100000, -25200), (19671029090000, -28800), (19680428100000, -25200),
       (19681027090000, -28800), (19690427100000, -25200), (19691026090000, -28800),
       (19700426100000, -25200), (19701025090000, -28800), (19710425100000, -25200),
       (19711031090000, -28800), (19720430100000, -25200), (19721029090000, -28800),
       (19730429100000, -25200), (19731028090000, -28800), (19740106100000, -25200),
       (19741027090000, -28800), (19750223100000, -25200), (19751026090000, -28800),
       (19760425100000, -25200), (19761031090000, -28800), (19770424100000, -25200),
       (19771030090000, -28800), (19780430100000, -25200), (19781029090000, -28800),
       (19790429100000, -25200), (19791028090000, -28800), (19800427100000, -25200),
       (19801026090000, -28800), (19810426100000, -25200), (19811025090000, -28800),
       (19820425100000, -25200), (19821031090000, -28800), (19830424100000, -25200),
       (19831030090000, -28800), (19840429100000, -25200), (19841028090000, -28800),
       (19850428100000, -25200), (19851027090000, -28800), (19860427100000, -25200),
       (19861026090000, -28800), (19870405100000, -25200), (19871025090000, -28800),
       (19880403100000, -25200), (19881030090000, -28800), (19890402100000, -25200),
       (19891029090000, -28800), (19900401100000, -25200), (19901028090000, -28800),
       (19910407100000, -25200), (19911027090000, -28800), (19920405100000, -25200),
       (19921025090000, -28800), (19930404100000, -25200), (19931031090000, -28800),
       (19940403100000, -25200), (19941030090000, -28800), (19950402100000, -25200),
       (19951029090000, -28800), (19960407100000, -25200), (19961027090000, -28800),
       (19970406100000, -25200), (19971026090000, -28800), (19980405100000, -25200),
       (19981025090000, -28800), (19990404100000, -25200), (19991031090000, -28800),
       (20000402100000, -25200), (20001029090000, -28800), (20010401100000, -25200),
       (20011028090000, -28800), (20020407100000, -25200), (20021027090000, -28800),
       (20030406100000, -25200), (20031026090000, -28800), (20040404100000, -25200),
       (20041031090000, -28800), (20050403100000, -25200), (20051030090000, -28800),
       (20060402100000, -25200), (20061029090000, -28800)]
    rulesFrom := 2007
    rules := northAmerican 600 540 (-25200) (-28800) }

def stJohns : History :=
  { initial := -12652
    listed :=
      [(19170408053052, -9052), (19170917043052, -12652), (19180414053052, -9052),
       (19181027043052, -12652), (19190506023052, -9052), (19190813013052, -12652),
       (19200503023052, -9052), (19201101013052, -12652), (19210502023052, -9052),
       (19211031013052, -12652), (19220508023052, -9052), (19221030013052, -12652),
       (19230507023052, -9052), (19231029013052, -12652), (19240505023052, -9052),
       (19241027013052, -12652), (19250504023052, -9052), (19251026013052, -12652),
       (19260503023052, -9052), (19261101013052, -12652), (19270502023052, -9052),
       (19271031013052, -12652), (19280507023052, -9052), (19281029013052, -12652),
       (19290506023052, -9052), (19291028013052, -12652), (19300505023052, -9052),
       (19301027013052, -12652), (19310504023052, -9052), (19311026013052, -12652),
       (19320502023052, -9052), (19321031013052, -12652), (19330508023052, -9052),
       (19331030013052, -12652), (19340507023052, -9052), (19341029013052, -12652),
       (19350330033052, -12600), (19350506023000, -9000), (19351028013000, -12600),
       (19360511033000, -9000), (19361005023000, -12600), (19370510033000, -9000),
       (19371004023000, -12600), (19380509033000, -9000), (19381003023000, -12600),
       (19390515033000, -9000), (19391002023000, -12600), (19400513033000, -9000),
       (19401007023000, -12600), (19410512033000, -9000), (19411006023000, -12600),
       (19420511033000, -9000), (19450930043000, -12600), (19460512053000, -9000),
       (19461006043000, -12600), (19470511053000, -9000), (19471005043000, -12600),
       (19480509053000, -9000), (19481003043000, -12600), (19490508053000, -9000),
       (19491002043000, -12600), (19500514053000, -9000), (19501008043000, -12600),
       (19510429053000, -9000), (19510930043000, -12600), (19520427053000, -9000),
       (19520928043000, -12600), (19530426053000, -9000), (19530927043000, -12600),
       (19540425053000, -9000), (19540926043000, -12600), (19550424053000, -9000),
       (19550925043000, -12600), (19560429053000, -9000), (19560930043000, -12600),
       (19570428053000, -9000), (19570929043000, -12600), (19580427053000, -9000),
       (19580928043000, -12600), (19590426053000, -9000), (19590927043000, -12600),
       (19600424053000, -9000), (19601030043000, -12600), (19610430053000, -9000),
       (19611029043000, -12600), (19620429053000, -9000), (19621028043000, -12600),
       (19630428053000, -9000), (19631027043000, -12600), (19640426053000, -9000),
       (19641025043000, -12600), (19650425053000, -9000), (19651031043000, -12600),
       (19660424053000, -9000), (19661030043000, -12600), (19670430053000, -9000),
       (19671029043000, -12600), (19680428053000, -9000), (19681027043000, -12600),
       (19690427053000, -9000), (19691026043000, -12600), (19700426053000, -9000),
       (19701025043000, -12600), (19710425053000, -9000), (19711031043000, -12600),
       (19720430053000, -9000), (19721029043000, -12600), (19730429053000, -9000),
       (19731028043000, -12600), (19740428053000, -9000), (19741027043000, -12600),
       (19750427053000, -9000), (19751026043000, -12600), (19760425053000, -9000),
       (19761031043000, -12600), (19770424053000, -9000), (19771030043000, -12600),
       (19780430053000, -9000), (19781029043000, -12600), (19790429053000, -9000),
       (19791028043000, -12600), (19800427053000, -9000), (19801026043000, -12600),
       (19810426053000, -9000), (19811025043000, -12600), (19820425053000, -9000),
       (19821031043000, -12600), (19830424053000, -9000), (19831030043000, -12600),
       (19840429053000, -9000), (19841028043000, -12600), (19850428053000, -9000),
       (19851027043000, -12600), (19860427053000, -9000), (19861026043000, -12600),
       (19870405033100, -9000), (19871025023100, -12600), (19880403033100, -5400),
       (19881030013100, -12600), (19890402033100, -9000), (19891029023100, -12600),
       (19900401033100, -9000), (19901028023100, -12600), (19910407033100, -9000),
       (19911027023100, -12600), (19920405033100, -9000), (19921025023100, -12600),
       (19930404033100, -9000), (19931031023100, -12600), (19940403033100, -9000),
       (19941030023100, -12600), (19950402033100, -9000), (19951029023100, -12600),
       (19960407033100, -9000), (19961027023100, -12600), (19970406033100, -9000),
       (19971026023100, -12600), (19980405033100, -9000), (19981025023100, -12600),
       (19990404033100, -9000), (19991031023100, -12600), (20000402033100, -9000),
       (20001029023100, -12600), (20010401033100, -9000), (20011028023100, -12600),
       (20020407033100, -9000), (20021027023100, -12600), (20030406033100, -9000),
       (20031026023100, -12600), (20040404033100, -9000), (20041031023100, -12600),
       (20050403033100, -9000), (20051030023100, -12600), (20060402033100, -9000),
       (20061029023100, -12600), (20070311033100, -9000), (20071104023100, -12600),
       (20080309033100, -9000), (20081102023100, -12600), (20090308033100, -9000),
       (20091101023100, -12600), (20100314033100, -9000), (20101107023100, -12600),
       (20110313033100, -9000), (20111106043000, -12600)]
    rulesFrom := 2012
    rules := northAmerican 330 270 (-9000) (-12600) }

def havana : History :=
  { initial := -19768
    listed :=
      [(18900101052928, -19776), (19250719172936, -18000), (19280610050000, -14400),
       (19281010040000, -18000), (19400602050000, -14400), (19400901040000, -18000),
       (19410601050000, -14400), (19410907040000, -18000), (19420607050000, -14400),
       (19420906040000, -18000), (19450603050000, -14400), (19450902040000, -18000),
       (19460602050000, -14400), (19460901040000, -18000), (19650601050000, -14400),
       (19650930040000, -18000), (19660529050000, -14400), (19661002040000, -18000),
       (19670408050000, -14400), (19670910040000, -18000), (19680414050000, -14400),
       (19680908040000, -18000), (19690427050000, -14400), (19691026040000, -18000),
       (19700426050000, -14400), (19701025040000, -18000), (19710425050000, -14400),
       (19711031040000, -18000), (19720430050000, -14400), (19721008040000, -18000),
       (19730429050000, -14400), (19731008040000, -18000), (19740428050000, -14400),
       (19741008040000, -18000), (19750427050000, -14400), (19751026040000, -18000),
       (19760425050000, -14400), (19761031040000, -18000), (19770424050000, -14400),
       (19771030040000, -18000), (19780507050000, -14400), (19781008040000, -18000),
       (19790318050000, -14400), (19791014040000, -18000), (19800316050000, -14400),
       (19801012040000, -18000), (19810510050000, -14400), (19811011040000, -18000),
       (19820509050000, -14400), (19821010040000, -18000), (19830508050000, -14400),
       (19831009040000, -18000), (19840506050000, -14400), (19841014040000, -18000),
       (19850505050000, -14400), (19851013040000, -18000), (19860316050000, -14400),
       (19861012040000, -18000), (19870315050000, -14400), (19871011040000, -18000),
       (19880320050000, -14400), (19881009040000, -18000), (19890319050000, -14400),
       (19891008040000, -18000), (19900401050000, -14400), (19901014040000, -18000),
       (19910407050000, -14400), (19911013050000, -18000), (19920405050000, -14400),
       (19921011050000, -18000), (19930404050000, -14400), (19931010050000, -18000),
       (19940403050000, -14400), (19941009050000, -18000), (19950402050000, -14400),
       (19951008050000, -18000), (19960407050000, -14400), (19961006050000, -18000),
       (19970406050000, -14400), (19971012050000, -18000), (19980329050000, -14400),
       (19981025050000, -18000), (19990328050000, -14400), (19991031050000, -18000),
       (20000402050000, -14400), (20001029050000, -18000), (20010401050000, -14400),
       (20011028050000, -18000), (20020407050000, -14400), (20021027050000, -18000),
       (20030406050000, -14400), (20031026050000, -18000), (20040328050000, -14400),
       (20061029050000, -18000), (20070311050000, -14400), (20071028050000, -18000),
       (20080316050000, -14400), (20081026050000, -18000), (20090308050000, -14400),
       (20091025050000, -18000), (20100314050000, -14400), (20101031050000, -18000),
       (20110320050000, -14400), (20111113050000, -18000), (20120401050000, -14400),
       (20121104050000, -18000)]
    rulesFrom := 2013
    rules := northAmerican 300 300 (-14400) (-18000) }

end Datebook.Zone.History
