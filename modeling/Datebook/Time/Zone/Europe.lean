import Datebook.Time.Zone.History

/-!
This module contains the histories of zones around the Mediterranean and in Europe.
-/

namespace Datebook.Zone.History

def berlin : History :=
  { initial := 3208
    listed :=
      [(18930331230632, 3600), (19160430220000, 7200), (19160930230000, 3600),
       (19170416010000, 7200), (19170917010000, 3600), (19180415010000, 7200),
       (19180916010000, 3600), (19400401010000, 7200), (19421102010000, 3600),
       (19430329010000, 7200), (19431004010000, 3600), (19440403010000, 7200),
       (19441002010000, 3600), (19450402010000, 7200), (19450524000000, 10800),
       (19450924000000, 7200), (19451118010000, 3600), (19460414010000, 7200),
       (19461007010000, 3600), (19470406020000, 7200), (19470511010000, 10800),
       (19470629000000, 7200), (19471005010000, 3600), (19480418010000, 7200),
       (19481003010000, 3600), (19490410010000, 7200), (19491002010000, 3600),
       (19800406010000, 7200), (19800928010000, 3600), (19810329010000, 7200),
       (19810927010000, 3600), (19820328010000, 7200), (19820926010000, 3600),
       (19830327010000, 7200), (19830925010000, 3600), (19840325010000, 7200),
       (19840930010000, 3600), (19850331010000, 7200), (19850929010000, 3600),
       (19860330010000, 7200), (19860928010000, 3600), (19870329010000, 7200),
       (19870927010000, 3600), (19880327010000, 7200), (19880925010000, 3600),
       (19890326010000, 7200), (19890924010000, 3600), (19900325010000, 7200),
       (19900930010000, 3600), (19910331010000, 7200), (19910929010000, 3600),
       (19920329010000, 7200), (19920927010000, 3600), (19930328010000, 7200),
       (19930926010000, 3600), (19940327010000, 7200), (19940925010000, 3600),
       (19950326010000, 7200), (19950924010000, 3600)]
    rulesFrom := 1996
    rules := lateSpring 60 60 7200 3600 }

def beirut : History :=
  { initial := 8520
    listed :=
      [(18791231213800, 7200), (19200327220000, 10800), (19201024210000, 7200),
       (19210402220000, 10800), (19211002210000, 7200), (19220325220000, 10800),
       (19221007210000, 7200), (19230421220000, 10800), (19230915210000, 7200),
       (19570430220000, 10800), (19570930210000, 7200), (19580430220000, 10800),
       (19580930210000, 7200), (19590430220000, 10800), (19590930210000, 7200),
       (19600430220000, 10800), (19600930210000, 7200), (19610430220000, 10800),
       (19610930210000, 7200), (19720621220000, 10800), (19720930210000, 7200),
       (19730430220000, 10800), (19730930210000, 7200), (19740430220000, 10800),
       (19740930210000, 7200), (19750430220000, 10800), (19750930210000, 7200),
       (19760430220000, 10800), (19760930210000, 7200), (19770430220000, 10800),
       (19770930210000, 7200), (19780429220000, 10800), (19780929210000, 7200),
       (19840430220000, 10800), (19841015210000, 7200), (19850430220000, 10800),
       (19851015210000, 7200), (19860430220000, 10800), (19861015210000, 7200),
       (19870430220000, 10800), (19871015210000, 7200), (19880531220000, 10800),
       (19881015210000, 7200), (19890509220000, 10800), (19891015210000, 7200),
       (19900430220000, 10800), (19901015210000, 7200), (19910430220000, 10800),
       (19911015210000, 7200), (19920430220000, 10800), (19921003210000, 7200),
       (19930327220000, 10800), (19930925210000, 7200), (19940326220000, 10800),
       (19940924210000, 7200), (19950325220000, 10800), (19950923210000, 7200),
       (19960330220000, 10800), (19960928210000, 7200), (19970329220000, 10800),
       (19970927210000, 7200), (19980328220000, 10800), (19980926210000, 7200)]
    rulesFrom := 1999
    rules := lateSpring (-120) (-180) 10800 7200 }

/--
The time of Egypt, which has had summer time again since 2023.
-/
def cairo : History :=
  { initial := 7509
    listed :=
      [(19000930215451, 7200), (19400714220000, 10800), (19400930210000, 7200),
       (19410414220000, 10800), (19410915210000, 7200), (19420331220000, 10800),
       (19421026210000, 7200), (19430331220000, 10800), (19431031210000, 7200),
       (19440331220000, 10800), (19441031210000, 7200), (19450415220000, 10800),
       (19451031210000, 7200), (19570509220000, 10800), (19570930210000, 7200),
       (19580430220000, 10800), (19580930210000, 7200), (19590430230000, 10800),
       (19590930000000, 7200), (19600430230000, 10800), (19600930000000, 7200),
       (19610430230000, 10800), (19610930000000, 7200), (19620430230000, 10800),
       (19620930000000, 7200), (19630430230000, 10800), (19630930000000, 7200),
       (19640430230000, 10800), (19640930000000, 7200), (19650430230000, 10800),
       (19650930000000, 7200), (19660430230000, 10800), (19661001000000, 7200),
       (19670430230000, 10800), (19671001000000, 7200), (19680430230000, 10800),
       (19681001000000, 7200), (19690430230000, 10800), (19691001000000, 7200),
       (19700430230000, 10800), (19701001000000, 7200), (19710430230000, 10800),
       (19711001000000, 7200), (19720430230000, 10800), (19721001000000, 7200),
       (19730430230000, 10800), (19731001000000, 7200), (19740430230000, 10800),
       (19741001000000, 7200), (19750430230000, 10800), (19751001000000, 7200),
       (19760430230000, 10800), (19761001000000, 7200), (19770430230000, 10800),
       (19771001000000, 7200), (19780430230000, 10800), (19781001000000, 7200),
       (19790430230000, 10800), (19791001000000, 7200), (19800430230000, 10800),
       (19801001000000, 7200), (19810430230000, 10800), (19811001000000, 7200),
       (19820724230000, 10800), (19821001000000, 7200), (19830711230000, 10800),
       (19831001000000, 7200), (19840430230000, 10800), (19841001000000, 7200),
       (19850430230000, 10800), (19851001000000, 7200), (19860430230000, 10800),
       (19861001000000, 7200), (19870430230000, 10800), (19871001000000, 7200),
       (19880430230000, 10800), (19881001000000, 7200), (19890505230000, 10800),
       (19891001000000, 7200), (19900430230000, 10800), (19901001000000, 7200),
       (19910430230000, 10800), (19911001000000, 7200), (19920430230000, 10800),
       (19921001000000, 7200), (19930430230000, 10800), (19931001000000, 7200),
       (19940430230000, 10800), (19941001000000, 7200), (19950427220000, 10800),
       (19950928210000, 7200), (19960425220000, 10800), (19960926210000, 7200),
       (19970424220000, 10800), (19970925210000, 7200), (19980423220000, 10800),
       (19980924210000, 7200), (19990429220000, 10800), (19990930210000, 7200),
       (20000427220000, 10800), (20000928210000, 7200), (20010426220000, 10800),
       (20010927210000, 7200), (20020425220000, 10800), (20020926210000, 7200),
       (20030424220000, 10800), (20030925210000, 7200), (20040429220000, 10800),
       (20040930210000, 7200), (20050428220000, 10800), (20050929210000, 7200),
       (20060427220000, 10800), (20060921210000, 7200), (20070426220000, 10800),
       (20070906210000, 7200), (20080424220000, 10800), (20080828210000, 7200),
       (20090423220000, 10800), (20090820210000, 7200), (20100429220000, 10800),
       (20100810210000, 7200), (20100909220000, 10800), (20100930210000, 7200),
       (20140515220000, 10800), (20140626210000, 7200), (20140731220000, 10800),
       (20140925210000, 7200)]
    rulesFrom := 2023
    rules := [⟨4, 5, 4, -120, 10800⟩, ⟨10, 5, 3, 1260, 7200⟩] }

end Datebook.Zone.History
