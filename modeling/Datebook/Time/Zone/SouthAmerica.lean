import Datebook.Time.Zone.History

/-!
This module contains the histories of zones in South America.
-/

namespace Datebook.Zone.History

def buenosAires : History :=
  { initial := -14028
    listed :=
      [(18941031035348, -15408), (19200501041648, -14400), (19301201040000, -10800),
       (19310401030000, -14400), (19311015040000, -10800), (19320301030000, -14400),
       (19321101040000, -10800), (19330301030000, -14400), (19331101040000, -10800),
       (19340301030000, -14400), (19341101040000, -10800), (19350301030000, -14400),
       (19351101040000, -10800), (19360301030000, -14400), (19361101040000, -10800),
       (19370301030000, -14400), (19371101040000, -10800), (19380301030000, -14400),
       (19381101040000, -10800), (19390301030000, -14400), (19391101040000, -10800),
       (19400301030000, -14400), (19400701040000, -10800), (19410615030000, -14400),
       (19411015040000, -10800), (19430801030000, -14400), (19431015040000, -10800),
       (19460301030000, -14400), (19461001040000, -10800), (19631001030000, -14400),
       (19631215040000, -10800), (19640301030000, -14400), (19641015040000, -10800),
       (19650301030000, -14400), (19651015040000, -10800), (19660301030000, -14400),
       (19661015040000, -10800), (19670402030000, -14400), (19671001040000, -10800),
       (19680407030000, -14400), (19681006040000, -10800), (19690406030000, -14400),
       (19691005040000, -10800), (19740123030000, -7200), (19740501020000, -10800),
       (19881201030000, -7200), (19890305020000, -10800), (19891015030000, -7200),
       (19900304020000, -10800), (19901021030000, -7200), (19910303020000, -10800),
       (19911020030000, -7200), (19920301020000, -10800), (19921018030000, -7200),
       (19930307020000, -10800), (20071230030000, -7200), (20080316020000, -10800),
       (20081019030000, -7200), (20090315020000, -10800)] }

/--
The time of eastern Brazil, which gave up summer time in 2019.
-/
def saoPaulo : History :=
  { initial := -11188
    listed :=
      [(19140101030628, -10800), (19311003140000, -7200), (19320401020000, -10800),
       (19321003030000, -7200), (19330401020000, -10800), (19491201030000, -7200),
       (19500416030000, -10800), (19501201030000, -7200), (19510401020000, -10800),
       (19511201030000, -7200), (19520401020000, -10800), (19521201030000, -7200),
       (19530301020000, -10800), (19631023030000, -7200), (19640301020000, -10800),
       (19650131030000, -7200), (19650331020000, -10800), (19651201030000, -7200),
       (19660301020000, -10800), (19661101030000, -7200), (19670301020000, -10800),
       (19671101030000, -7200), (19680301020000, -10800), (19851102030000, -7200),
       (19860315020000, -10800), (19861025030000, -7200), (19870214020000, -10800),
       (19871025030000, -7200), (19880207020000, -10800), (19881016030000, -7200),
       (19890129020000, -10800), (19891015030000, -7200), (19900211020000, -10800),
       (19901021030000, -7200), (19910217020000, -10800), (19911020030000, -7200),
       (19920209020000, -10800), (19921025030000, -7200), (19930131020000, -10800),
       (19931017030000, -7200), (19940220020000, -10800), (19941016030000, -7200),
       (19950219020000, -10800), (19951015030000, -7200), (19960211020000, -10800),
       (19961006030000, -7200), (19970216020000, -10800), (19971006030000, -7200),
       (19980301020000, -10800), (19981011030000, -7200), (19990221020000, -10800),
       (19991003030000, -7200), (20000227020000, -10800), (20001008030000, -7200),
       (20010218020000, -10800), (20011014030000, -7200), (20020217020000, -10800),
       (20021103030000, -7200), (20030216020000, -10800), (20031019030000, -7200),
       (20040215020000, -10800), (20041102030000, -7200), (20050220020000, -10800),
       (20051016030000, -7200), (20060219020000, -10800), (20061105030000, -7200),
       (20070225020000, -10800), (20071014030000, -7200), (20080217020000, -10800),
       (20081019030000, -7200), (20090215020000, -10800), (20091018030000, -7200),
       (20100221020000, -10800), (20101017030000, -7200), (20110220020000, -10800),
       (20111016030000, -7200), (20120226020000, -10800), (20121021030000, -7200),
       (20130217020000, -10800), (20131020030000, -7200), (20140216020000, -10800),
       (20141019030000, -7200), (20150222020000, -10800), (20151018030000, -7200),
       (20160221020000, -10800), (20161016030000, -7200), (20170219020000, -10800),
       (20171015030000, -7200), (20180218020000, -10800), (20181104030000, -7200),
       (20190217020000, -10800)] }

end Datebook.Zone.History
