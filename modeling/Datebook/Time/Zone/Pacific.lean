import Datebook.Time.Zone.History

/-!
This module contains the histories of zones in Asia and the Pacific.
-/

namespace Datebook.Zone.History

def kolkata : History :=
  { initial := 21208
    listed :=
      [(18540627180632, 21200), (18691231180640, 19270), (19051231183850, 19800),
       (19410930183000, 23400), (19420514173000, 19800), (19420831183000, 23400),
       (19451014173000, 19800)] }

def kathmandu : History :=
  { initial := 20476
    listed :=
      [(19191231181844, 19800), (19851231183000, 20700)] }

def tokyo : History :=
  { initial := 33539
    listed :=
      [(18871231150000, 32400), (19480501150000, 36000), (19480911150000, 32400),
       (19490402150000, 36000), (19490910150000, 32400), (19500506150000, 36000),
       (19500909150000, 32400), (19510505150000, 36000), (19510908150000, 32400)] }

/--
The time of Lord Howe Island, whose summer time is half an hour ahead.
-/
def lordHowe : History :=
  { initial := 38180
    listed :=
      [(18950131132340, 36000), (19810228140000, 37800), (19811024153000, 41400),
       (19820306143000, 37800), (19821030153000, 41400), (19830305143000, 37800),
       (19831029153000, 41400), (19840303143000, 37800), (19841027153000, 41400),
       (19850302143000, 37800), (19851026153000, 39600), (19860315150000, 37800),
       (19861018153000, 39600), (19870314150000, 37800), (19871024153000, 39600),
       (19880319150000, 37800), (19881029153000, 39600), (19890318150000, 37800),
       (19891028153000, 39600), (19900303150000, 37800), (19901027153000, 39600),
       (19910302150000, 37800), (19911026153000, 39600), (19920229150000, 37800),
       (19921024153000, 39600), (19930306150000, 37800), (19931030153000, 39600),
       (19940305150000, 37800), (19941029153000, 39600), (19950304150000, 37800),
       (19951028153000, 39600), (19960330150000, 37800), (19961026153000, 39600),
       (19970329150000, 37800), (19971025153000, 39600), (19980328150000, 37800),
       (19981024153000, 39600), (19990327150000, 37800), (19991030153000, 39600),
       (20000325150000, 37800), (20000826153000, 39600), (20010324150000, 37800),
       (20011027153000, 39600), (20020330150000, 37800), (20021026153000, 39600),
       (20030329150000, 37800), (20031025153000, 39600), (20040327150000, 37800),
       (20041030153000, 39600), (20050326150000, 37800), (20051029153000, 39600),
       (20060401150000, 37800), (20061028153000, 39600), (20070324150000, 37800),
       (20071027153000, 39600)]
    rulesFrom := 2008
    rules := [⟨4, 1, 6, -540, 37800⟩, ⟨10, 1, 6, -510, 39600⟩] }

/--
The time of Samoa, which moved across the date line at the end of 2011.
-/
def apia : History :=
  { initial := 45184
    listed :=
      [(18920704112656, -41216), (19110101112656, -41400), (19500101113000, -39600),
       (20100926110000, -36000), (20110402140000, -39600), (20110924140000, -36000),
       (20111230100000, 50400), (20120331140000, 46800), (20120929140000, 50400),
       (20130406140000, 46800), (20130928140000, 50400), (20140405140000, 46800),
       (20140927140000, 50400), (20150404140000, 46800), (20150926140000, 50400),
       (20160402140000, 46800), (20160924140000, 50400), (20170401140000, 46800),
       (20170923140000, 50400), (20180331140000, 46800), (20180929140000, 50400),
       (20190406140000, 46800), (20190928140000, 50400), (20200404140000, 46800),
       (20200926140000, 50400), (20210403140000, 46800)] }

/--
The time of the Line Islands, which moved across the date line at the end of 1994.
-/
def kiritimati : History :=
  { initial := -37760
    listed :=
      [(19010101102920, -38400), (19791001104000, -36000), (19941231100000, 50400)] }

end Datebook.Zone.History
