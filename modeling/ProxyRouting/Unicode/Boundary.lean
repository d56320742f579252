import ProxyRouting.Unicode.Letter
import ProxyRouting.Unicode.Property

/-!
# Classes of characters at boundaries of text

The values that decide where graphemes, words and sentences may be divided.  Those of graphemes and
words are tables; those of sentences follow from other properties and a few lists.
-/

namespace ProxyRouting.Unicode

/-- The grapheme class of every code point; `HS` stands for the composed syllables of Hangul. -/
def graphemeRuns : List Run := decodeRuns 2
  "CNa LF1 CN2 CR1 CN12 XX5f CN21 XXd CN1 XX252 EX70 XX113 EX7 XX107 EX2d XX1 EX1 XX1 EX2 XX1 EX2
  XX1 EX1 XX38 PP6 XXa EXb XX1 CN1 XX2e EX15 XX10 EX1 XX65 EX7 PP1 XX1 EX6 XX2 EX2 XX1 EX4 XX21
  PP1 XX1 EX1 XX1e EX1b XX5b EXb XX3a EX9 XX9 EX1 XX18 EX4 XX1 EX9 XX1 EX3 XX1 EX5 XX2b EX3 XX34
  PP2 XX5 EX9 XX2a EX18 PP1 EX20 SM1 XX36 EX1 SM1 EX1 XX1 SM3 EX8 SM4 EX1 SM2 XX1 EX7 XXa EX2 XX1d
  EX1 SM2 XX38 EX1 XX1 EX1 SM2 EX4 XX2 SM2 XX2 SM2 EX1 XX9 EX1 XXa EX2 XX1a EX1 XX2 EX2 SM1 XX38
  EX1 XX1 SM3 EX2 XX4 EX2 XX2 EX3 XX3 EX1 XX1e EX2 XX3 EX1 XXb EX2 SM1 XX38 EX1 XX1 SM3 EX5 XX1
  EX2 SM1 XX1 SM2 EX1 XX14 EX2 XX16 EX6 XX1 EX1 SM2 XX38 EX1 XX1 EX2 SM1 EX4 XX2 SM2 XX2 SM2 EX1
  XX7 EX3 XXa EX2 XX1e EX1 XX3b EX1 SM1 EX1 SM2 XX3 SM3 XX1 SM3 EX1 XX9 EX1 XX28 EX1 SM3 EX1 XX37
  EX1 XX1 EX3 SM4 XX1 EX3 XX1 EX4 XX7 EX2 XXb EX2 XX1d EX1 SM2 XX38 EX1 XX1 SM1 EX1 SM2 EX1 SM2
  XX1 EX1 SM2 XX1 SM2 EX2 XX7 EX2 XXb EX2 XXf SM1 XXc EX2 SM2 XX37 EX2 XX1 EX1 SM2 EX4 XX1 SM3 XX1
  SM3 EX1 PP1 XX8 EX1 XXa EX2 XX1d EX1 SM2 XX46 EX1 XX4 EX1 SM2 EX3 XX1 EX1 XX1 SM7 EX1 XX12 SM2
  XX3d EX1 XX1 SM1 EX7 XXc EX8 XX62 EX1 XX1 SM1 EX9 XXb EX7 XX49 EX2 XX1b EX1 XX1 EX1 XX1 EX1 XX4
  SM2 XX31 EXe SM1 EX5 XX1 EX2 XX5 EXb XX1 EX24 XX9 EX1 XX66 EX4 SM1 EX6 XX1 EX2 SM2 EX2 XX17 SM2
  EX2 XX4 EX3 XX10 EX4 XXd EX1 XX1 SM1 EX2 XX6 EX1 XXf EX1 XX62 L_60 V_48 T_58 XX15d EX3 XX3b2 EX3
  SM1 XX1c EX2 SM1 XX1d EX2 XX1e EX2 XX40 EX2 SM1 EX7 SM8 EX1 SM2 EXb XX9 EX1 XX2d EX3 CN1 EX1
  XX75 EX2 XX22 EX1 XX76 EX3 SM4 EX2 SM3 XX4 SM2 EX1 SM6 EX3 XXdb EX2 SM2 EX1 XX39 SM1 EX1 SM1 EX7
  XX1 EX1 XX1 EX1 XX2 EX8 SM6 EXa XX2 EX1 XX30 EX2e XX2 EXc XX14 EX4 SM1 XX2f EX7 SM1 EX1 SM5 EX1
  SM2 XX26 EX9 XXc EX2 SM1 XX1e SM1 EX4 SM2 EX2 SM1 EX3 XX38 EX1 SM1 EX2 SM3 EX1 SM1 EX3 SM2 XX30
  SM8 EX8 SM2 EX2 XX98 EX3 XX1 EXd SM1 EX7 XX4 EX1 XX6 EX1 XX2 SM1 EX2 XXc6 EX40 XX20b CN1 EX1 ZW1
  CN2 XX18 CN7 XX31 CN10 XX60 EX21 XXbfe EX3 XX8d EX1 XX60 EX20 XX22a EX6 XX69 EX2 XX75d4 EX4 XX1
  EXa XX20 EX2 XX50 EX2 XX110 EX1 XX3 EX1 XX4 EX1 XX17 SM2 EX2 SM1 XX4 EX1 XX53 SM2 XX32 SM10 EX2
  XX1a EX12 XXd EX1 XX26 EX8 XX19 EXb SM2 XXc L_1d XX3 EX3 SM1 XX2f EX1 SM2 EX4 SM2 EX2 SM3 XX24
  EX1 XX43 EX6 SM2 EX2 SM2 EX2 XXc EX1 XX8 EX1 SM1 XX2e EX1 XX33 EX1 XX1 EX3 XX2 EX2 XX5 EX2 XX1
  EX1 XX29 SM1 EX2 SM2 XX5 SM1 EX1 XXec SM2 EX1 SM2 EX1 SM2 XX1 SM1 EX1 XX12 HS2ba4 XXc V_17 XX4
  T_31 XX2322 EX1 XX2e1 EX10 XX10 EX10 XXcf CN1 XX9e EX2 XX50 CNc XX201 EX1 XXe2 EX1 XX95 EX5
  XX686 EX3 XX1 EX2 XX5 EX4 XX28 EX3 XX4 EX1 XXa5 EX2 XX23d EX4 XX41 EX5 XX13d EX2 XX4d EX6 XX46
  EXb XX31 EX4 XX7a SM1 EX1 SM1 XX35 EXf XX29 EX1 XX2 EX2 XXa EX3 SM1 XX2d SM3 EX4 SM2 EX2 XX2 PP1
  XX4 EX1 XXa PP1 XX32 EX3 XX24 EX5 SM1 EX8 XX10 SM2 XX2c EX1 XXc EX2 SM1 XX30 SM3 EX9 SM2 XX1 PP2
  XX5 EX4 XX1 SM1 EX1 XX5c SM3 EX3 SM2 EX1 SM1 EX2 XX6 EX1 XX2 EX1 XX9d EX1 SM3 EX8 XX15 EX2 SM2
  XX37 EX2 XX1 EX1 SM1 EX1 SM4 XX2 SM2 XX2 SM3 XX9 EX1 XXa SM2 XX2 EX7 XX3 EX5 XX43 SM3 EX6 XX1
  SM1 XX2 SM1 XX1 SM4 XX1 SM2 EX1 SM1 EX1 XX1 EX1 XXe EX2 XX52 SM3 EX8 SM2 EX3 SM1 EX1 XX17 EX1
  XX51 EX1 SM2 EX6 SM1 EX1 SM2 EX1 SM1 EX2 SM1 EX2 XXeb EX1 SM2 EX4 XX2 SM4 EX2 SM1 EX2 XX1b EX2
  XX52 SM3 EX8 SM2 EX1 SM1 EX2 XX6a EX1 SM1 EX1 SM2 EX6 SM1 EX1 XX65 EX3 XX2 EX4 SM1 EX5 XX100 SM3
  EX9 SM1 EX2 XXf5 EX1 SM5 XX1 SM2 XX2 EX2 SM1 EX1 PP1 SM1 PP1 SM1 EX1 XX8d SM3 EX4 XX2 EX2 SM4
  EX1 XX3 SM1 XX1c EXa XX28 EX6 SM1 PP1 EX4 XX8 EX1 XX9 EX6 SM2 EX3 XX28 PP6 EXd SM1 EX2 XXc6 EX1
  SM1 EX3 SM1 EX1 SM1 XXc7 SM1 EX7 XX1 EX6 SM1 EX1 XX52 EX16 XX1 SM1 EX7 SM1 EX2 SM1 EX2 XX7a EX6
  XX3 EX1 XX1 EX2 XX1 EX7 PP1 EX1 XX42 SM5 XX1 EX2 XX1 SM2 EX1 SM1 EX1 XX15b EX2 SM2 XX9 EX2 PP1
  SM1 XX30 SM2 EX5 XX3 SM2 EX1 SM1 EX1 XX17 EX1 XX14d5 CN10 EX1 XX6 EXf XX2cc8 EXc SM3 EX3 XX9c0
  EX5 XX3b EX7 XX418 EX1 XX1 SM37 XX7 EX4 XX51 EX1 XXb SM2 XX4cab EX2 XX1 CN4 XX125c EX2e XX2 EX17
  XX21e EX1 SM1 EX3 XX3 SM1 EX5 CN8 EX8 XX2 EX7 XX1e EX4 XX94 EX3 XX7bb EX37 XX4 EX32 XX8 EX1 XXe
  EX1 XX16 EX5 XX1 EXf XX550 EX7 XX1 EX11 XX2 EX7 XX1 EX2 XX1 EX5 XX64 EX1 XXa0 EX7 XX177 EX1 XX3d
  EX4 XX1fc EX4 XXfe EX2 XXf3 EX1 XX2 EX1 XX7 EX2 XX5 EX1 XX1da EX7 XX6d EX7 XX89b RI1a XX1fb EX5
  XXc0c00 CN20 EX60 CN80 EXf0 CNe10 XX2f000"

/-- The composed syllables without a final consonant: every twenty-eighth. -/
def openSyllables : CodeSet :=
  .ofCodes ((List.range 399).map fun k => 0xAC00 + 28 * k)

/-- The code points of a grapheme class. -/
def graphemeClass (name : String) : CodeSet :=
  if name == "LV" then openSyllables
  else if name == "LVT" then (CodeSet.ofRuns graphemeRuns ["HS"]).diff openSyllables
  else .ofRuns graphemeRuns [name]

/-- The word class of every code point. -/
def wordRuns : List Run := decodeRuns 2
  "XXa LF1 NL2 CR1 XX12 WS1 XX1 DQ1 XX4 SQ1 XX4 MN1 XX1 MB1 XX1 NUa ML1 MN1 XX5 LE1a XX4 EN1 XX1
  LE1a XXa NL1 XX24 LE1 XX2 FO1 XX7 LE1 XX1 ML1 XX2 LE1 XX5 LE17 XX1 LE1f XX1 LE1e0 XX6 LE22 EX70
  LE5 XX1 LE2 XX2 LE4 MN1 LE1 XX6 LE1 ML1 LE3 XX1 LE1 XX1 LE14 XX1 LE53 XX1 LE8b XX1 EX7 LEa6 XX1
  LE26 XX2 LE4 XX1 LE1 ML1 LE29 MN1 LE1 XX6 EX2d XX1 EX1 XX1 EX2 XX1 EX2 XX1 EX1 XX8 HL1b XX4 HL4
  LE1 ML1 XXb FO6 XX6 MN2 XX2 EXb XX1 FO1 XX3 LE2b EX15 NUa XX1 NU1 MN1 XX1 LE2 EX1 LE63 XX1 LE1
  EX7 FO1 XX1 EX6 LE2 EX2 XX1 EX4 LE2 NUa LE3 XX2 LE1 XXf FO1 LE1 EX1 LE1e EX1b XX2 LE59 EXb LE1
  XXe NUa LE21 EX9 LE2 XX2 MN1 XX1 LE1 XX2 EX1 XX2 LE16 EX4 LE1 EX9 LE1 EX3 LE1 EX5 XX12 LE19 EX3
  XX4 LEb XX5 LE18 XX1 LE7 FO2 XX5 EX9 LE2a EX18 FO1 EX21 LE36 EX3 LE1 EX12 LE1 EX7 LEa EX2 XX2
  NUa XX1 LE10 EX3 XX1 LE8 XX2 LE2 XX2 LE16 XX1 LE7 XX1 LE1 XX3 LE4 XX2 EX1 LE1 EX7 XX2 EX2 XX2
  EX3 LE1 XX8 EX1 XX4 LE2 XX1 LE3 EX2 XX2 NUa LE2 XXa LE1 XX1 EX1 XX2 EX3 XX1 LE6 XX4 LE2 XX2 LE16
  XX1 LE7 XX1 LE2 XX1 LE2 XX1 LE2 XX2 EX1 XX1 EX5 XX4 EX2 XX2 EX3 XX3 EX1 XX7 LE4 XX1 LE1 XX7 NUa
  EX2 LE3 EX1 XXb EX3 XX1 LE9 XX1 LE3 XX1 LE16 XX1 LE7 XX1 LE2 XX1 LE5 XX2 EX1 LE1 EX8 XX1 EX3 XX1
  EX3 XX2 LE1 XXf LE2 EX2 XX2 NUa XX9 LE1 EX6 XX1 EX3 XX1 LE8 XX2 LE2 XX2 LE16 XX1 LE7 XX1 LE2 XX1
  LE5 XX2 EX1 LE1 EX7 XX2 EX2 XX2 EX3 XX7 EX3 XX4 LE2 XX1 LE3 EX2 XX2 NUa XX1 LE1 XX10 EX1 LE1 XX1
  LE6 XX3 LE3 XX1 LE4 XX3 LE2 XX1 LE1 XX1 LE2 XX3 LE2 XX3 LE3 XX3 LEc XX4 EX5 XX3 EX3 XX1 EX4 XX2
  LE1 XX6 EX1 XXe NUa XX10 EX5 LE8 XX1 LE3 XX1 LE17 XX1 LE10 XX2 EX1 LE1 EX7 XX1 EX3 XX1 EX4 XX7
  EX2 XX1 LE3 XX1 LE2 XX2 LE2 EX2 XX2 NUa XX10 LE1 EX3 XX1 LE8 XX1 LE3 XX1 LE17 XX1 LEa XX1 LE5
  XX2 EX1 LE1 EX7 XX1 EX3 XX1 EX4 XX7 EX2 XX5 LE3 XX1 LE2 EX2 XX2 NUa XX1 LE2 EX1 XXc EX4 LE9 XX1
  LE3 XX1 LE29 EX2 LE1 EX7 XX1 EX3 XX1 EX4 LE1 XX5 LE3 EX1 XX7 LE3 EX2 XX2 NUa XXa LE6 XX1 EX3 XX1
  LE12 XX3 LE18 XX1 LE9 XX1 LE1 XX2 LE7 XX3 EX1 XX4 EX6 XX1 EX1 XX1 EX8 XX6 NUa XX2 EX2 XX3d EX1
  XX2 EX7 XXc EX8 XX1 NUa XX57 EX1 XX2 EX9 XXb EX7 XX1 NUa XX26 LE1 XX17 EX2 XX6 NUa XXb EX1 XX1
  EX1 XX1 EX1 XX4 EX2 LE8 XX1 LE24 XX4 EX14 XX1 EX2 LE5 EXb XX1 EX24 XX9 EX1 XX64 EX14 XX1 NUa XXc
  EX4 XX4 EX3 XX1 EX3 XX2 EX7 XX3 EX4 XXd EXc XX1 EX1 NUa EX4 XX2 LE26 XX1 LE1 XX5 LE1 XX2 LE2b
  XX1 LE14d XX1 LE4 XX2 LE7 XX1 LE1 XX1 LE4 XX2 LE29 XX1 LE4 XX2 LE21 XX1 LE4 XX2 LE7 XX1 LE1 XX1
  LE4 XX2 LEf XX1 LE39 XX1 LE4 XX2 LE43 XX2 EX3 XX20 LE10 XX10 LE56 XX2 LE6 XX3 LE26c XX2 LE11 WS1
  LE1a XX5 LE4b XX3 LEb XX7 LE12 EX4 XX9 LE13 EX3 XXb LE12 EX2 XXc LEd XX1 LE3 XX1 EX2 XX40 EX20
  XX9 EX1 XX2 NUa XX21 EX3 FO1 EX1 NUa XX6 LE59 XX7 LE5 EX2 LE22 EX1 LE1 XX5 LE46 XXa LE1f XX1 EXc
  XX4 EXc XXa NUa XX80 NUa XX26 LE17 EX5 XX39 EXa XX1 EX1d XX2 EX1 NUa XX6 NUa XX16 EX2e XX2 EXc
  XX14 EX5 LE2f EX11 LE8 XX3 NUa XX11 EX9 XXc EX3 LE1e EXd LE2 NUa LE2c EXe XXc LE24 EX14 XX8 NUa
  XX3 LE3 NUa LE24 XX2 LEb XX5 LE2b XX2 LE3 XX10 EX3 XX1 EX15 LE4 EX1 LE6 EX1 LE2 EX3 LE1 XX5 LEc0
  EX40 LE116 XX2 LE6 XX2 LE26 XX2 LE6 XX2 LE8 XX1 LE1 XX1 LE1 XX1 LE1 XX1 LE1f XX2 LE35 XX1 LE7
  XX1 LE1 XX3 LE3 XX1 LE7 XX3 LE4 XX2 LE6 XX4 LEd XX5 LE3 XX1 LE7 XX3 WS7 XX1 WS3 XX1 EX1 ZW1 FO2
  XX8 MB2 XXa MB1 XX2 ML1 NL2 FO5 EN1 XXf EN2 XX3 MN1 XXf EN1 XXa WS1 FO5 XX1 FOa XX1 LE1 XXd LE1
  XX10 LEd XX33 EX21 XX11 LE1 XX4 LE1 XX2 LEa XX1 LE1 XX3 LE5 XX6 LE1 XX1 LE1 XX1 LE1 XX1 LE4 XX1
  LEb XX2 LE4 XX5 LE5 XX4 LE1 XX11 LE29 XX32d LE34 XX716 LEe5 XX6 LE4 EX3 LE2 XXc LE26 XX1 LE1 XX5
  LE1 XX2 LE38 XX7 LE1 XXf EX1 LE17 XX9 LE7 XX1 LE7 XX1 LE7 XX1 LE7 XX1 LE7 XX1 LE7 XX1 LE7 XX1
  LE7 XX1 EX20 XX2f LE1 XX1d0 WS1 XX4 LE1 XX24 EX6 XX1 KA5 XX5 LE2 XX5c EX2 KA2 XX3 KA5b XX1 KA4
  XX5 LE2b XX1 LE5e XX11 LE20 XX30 KA10 XXd0 KA2f XX1 KA58 XX6ca8 LE48d XX43 LE2e XX2 LE10d XX3
  LE10 NUa LE2 XX14 LE2f EX4 XX1 EXa XX1 LE1f EX2 LE50 EX2 XX16 LEd5 XX14 LE11 EX1 LE3 EX1 LE4 EX1
  LE17 EX5 XX4 EX1 XX13 LE34 XXc EX2 LE32 EX12 XXa NUa XX6 EX12 LE6 XX3 LE1 XX1 LE2 EX1 NUa LE1c
  EX8 XX2 LE17 EXd XXc LE1d XX3 EX4 LE2f EXe XXe LE1 NUa XXb EX1 XXa NUa XX6 LE29 EXe XX9 LE3 EX1
  LE8 EX2 XX2 NUa XX21 EX3 XX32 EX1 XX1 EX3 XX2 EX2 XX5 EX2 XX1 EX1 XX1e LEb EX5 XX2 LE3 EX2 XXa
  LE6 XX2 LE6 XX2 LE6 XX9 LE7 XX1 LE7 XX1 LE3a XX6 LE73 EX8 XX1 EX2 XX2 NUa XX6 LE2ba4 XXc LE17
  XX4 LE31 XX2304 LE7 XXc LE5 XX5 HL1 EX1 HLa XX1 HLd XX1 HL5 XX1 HL1 XX1 HL2 XX1 HL2 XX1 HLa LE62
  XX21 LE16b XX12 LE40 XX2 LE36 XX28 LEc XX4 EX10 MN1 XX2 ML1 MN1 XXb EX10 XX3 EN2 XX18 EN3 MN1
  XX1 MB1 XX1 MN1 ML1 XX1a LE5 XX1 LE87 XX2 FO1 XX7 MB1 XX4 MN1 XX1 MB1 XX1 NUa ML1 MN1 XX5 LE1a
  XX4 EN1 XX1 LE1a XXb KA38 EX2 LE1f XX3 LE6 XX2 LE6 XX2 LE6 XX2 LE3 XX1c FO3 XX4 LEc XX1 LE1a XX1
  LE13 XX1 LE2 XX1 LEf XX2 LEe XX22 LE7b XX45 LE35 XX88 EX1 XX82 LE1d XX3 LE31 XXf EX1 XX1f LE20
  XXd LE1e XX5 LE26 EX5 XX5 LE1e XX2 LE24 XX4 LE8 XX1 LE5 XX2a LE9e XX2 NUa XX6 LE24 XX4 LE24 XX4
  LE28 XX8 LE34 XXc LEb XX1 LEf XX1 LE7 XX1 LE2 XX1 LEb XX1 LEf XX1 LE7 XX1 LE2 XX3 LE34 XXc LE137
  XX9 LE16 XXa LE8 XX18 LE6 XX1 LE2a XX1 LE9 XX45 LE6 XX2 LE1 XX1 LE2c XX1 LE2 XX3 LE1 XX2 LE17
  XXa LE17 XX9 LE1f XX41 LE13 XX1 LE2 XXa LE16 XXa LE1a XX6 LE1a XX26 LE38 XX6 LE2 XX40 LE1 EX3
  XX1 EX2 XX5 EX4 LE4 XX1 LE3 XX1 LE1d XX2 EX3 XX4 EX1 XX20 LE1d XX3 LE1d XX23 LE8 XX1 LE1c EX2
  XX19 LE36 XXa LE16 XXa LE13 XXd LE12 XX6e LE49 XX37 LE33 XXd LE33 XXd LE24 EX4 XX8 NUa XX6 NUa
  LE1c XX3 EX5 XX1 LE17 XXfa LE2a XX1 EX2 XX3 LE2 XX10 LE6 XX32 EX6 LE1d XXa LE1 XX8 LE16 EXb XX1f
  LE12 EX4 XX2a LE15 XX1b LE17 XX9 EX3 LE35 EXf XX1f NUa EX1 LE2 EX2 LE1 XX9 EX4 LE2d EXb XX2 FO1
  XX4 EX1 XXa FO1 XX2 LE19 XX7 NUa XX6 EX3 LE24 EXe XX1 NUa XX4 LE1 EX2 LE1 XX8 LE23 EX1 XX2 LE1
  XX9 EX3 LE30 EXe LE4 XX4 EX4 XX1 EX2 NUa LE1 XX1 LE1 XX23 LE12 XX1 LE19 EXc XX6 EX1 LE2 EX1 XX3e
  LE7 XX1 LE1 XX1 LE4 XX1 LEf XX1 LEa XX7 LE2f EXc XX5 NUa XX6 EX4 XX1 LE8 XX2 LE2 XX2 LE16 XX1
  LE7 XX1 LE2 XX1 LE5 XX1 EX2 LE1 EX7 XX2 EX2 XX2 EX3 XX2 LE1 XX6 EX1 XX5 LE5 EX2 XX2 EX7 XX3 EX5
  XXb LEa XX1 LE1 XX2 LE1 XX1 LE26 XX1 LE1 EX9 XX1 EX1 XX2 EX1 XX1 EX4 XX1 EX5 LE1 EX1 LE1 XXd EX2
  XX1d LE35 EX12 LE4 XX5 NUa XX4 EX1 LE3 XX1e LE30 EX14 LE2 XX1 LE1 XX8 NUa XXa6 LE2f EX7 XX2 EX9
  XX17 LE4 EX2 XX22 LE30 EX11 XX3 LE1 XXb NUa XX26 LE2b EXd LE1 XX7 NUa XX6 NU14 XX39 EXf XX4 NUa
  XXc6 LE2c EXf XX65 LE40 NUa XX15 LE8 XX2 LE1 XX2 LE8 XX1 LE2 XX1 LE18 EX6 XX1 EX2 XX2 EX4 LE1
  EX1 LE1 EX2 XXc NUa XX46 LE8 XX2 LE27 EX7 XX2 EX7 LE1 XX1 LE1 EX1 XX1b LE1 EXa LE28 EX7 LE1 EX4
  XX8 EX1 XX8 LE1 EXb LE2e EX10 XX3 LE1 XX12 LE49 XX67 EX8 XX58 LE21 XXf NUa XX6 LE9 XX1 LE25 EX8
  XX1 EX8 LE1 XXf NUa XX18 LE1e XX2 EX16 XX1 EXe XX49 LE7 XX1 LE2 XX1 LE26 EX6 XX3 EX1 XX1 EX2 XX1
  EX7 LE1 EX1 XX8 NUa XX6 LE6 XX1 LE2 XX1 LE20 EX5 XX1 EX2 XX1 EX5 LE1 XX7 NUa XX6 LE2c XX4 NUa
  XXf6 LE13 EX4 XX9 EX2 LE1 EX1 LEd XX1 LE22 EX7 XX3 EX5 XXd NUa EX1 XX55 LE1 XX4f LE39a XX66 LE6f
  XX11 LEc4 XXa4c LE61 XXf LE430 FO10 EX1 LE6 EXf XXa LEf9b XX5 LE247 XX1ab9 LE1e EX12 NUa XX6c6
  LE239 XX7 LE1f XX1 NUa XX6 LE4f XX1 NUa XX6 LE1e XX2 EX5 XXb LE30 EX7 XX9 LE4 XXc NUa XX9 LE15
  XX5 LE13 XX1b0 LE2d XX3 NUa XXc6 LE40 XX20 LE19 XX2 LE19 XX2c LE4b XX4 EX1 LE1 EX37 XX7 EX4 LEd
  XX40 LE2 XX1 LE1 EX1 XXb EX2 XX3ffe KA4 XX1 KA7 XX1 KA2 XX1 KA1 XX11f KA3 XX32 KA1 XXe KA4 XXa98
  LE6b XX5 LEd XX3 LE9 XX7 LEa XX3 EX2 XX1 FO4 XX104c NUa XX206 EX2e XX2 EX17 XX21e EX5 XX3 EX6
  FO8 EX8 XX2 EX7 XX1e EX4 XX94 EX3 XX1bb LE55 XX1 LE47 XX1 LE2 XX2 LE1 XX2 LE2 XX2 LE4 XX1 LEc
  XX1 LE1 XX1 LE7 XX1 LE41 XX1 LE4 XX2 LE8 XX1 LE7 XX1 LE1c XX1 LE4 XX1 LE5 XX1 LE1 XX3 LE7 XX1
  LE154 XX2 LE19 XX1 LE19 XX1 LE1f XX1 LE19 XX1 LE1f XX1 LE19 XX1 LE1f XX1 LE19 XX1 LE1f XX1 LE19
  XX1 LE8 XX2 NU32 XX200 EX37 XX4 EX32 XX8 EX1 XXe EX1 XX16 EX5 XX1 EXf XX450 LE1f XX6 LE6 XXd5
  EX7 XX1 EX11 XX2 EX7 XX1 EX2 XX1 EX5 XX5 LE3e XX21 EX1 XX70 LE2d XX3 EX7 LE7 XX2 NUa XX4 LE1
  XX141 LE1e EX1 XX11 LE2c EX4 NUa XX1d6 LE1c EX4 NUa XXd6 LE1e EX2 LE1 NUa XXc5 LE1f XX1 LE3 EX1
  LE2 EX1 LE7 EX2 LE5 EX1 XX8 LE2 XXe0 LE7 XX1 LE4 XX1 LE2 XX1 LEf XX1 LEc5 XXb EX7 XX29 LE44 EX7
  LE1 XX4 NUa XX4a6 LE4 XX1 LE1b XX1 LE2 XX1 LE1 XX2 LE1 XX1 LEa XX1 LE4 XX1 LE1 XX1 LE1 XX6 LE1
  XX4 LE1 XX1 LE1 XX1 LE1 XX1 LE3 XX1 LE2 XX1 LE1 XX2 LE1 XX1 LE1 XX1 LE1 XX1 LE1 XX1 LE1 XX1 LE2
  XX1 LE1 XX2 LE4 XX1 LE7 XX1 LE4 XX1 LE4 XX1 LE1 XX1 LEa XX1 LE11 XX5 LE3 XX1 LE5 XX1 LE11 XX274
  LE1a XX6 LE1a XX6 LE1a XX5c RI1a XX1fb EX5 XX7f0 NUa XXc0407 FO1 XX1e EX60 XX80 EXf0 XX2fe10"

/-- The code points of a word class. -/
def wordClass (name : String) : CodeSet :=
  .ofRuns wordRuns [name]

def sentenceExtend : CodeSet :=
  .unions [graphemeExtend, category ["Mc"], .ofCodes [0x200D]]

/-- Lower-case letters that a sentence may go on with; modern Georgian has no case. -/
def sentenceLower : CodeSet :=
  lowercase.diff (sentenceExtend.union (.ofRanges [(0x10D0, 0x10FA), (0x10FD, 0x10FF)]))

def sentenceUpper : CodeSet :=
  (uppercase.union (category ["Lt"])).diff (.ofRanges [(0x1C90, 0x1CBA), (0x1CBD, 0x1CBF)])

def sentenceLetter : CodeSet :=
  (alphabetic.union (.ofCodes [0x5F3])).diff
    (.unions [sentenceLower, sentenceUpper, sentenceExtend])

/-- Full stops that may also stand inside a word. -/
def sentenceStop : CodeSet := .ofCodes [0x2E, 0x2024, 0xFE52, 0xFF0E]

/-- The code points of a sentence class. -/
def sentenceClass (name : String) : CodeSet :=
  match name with
  | "AT" => sentenceStop
  | "CL" =>
    (category ["Ps", "Pe", "Pi", "Pf"]).union (.ofRanges [(0x22, 0x22), (0x27, 0x27),
      (0x275B, 0x2760), (0x2E00, 0x2E01), (0x2E06, 0x2E08), (0x2E0B, 0x2E0B), (0x1F676, 0x1F678)])
  | "CR" => .ofCodes [0xD]
  | "LF" => .ofCodes [0xA]
  | "SE" => .ofRanges [(0x85, 0x85), (0x2028, 0x2029)]
  | "SP" => .ofRanges [(0x9, 0x9), (0xB, 0xC), (0x20, 0x20), (0xA0, 0xA0), (0x1680, 0x1680),
      (0x2000, 0x200A), (0x202F, 0x202F), (0x205F, 0x205F), (0x3000, 0x3000)]
  | "EX" => sentenceExtend
  | "FO" => (category ["Cf"]).diff (.ofRanges [(0x200C, 0x200D), (0xE0020, 0xE007F)])
  | "LO" => sentenceLower
  | "UP" => sentenceUpper
  | "LE" => sentenceLetter
  | "NU" => decimalDigits.union (.ofRanges [(0x66B, 0x66C)])
  | "SC" => .ofRanges [(0x2C, 0x2D), (0x3A, 0x3A), (0x55D, 0x55D), (0x60C, 0x60D), (0x7F8, 0x7F8),
      (0x1802, 0x1802), (0x1808, 0x1808), (0x2013, 0x2014), (0x3001, 0x3001), (0xFE10, 0xFE11),
      (0xFE13, 0xFE13), (0xFE31, 0xFE32), (0xFE50, 0xFE51), (0xFE55, 0xFE55), (0xFE58, 0xFE58),
      (0xFE63, 0xFE63), (0xFF0C, 0xFF0D), (0xFF1A, 0xFF1A), (0xFF64, 0xFF64)]
  | "ST" => sentenceTerminal.diff sentenceStop
  | _ => .empty

end ProxyRouting.Unicode
