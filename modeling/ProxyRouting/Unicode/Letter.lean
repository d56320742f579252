import ProxyRouting.Unicode.Category

/-!
# Letters and their case

The properties that say which characters are letters and which have case.  Each is a category, or a
few of them, and a short table of what the categories miss.
-/

namespace ProxyRouting.Unicode

/-- Alphabetic characters that are neither letters nor letter numbers. -/
def alphabeticMarks : CodeSet := .decode
  "345 0 1d c 240 d 1 0 1 1 1 1 1 0 48 a 30 c 1 6 10 0 65 6 4 3 2 1 4 0 23 0 1e f 66 a 65 1 3 8 1
  2 1 3 6a 0 3c b 3 6 6 13 36 1 2 e 1 1 5 2 a 1 1d 2 3a 6 2 1 2 1 a 0 a 1 1d 2 3a 4 4 1 2 1 4 0 1e
  1 3 0 b 2 3a 7 1 2 1 1 15 1 16 2 4 2 3a 6 2 1 2 1 9 1 a 1 1e 0 3b 4 3 2 1 2 a 0 28 4 39 6 1 2 1
  2 8 1 b 1 1d 2 3a 6 1 2 1 2 8 1 b 1 f 0 c 3 3a 6 1 2 1 2 a 0 a 1 1d 2 4b 5 1 0 1 7 12 1 3d 0 2 6
  12 0 63 0 2 5 1 1 10 0 a3 12 9 a 1 23 6e b 1 0 2 3 17 3 4 2 1 2 2 6 3 3 d b 1 0 a 3 674 1 1e 1
  1e 1 1e 1 42 12 bc 1 22 0 76 b 4 8 de 4 39 9 2 13 4a 1 b 2 31 4 30 e 3c 2 1e 8 2 1 39 a 32 12
  19c 21 6c1 33 8f6 1f 7874 7 22 1 162 0 8 0 17 4 58 1 32 f 1 0 39 0 26 4 1c b 2d 3 30 b 25 0 43 d
  c 0 8 1 2d 2 32 0 1 2 2 1 5 0 2c 4 5 0 ed 7 4f33 0 857 4 686 2 1 1 5 3 314 3 41 0 141 1 4d 2 103
  2 35 d 2d 1 b 2 2d 8 9 0 3d 2 24 b 12 1 39 2 30 c e 1 5c 8 2 0 6 0 2 0 9d 9 17 3 3a 6 2 1 2 1 a
  0 a 1 54 8 1 0 2 0 1 3 1 1 67 c 1 2 6a 11 ed 6 2 6 1d 1 52 e 1 0 6a a 67 d 101 c f7 5 1 1 2 1 3
  0 1 0 8e 6 2 5 4 0 1c 9 2a 4 1 3 12 a 2e d c8 7 c7 7 1 6 53 15 1 d 7a 5 3 0 1 1 1 2 1 0 3 0 42 4
  1 1 1 3 15c 3 9 1 1 0 30 6 3 2 41dd 10 e20 0 1 36 7 3 5d 1 4cac 0 2361 6 1 10 2 6 1 1 1 4 64 0
  653 0 2 0 7 1 5 0 251 0 7e8 19 6 19 6 19"

/-- Letters, letter numbers and the marks and symbols that are used as letters. -/
def alphabetic : CodeSet :=
  .unions [letters, letterNumbers, alphabeticMarks]

/-- Lower-case characters of other categories than `Ll`. -/
def lowercaseSymbols : CodeSet := .decode
  "aa 0 f 0 1f5 8 7 1 1e 4 60 0 34 0 d81 0 c2f 3e d 0 22 24 2b1 0 d 0 10 c d3 f 350 19 792 1 7a1e
  1 d2 0 80 3 3 1 362 3 9 0 5c16 0 2 2 1 29 1 8 d875 3d"

/-- Lower-case letters, and what is written like one. -/
def lowercase : CodeSet :=
  (category ["Ll"]).union lowercaseSymbols

/-- Upper-case characters of other categories than `Lu`. -/
def uppercaseSymbols : CodeSet := .decode
  "2160 f 346 19 1cc60 19 6 19 6 19"

/-- Upper-case letters, and what is written like one. -/
def uppercase : CodeSet :=
  (category ["Lu"]).union uppercaseSymbols

/-- Characters that have a case. -/
def cased : CodeSet :=
  .unions [lowercase, uppercase, category ["Lt"]]

/-- Punctuation that does not end a word for the purpose of case. -/
def caseIgnorablePunctuation : CodeSet := .decode
  "27 0 6 0 b 0 7c 0 2cf 0 1d7 0 94 0 1a23 1 a 0 2 0 ddeb 0 3e 0 2 0 b1 0 6 0 b 0"

/-- Characters that are passed over when the context of a letter is looked at. -/
def caseIgnorable : CodeSet :=
  (category ["Mn", "Me", "Cf", "Lm", "Sk"]).union caseIgnorablePunctuation

/-- Upper-case characters that have no lower-case form. -/
def capitalsWithoutLower : CodeSet := .decode
  "3d2 2 1d2d 0 4 0 3 2 2 2 2 0 3 4 6 0 3 0 3 1 2 1 1 0 a 1 5 0 1b2ba 19 1a 19 1a 19 1a 0 1 1 2 0
  2 1 2 3 1 7 1a 19 1a 1 1 3 2 7 1 6 1b 1 1 3 1 4 1 0 3 6 1b 19 1a 19 1a 19 1a 19 1a 19 1a 19 1e
  18 21 18 21 18 21 18 21 18 21 0 1965 19 6 19 6 19"

/-- Characters whose lower-case form differs from them. -/
def changesWhenLowercased : CodeSet :=
  (uppercase.union (category ["Lt"])).diff capitalsWithoutLower

/-- Characters other than lower-case ones that have an upper-case form. -/
def uppercasedOthers : CodeSet := .decode
  "1c5 0 2 0 2 0 26 0 1d95 7 8 7 8 7 c 0 f 0 2f 0"

/-- Lower-case characters that have no upper-case form. -/
def smallsWithoutUpper : CodeSet := .decode
  "aa 0 f 0 7d 0 54 0 1c 1 e 0 3 0 62 0 12 5 1b 0 2 0 1 0 2 2 2 0 4 0 5 1 1 0 2 1 1 6 1 1 1 0 2 2
  6 4 1 0 2 6 2 19 7 1 1e 4 95 0 81 0 163 0 27 0 b73 0 c03 78 1 2 1 f 1 30 dc 1 1 0 1d1 0 d 0 10 c
  6d 0 3 1 3 0 1b 0 4 0 4 0 2 1 8 3 b27 0 2 0 2 6 66 0 79b7 1 92 1 3e 8 15 0 6 0 19 0 41 3 3 2 335
  22 1 6 1 d 5c16 0 2 2 1 29 1 8 cc5f 19 1a 6 1 11 1a 19 1a 3 1 0 1 6 1 a 1a 19 1a 19 1a 19 1a 19
  1a 19 1a 19 1a 19 1a 19 1a 1b 1c 18 1 5 1a 18 1 5 1a 18 1 5 1a 18 1 5 1a 18 1 5 1 0 734 9 1 13 6
  5 105 3d"

/-- Characters whose upper-case form differs from them. -/
def changesWhenUppercased : CodeSet :=
  (lowercase.union uppercasedOthers).diff smallsWithoutUpper

/-- Characters that only the title-case form changes. -/
def titlecasedOthers : CodeSet := .decode
  "1c4 0 2 0 2 0 26 0"

/-- Characters that the upper-case form changes and the title-case form does not. -/
def uppercasedNotTitlecased : CodeSet := .decode
  "1c5 0 2 0 2 0 26 0 edd 2a 2 2 e88 7 8 7 8 7 c 0 f 0 2f 0"

/-- Characters whose title-case form differs from them. -/
def changesWhenTitlecased : CodeSet :=
  (changesWhenUppercased.union titlecasedOthers).diff uppercasedNotTitlecased

/-- Characters that folding changes and lower case does not. -/
def foldedOthers : CodeSet := .decode
  "b5 0 29 0 69 0 35 0 1c5 0 7c 0 d 1 3 1 19 1 3 0 191 0 e70 5 882 8 211 1 e4 7 8 7 8 7 a 2 2 0 a
  2 2 0 2a 2 2 0 8b78 4f 4f40 6 c 4"

/-- Characters that lower case changes and folding does not. -/
def lowercasedNotFolded : CodeSet := .decode
  "13a0 55"

/-- Characters that case folding changes. -/
def changesWhenCasefolded : CodeSet :=
  (changesWhenLowercased.union foldedOthers).diff lowercasedNotFolded

/-- Characters that some change of case changes. -/
def changesWhenCasemapped : CodeSet :=
  .unions [changesWhenLowercased, changesWhenUppercased, changesWhenTitlecased]

end ProxyRouting.Unicode
