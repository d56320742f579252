import ProxyRouting.Unicode.Category

/-!
# Other properties of characters

Yes-or-no properties, each as the set of the code points that have it.
-/

namespace ProxyRouting.Unicode

/-- White space. -/
def whiteSpace : CodeSet := .decode
  "9 4 12 0 64 0 1a 0 15df 0 97f a 1d 1 5 0 2f 0 fa0 0"

/-- Controls of writing direction. -/
def bidiControl : CodeSet := .decode
  "61c 0 19f1 1 1a 4 37 3"

/-- Characters that are shown turned round in right-to-left text. -/
def bidiMirrored : CodeSet := .decode
  "28 1 12 0 1 0 1c 0 1 0 1d 0 1 0 2d 0 f 0 e7e 3 75d 1 99c 1 a 1 36 1 e 1 b1 0 c0 3 3 5 3 0 3 1 3
  3 1 3 1 0 1 0 4 8 5 0 1 11 5 3 9 1 1 0 1 7 1 1f 2 3 5 0 9 1 2 12 5 1 9 4 2 1 4 17 2 f 8 3 14 1 7
  1 43d d 4a 0 2 3 1 1 1 2 5 3 5 2 3 d 193 15 2 5 1 d 8 0 7 5 3 0 4 4 1 1 2 4 4 0 1 2 2 1 a 5 2 1
  c 12 1 3 2 0 1 0 2 0 1 3 5 1 6 2 18 1 b 1 4 3 1 1 2 1 4 2a 2 7 1 27 5 0 1 0 3 4 5 2 4 0 3 4 1 0
  100 0 203 3 3 1 1 1 e 1 2 9 2b 7 1ab 9 2 7 ce3d 5 5 1 a2 1 12 0 1 0 1c 0 1 0 1d 0 1 0 1 1 1 1
  d777 0 39 0 39 0 39 0 39 0"

/-- Dashes. -/
def dash : CodeSet := .decode
  "2d 0 55c 0 33 0 e41 0 405 0 809 5 3d 0 27 0 f 0 186 0 c04 0 2 0 1f 1 4 0 1c 0 1be 0 13 0 6f 0
  cd90 1 25 0 a 0 a9 0 e60 0 13e 0"

/-- Characters that are not shown where they are not supported. -/
def defaultIgnorable : CodeSet := .decode
  "ad 0 2a1 0 2cc 0 b42 1 653 1 55 4 7fb 4 1a 4 31 f 10f4 0 cc9b f ef 0 a0 0 4f 8 bca7 3 14cf 7
  c2e85 fff"

/-- Characters whose use is discouraged. -/
def deprecated : CodeSet := .decode
  "149 0 529 0 903 0 1 0 829 1 8c5 5 2b9 1 ddcd6 0"

/-- Characters that modify the meaning of another. -/
def diacritic : CodeSet := .decode
  "5e 0 1 0 47 0 6 0 4 0 2 1 1f7 9e 1 7 5 5 11 1 4 0 9 1 fd 4 d1 0 37 2c 1 0 1 1 1 1 1 0 83 7 4 1
  86 1 4 1 3 2 43 1a 5b a 3a a 22 1 7e 7 29 9 10 1b 3d 0 10 0 3 3 1c 0 4a 0 10 0 6e 0 10 0 6e 0 10
  0 2f 2 3c 0 10 0 7 0 77 0 6e 0 10 0 6e 0 10 0 6d 1 10 0 7c 0 6f 0 c 5 1 0 6b 0 d 4 4b 1 1b 0 1 0
  1 0 4 1 42 2 1 1 3e 0 70 0 1 1 28 1 4 4 19 6 1 0 a 1 2c1 2 3b4 1 1e 0 94 a 9 0 15b 2 124 0 14 7
  2 0 30 e 2 a 3 e 2 b 48 0 f 0 26 8 36 1 3a 0 b 1 42 1 40 5 52 18 4 0 6 0 2 2 32 3e 30 23 5 b 25
  a 1bd 0 1 2 b 2 d 2 d 2 d 1 cf0 2 13d 0 1fa 5 69 3 5f 0 7572 0 c 1 1 0 1c 1 52 1 e 21 66 2 66 0
  6 1 c 0 25 0 97 0 1b 11 39 3 24 0 5f 0 c 0 24 0 95 2 41 3 33 0 64 4 9 2 80 1 4f30 0 301 f 10e 0
  1 0 2f 0 2d 1 43 0 2fc 0 49f 5 1 29 1 8 27d 2 4 0 a5 1 23b 5 26 0 1a 4 18c 0 2 2 46 a 31 3 c0 0
  29 0 48 1 78 1 3e 0 4c 0 9 2 68 1 b2 1 50 1 10 0 18 6 3 4 59 2 1 1 d 1 5f 0 3 0 7b 1 fb 1 7e 0
  76 1 73 0 10d 1 102 1 4 0 9c 0 53 0 12 0 51 0 1a5 0 102 0 1 1 51 0 41 0 167 1 17 0 14ec e 2cd9 0
  9c0 4 3b 6 234 1 222 10 50 1 3ffe 3 1 6 1 1 1f01 2d 2 16 220 2 3 5 8 7 2 6 1e 3 e82 3d c2 6 177
  0 3d 3 2fe 1 2e0 6 6d 2 1 2"

/-- Emoji. -/
def emoji : CodeSet := .decode
  "23 0 6 0 5 9 6f 0 4 0 1f8d 0 c 0 d8 0 16 0 5a 5 f 1 16f 1 c 0 a6 0 19 a 4 2 c7 0 e7 1 a 0 9 0
  3a 3 1 4 9 0 2 0 2 1 2 0 4 0 2 0 1 1 2 0 3 0 3 1 8 2 5 0 1 0 5 b b 1 2 0 1 1 1 0 12 0 2 1 12 5 1
  0 1 1 3 1 5 0 2 1 4 1 b 1 5 1 2 0 5 1 1 0 1 1 14 1 5 5 1 3 2 0 4 0 2 0 2 5 1 0 2 0 1 0 1 0 6 0 3
  0 6 0 a 1 f 0 2 0 4 0 1 0 4 2 1 0 b 1 30 2 9 0 e 0 e 0 174 1 1cf 2 13 1 33 0 4 0 4da 0 c 0 259 0
  1 0 1bd6a 0 ca 0 a0 1 c 1 e 0 2 9 4b 19 1 1 17 0 14 0 2 8 15 1 ae 21 2 6f 2 1 1 2 2 52 2 2 1 106
  1 3e b 5 1 17 7 1 2 7 c 0 2 3 2 0 4 1 d 1 2 0 8 1 9 0 5 2 c 2 8 2 2 0 1 0 4 0 6 0 3 0 6 55 30 45
  5 7 2 3 3 9 3 0 1 1 3 0 2 9 e3 b 4 0 11b 2e 1 9 1 b8 70 c 3 a 3 38 1 0 4 f 2 b 4 9"

/-- Characters used in emoji sequences. -/
def emojiComponent : CodeSet := .decode
  "23 0 6 0 5 9 1fd3 0 d5 0 dd2b 0 f3d6 19 1fb 4 5b0 3 c066c 5f"

/-- Modifiers of skin tone. -/
def emojiModifier : CodeSet := .decode
  "1f3fb 4"

/-- Emoji that take a modifier. -/
def emojiModifierBase : CodeSet := .decode
  "261d 0 db 0 10 3 1cc77 0 3c 2 2 0 2 2 75 1 2 a 15 12 3 0 4 2 1 2 7 0 1 0 18 0 c9 1 4 0 15 0 4 1
  ae 2 3 4 53 0 10 2 9 0 b 0 23f 0 2 0 8 7 6 0 9 9 2 2 38 0 3d 1 1 1 1 0 11 2 1 c e5 2 2a 8"

/-- Emoji that are shown as such by default. -/
def emojiPresentation : CodeSet := .decode
  "231a 1 cd 3 3 0 2 0 209 1 15 1 32 b 2b 0 13 0 d 0 8 1 11 1 5 1 8 0 5 0 15 0 7 1 1 0 4 0 2 0 7 0
  4 1 1c 0 23 0 1 0 4 2 1 0 3d 2 18 0 e 0 35b 1 33 0 4 0 1c4ae 0 ca 0 be 0 2 9 4b 19 1 0 18 0 14 0
  2 4 1 2 15 1 ae 20 c 8 1 45 1 15 c 2a 4 4 c 10 3 0 3 46 1 0 1 ba 2 3e d 3 1 17 12 0 1a 1 d 0 56
  54 30 45 6 0 3 2 2 3 3 3 b 1 7 8 e3 b 4 0 11b 2e 1 9 1 b8 70 c 3 a 3 38 1 0 4 f 2 b 4 9"

/-- Pictographs, and code points set aside for them. -/
def extendedPictographic : CodeSet := .decode
  "a9 0 4 0 1f8d 0 c 0 d8 0 16 0 5a 5 f 1 16f 1 c 0 a6 0 19 a 4 2 c7 0 e7 1 a 0 9 0 3a 3 1 4 9 0 2
  0 2 1 2 0 4 0 2 0 1 1 2 0 3 0 3 1 8 2 5 0 1 0 5 b b 1 2 0 1 1 1 0 12 0 2 1 12 5 1 0 1 1 3 1 5 0
  2 1 4 1 b 1 5 1 2 0 5 1 1 0 1 1 14 1 5 5 1 3 2 0 4 0 2 0 2 5 1 0 2 0 1 0 1 0 6 0 3 0 6 0 a 1 f 0
  2 0 4 0 1 0 4 2 1 0 b 1 30 2 9 0 e 0 e 0 174 1 1cf 2 13 1 33 0 4 0 4da 0 c 0 259 0 1 0 1bd6a 0
  27 3 64 b f 1 f 0 e 1 25 9 70 1 c 1 e 0 2 9 13 37 1b e a 0 14 0 2 8 1 3 9 16 6 bb 2 6f 2 1 1 2 2
  52 2 2 1 3 5 fd 1 3e b 5 1 17 7 1 2 7 c 0 2 3 2 0 4 1 d 1 2 0 8 1 9 0 5 2 c 2 8 2 2 0 1 0 4 0 6
  0 3 0 6 55 30 45 5 7 2 10 3 0 1 5 2 c da 25 c 3 38 7 a 5 28 7 1e 1 c 3 2 d 9 26 c 2e 1 9 1 b8 58
  7 e 91 100 3fd"

/-- Characters that repeat or lengthen the one before. -/
def extender : CodeSet := .decode
  "b7 0 218 1 36e 0 1b9 0 276 0 89 0 59 0 2f0 0 7f 0 943 0 38 0 263 0 18e 0 44 0 1389 0 2b 4 67 1
  5d 2 6f16 0 5f6 0 3c2 0 16 0 89 0 6c 0 15 1 547b 0 810 1 5cb 0 1b 0 4 0 4c7 0 125 0 74 1 1f2 2
  4cf 0 340 0 4d68 1 49c 1 1 0 e 1 7148 1 4b1 0 354 2"

/-- Ideographs. -/
def ideographic : CodeSet := .decode
  "3006 1 19 8 e 2 3c5 19bf 40 51ff 5900 16d 2 69 750a 0 d 4 9 1cd5 29 1f 61 72 237d 18b 4d04 a6df
  20 111d 2 168d 2 1d30 f 26d 9a2 21d 5e2 134a 5 2129"

/-- Vowels written before the consonant that they follow. -/
def logicalOrderException : CodeSet := .decode
  "e40 4 7b 4 af0 2 2 0 90fa 1 2 0 1 1"

/-- Code points that never are characters. -/
def noncharacter : CodeSet := .decode
  "fdd0 1f 20e 1 fffe 1 fffe 1 fffe 1 fffe 1 fffe 1 fffe 1 fffe 1 fffe 1 fffe 1 fffe 1 fffe 1 fffe
  1 fffe 1 fffe 1 fffe 1 fffe 1"

/-- Quotation marks. -/
def quotationMark : CodeSet := .decode
  "22 0 4 0 83 0 f 0 1f5c 7 19 1 e07 0 1c9 3 d 2 ce21 3 bd 0 4 0 5a 1"

/-- Radicals of ideographs. -/
def radical : CodeSet := .decode
  "2e80 19 1 58 c d5"

/-- Punctuation that ends a sentence. -/
def sentenceTerminal : CodeSet := .decode
  "21 0 c 0 10 0 549 0 93 2 b4 0 2b 2 f6 0 3d 0 1 0 3 1 125 1 6e4 1 316 0 4 1 305 0 c6 1 9d 1 2d 0
  5 0 13a 1 162 3 a2 1 a 1 2 1 1d 2 bb 1 41 1 3a4 0 17 1 9 2 caf 2 132 0 d 0 16 1 1ad 0 74fc 0 10e
  1 e3 0 3 0 17e 1 56 1 5f 0 98 1 93 2 90 1 f9 0 5226 0 2 1 3b 0 3 1 a9 0 c 0 10 0 41 0 af4 1 4fd
  4 2c 3 bd 1 75 3 7f 2 81 1 6 0 10 1 58 1 1 1 6c 0 12a 1 75 1 175 1 5 e 69 1 f9 2 205 0 1 0 fb 1
  57 1 1a4 1 2b4 1 4a 1 4b29 1 85 0 41 1 b 0 229 1 128 0 4e06 0 1de8 0"

/-- Characters whose dot goes when an accent is added. -/
def softDotted : CodeSet := .decode
  "69 1 c4 0 119 0 1e 0 34 0 14 0 140 0 62 0 1 0 1909 0 33 0 d 0 3 0 84 0 9d 0 1a5 0 d6 1 b32 0
  1a7a5 1 32 1 32 1 32 1 32 1 32 1 32 1 32 1 32 1 32 1 32 1 32 1 32 1 886 0 131 1 1a 0"

/-- Punctuation that ends a unit of text. -/
def terminalPunctuation : CodeSet := .decode
  "21 0 a 0 1 0 b 1 3 0 33e 0 8 0 201 0 39 0 48 0 e 0 1 2 b4 0 2b a 1 0 eb 1 36 5 1 7 1f 0 105 1
  4f4 1 ac 0 4 5 137 1 315 7 305 0 7c 2 47 1 9d 2 3 0 27 3 2 1 13a 1 162 3 a2 1 a 1 1 2 1d 2 bb 4
  3e 1 3a4 0 17 1 9 2 caf 2 132 0 d 0 4 0 a 0 1 1 3 1 1ac 1 74fb 1 10d 2 e3 4 17e 1 56 1 5f 0 97 2
  93 2 7f 0 10 1 f9 0 5226 0 2 1 39 2 1 3 a9 0 a 0 1 0 b 1 3 0 41 0 2 0 43a 0 30 0 486 0 c7 0 136
  1 98 5 44 5 59 3 3b8 4 2c 3 bd 6 70 3 7f 2 81 1 6 0 10 1 58 4 6c 0 12a 1 75 2 c 1 166 3 3 e 69 1
  f9 2 205 0 1 0 fb 1 57 1 4 1 19e 2 2d 0 285 1 4a 1 52b 4 45f9 1 85 0 41 2 a 0 229 1 127 1 4e06 0
  1de7 3"

/-- Unified ideographs. -/
def unifiedIdeograph : CodeSet := .decode
  "3400 19bf 40 51ff 5a0e 1 1 0 1 1 a 0 1 0 1 1 2 2 105d6 a6df 20 111d 2 168d 2 1d30 f 26d 11a2
  134a 5 2129"

/-- Variation selectors. -/
def variationSelector : CodeSet := .decode
  "180b 2 1 0 e5f0 f d02f0 ef"

/-- Hyphens. -/
def hyphen : CodeSet := .decode
  "2d 0 7f 0 4dc 0 127b 0 809 1 e05 0 2e3 0 cd67 0 a9 0 57 0"

/-- Marks written before the digits that they enclose. -/
def prependedConcatenationMark : CodeSet := .decode
  "600 5 d7 0 31 0 180 1 50 0 107da 0 f 0"

/-- Characters that extend a grapheme although they are no marks without width. -/
def graphemeExtendOthers : CodeSet := .decode
  "9be 0 18 0 166 0 18 0 66 0 18 0 e8 0 1 0 4 1 1 1 9 1 67 0 18 0 77 0 f 0 935 0 1e 0 400 0 5 0 1
  0 5 1 65 0 47 1 418 0 1021 1 7923 0 6c 0 55dd 1 1220 0 74 0 108 0 e 0 9 0 60 0 9 0 2 0 1 2 5 0
  e0 0 c 0 f1 0 106 0 279 0 c 0 603 0 50ae 1 6173 1 6 5 c2ead 5f"

/-- Characters that extend the grapheme before them. -/
def graphemeExtend : CodeSet :=
  (category ["Mn", "Me"]).union graphemeExtendOthers

/-- Characters that a grapheme can be built on. -/
def graphemeBase : CodeSet :=
  ((category ["Cc", "Cf", "Cs", "Co", "Cn", "Zl", "Zp"]).union graphemeExtend).complement

/-- Mathematical characters of other categories than `Sm`. -/
def mathOthers : CodeSet := .decode
  "5e 0 371 2 2 0 1a 1 2 1 1c20 0 1b 2 b 0 20 3 18 1 e 1 41 c 4 0 3 1 4 4 12 0 4 0 2 9 1 0 3 4 6 0
  3 1 2 1 1 2 1 5 3 3 5 4 4b 4 2 3 1 1 1 1 1 0 1 4 2 1 4 1 4 11 2 1 1 0 1 6 1 0 6 1 122 3 a8 1 1 0
  18 0 11 0 1bd 1 c 8 5 4 5 1 2 1 3 4 e 0 1 0 2 5 18 1 39 0 1 0 1d 3 9 1 156 1 1f 9 193 15 3f 3 20
  1 d463 0 1 0 4 0 d3 0 1 0 d4c1 54 1 46 1 1 2 0 2 1 2 3 1 b 1 0 1 6 1 40 1 3 2 7 1 6 1 1b 1 3 1 4
  1 0 3 6 1 153 2 18 1 18 1 1e 1 18 1 1e 1 18 1 1e 1 18 1 1e 1 18 1 7 2 31 1600 3 1 1a 1 1 1 0 2 0
  1 9 1 3 1 0 1 0 6 0 4 0 1 0 1 0 1 2 1 1 1 0 2 0 1 0 1 0 1 0 1 0 1 1 1 0 2 3 1 6 1 3 1 3 1 0 1 9
  1 10 5 2 1 4 1 10"

/-- Mathematical characters. -/
def math : CodeSet :=
  (category ["Sm"]).union mathOthers

/-- The hexadecimal digits of ASCII. -/
def asciiHexDigit : CodeSet :=
  .ofRanges [(0x30, 0x39), (0x41, 0x46), (0x61, 0x66)]

/-- Hexadecimal digits, also those of full width. -/
def hexDigit : CodeSet :=
  asciiHexDigit.union (.ofRanges [(0xFF10, 0xFF19), (0xFF21, 0xFF26), (0xFF41, 0xFF46)])

/-- The joiner and the non-joiner of width zero. -/
def joinControl : CodeSet :=
  .ofRanges [(0x200C, 0x200D)]

/-- Letters that pair up to flags. -/
def regionalIndicator : CodeSet :=
  .ofRanges [(0x1F1E6, 0x1F1FF)]

/-- Operators that describe an ideograph by one part. -/
def ideographUnary : CodeSet :=
  .ofRanges [(0x2FFE, 0x2FFF)]

/-- Operators that describe an ideograph by two parts. -/
def ideographBinary : CodeSet :=
  .ofRanges [(12272, 12273), (12276, 12285), (12783, 12783)]

/-- Operators that describe an ideograph by three parts. -/
def ideographTrinary : CodeSet :=
  .ofRanges [(0x2FF2, 0x2FF3)]

/-- Characters that join consonants (combining class 9). -/
def viramas : CodeSet := .decode
  "94d 0 7f 0 7f 0 7f 0 7f 0 7f 0 7f 0 7f 0 6d 1 10 0 7c 0 6f 0 7f 0 c9 0 b4 1 6d9 1 1e 0 9d 0 28d
  0 e3 0 65 1 46 1 118b 0 7a86 0 25 0 97 0 8e 0 6c 0 135 0 f6 0 5e51 0 606 0 29 0 e 0 39 0 79 1 8b
  0 74 0 b4 0 62 0 80 2 71 0 7f 0 fc 0 7f 0 76 0 74 0 10d 0 103 1 a1 0 53 0 12 0 51 0 1a5 0 104 1
  51 0 1a9 1 41ec 0"

end ProxyRouting.Unicode
