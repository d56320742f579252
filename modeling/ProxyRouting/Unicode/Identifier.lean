import ProxyRouting.Unicode.Category

/-!
# Identifiers and pattern text

Which characters may stand in an identifier, and which are set aside for the writing of patterns.
-/

namespace ProxyRouting.Unicode

/-- Characters set aside for the punctuation of patterns (`Pattern_Syntax`). -/
def patternMarks : CodeSet := .decode
  "21 e a 6 1a 3 1 0 1a 3 22 6 1 0 1 1 1 0 1 1 4 0 4 0 3 0 17 0 1f 0 1f18 17 8 e 2 12 1 9 131 2cf
  a0 275 1e 46b 200 7f 181 2 4 18 f 0 cd0d 1 105 1"

/-- Characters set aside as blanks of patterns (`Pattern_White_Space`). -/
def patternBlanks : CodeSet := .decode
  "9 4 12 0 64 0 1f88 1 18 1"

/-- Characters that once were letters and may still start an identifier. -/
def startOthers : CodeSet :=
  .ofRanges [(0x1885, 0x1886), (0x2118, 0x2118), (0x212E, 0x212E), (0x309B, 0x309C)]

/-- Characters that may start an identifier. -/
def identifierStart : CodeSet :=
  ((CodeSet.unions [letters, letterNumbers, startOthers]).diff patternMarks).diff patternBlanks

/-- Characters that may stand in an identifier although their category does not say so. -/
def continueOthers : CodeSet :=
  .ofRanges [(0xB7, 0xB7), (0x387, 0x387), (0x1369, 0x1371), (0x19DA, 0x19DA),
    (0x200C, 0x200D), (0x30FB, 0x30FB), (0xFF65, 0xFF65)]

/-- Characters that may stand in an identifier after the first. -/
def identifierContinue : CodeSet :=
  .unions [identifierStart, category ["Mn", "Mc", "Nd", "Pc"], continueOthers]

/-- Characters whose compatibility form is no identifier. -/
def unstableContinue : CodeSet :=
  .ofRanges [(0x37A, 0x37A), (0x309B, 0x309C), (0xFC5E, 0xFC63), (0xFDFA, 0xFDFB),
    (0xFE70, 0xFE70), (0xFE72, 0xFE72), (0xFE74, 0xFE74), (0xFE76, 0xFE76), (0xFE78, 0xFE78),
    (0xFE7A, 0xFE7A), (0xFE7C, 0xFE7C), (0xFE7E, 0xFE7E)]

/-- Characters whose compatibility form starts no identifier. -/
def unstableStart : CodeSet :=
  unstableContinue.union (.ofRanges [(0xE33, 0xE33), (0xEB3, 0xEB3), (0xFF9E, 0xFF9F)])

/-- Characters that start an identifier, before and after compatibility mapping. -/
def stableIdentifierStart : CodeSet :=
  identifierStart.diff unstableStart

/-- Characters that continue an identifier, before and after compatibility mapping. -/
def stableIdentifierContinue : CodeSet :=
  identifierContinue.diff unstableContinue

end ProxyRouting.Unicode
