import ProxyRouting.Unicode.Shift

/-!
# Simple case folding

Characters that differ only in case form an orbit.  Most orbits are pairs, and those are the
shifts of `foldPairs`; `foldOrbits` lists the larger ones.

    m ∈ foldOrbit n → foldOrbit m = foldOrbit n                     (as sets)
    (caseFold s).contains n = (foldOrbit n).any s.contains
-/

namespace ProxyRouting.Unicode

/-- Orbits of two: the smaller code point and its distance to the larger. -/
def foldPairs : List Shift := Shift.decode
  "41 a 1 20 4c 8 2 20 4d 3 2 20 55 3 2 20 c0 10 2 20 c1 2 2 20 c7 8 2 20 d9 3 2 20 df 1 1 1dbf ff
  1 1 79 100 18 2 1 132 3 2 1 139 8 2 1 14a 17 2 1 179 3 2 1 180 1 1 c3 181 1 1 d2 182 2 2 1 186 1
  1 ce 187 1 1 1 189 2 1 cd 18b 1 1 1 18e 1 1 4f 18f 1 1 ca 190 1 1 cb 191 1 1 1 193 1 1 cd 194 1
  1 cf 195 1 1 61 196 1 1 d3 197 1 1 d1 198 1 1 1 19a 1 1 a3 19b 1 1 a641 19c 1 1 d3 19d 1 1 d5
  19e 1 1 82 19f 1 1 d6 1a0 3 2 1 1a6 1 1 da 1a7 1 1 1 1a9 1 1 da 1ac 1 1 1 1ae 1 1 da 1af 1 1 1
  1b1 2 1 d9 1b3 2 2 1 1b7 1 1 db 1b8 1 1 1 1bc 1 1 1 1bf 1 1 38 1cd 8 2 1 1de 9 2 1 1f4 1 1 1 1f8
  14 2 1 222 9 2 1 23a 1 1 2a2b 23b 1 1 1 23e 1 1 2a28 23f 2 1 2a3f 241 1 1 1 244 1 1 45 245 1 1
  47 246 5 2 1 250 1 1 2a1f 251 1 1 2a1c 252 1 1 2a1e 25c 1 1 a54f 261 1 1 a54b 264 1 1 a567 265 1
  1 a528 266 1 1 a544 26a 1 1 a544 26b 1 1 29f7 26c 1 1 a541 271 1 1 29fd 27d 1 1 29e7 282 1 1
  a543 287 1 1 a52a 29d 1 1 a515 29e 1 1 a512 370 2 2 1 376 1 1 1 37b 3 1 82 37f 1 1 74 386 1 1 26
  388 3 1 25 38c 1 1 40 38e 2 1 3f 390 1 1 1c43 391 2 2 20 394 2 2 20 397 1 1 20 39b 3 2 20 39e 1
  1 20 3a4 2 1 20 3a7 2 1 20 3aa 2 1 20 3b0 1 1 1c33 3cf 1 1 8 3d8 c 2 1 3f2 1 1 7 3f7 1 1 1 3fa 1
  1 1 400 10 1 50 410 2 1 20 413 7 2 20 416 4 2 20 420 1 1 20 423 7 1 20 42b 5 1 20 460 1 1 1 464
  f 2 1 48a 1b 2 1 4c0 1 1 f 4c1 7 2 1 4d0 30 2 1 531 26 1 30 10a0 26 1 1c60 10c7 1 1 1c60 10cd 1
  1 1c60 10d0 2b 1 bc0 10fd 3 1 bc0 13a0 50 1 97d0 13f0 6 1 8 1c89 1 1 1 1d79 1 1 8a04 1d7d 1 1
  ee6 1d8e 1 1 8a38 1e00 30 2 1 1e62 1a 2 1 1ea0 30 2 1 1f00 8 1 8 1f10 6 1 8 1f20 8 1 8 1f30 8 1
  8 1f40 6 1 8 1f51 4 2 8 1f60 8 1 8 1f70 2 1 4a 1f72 4 1 56 1f76 2 1 64 1f78 2 1 80 1f7a 2 1 70
  1f7c 2 1 7e 1f80 8 1 8 1f90 8 1 8 1fa0 8 1 8 1fb0 2 1 8 1fb3 1 1 9 1fc3 1 1 9 1fd0 2 1 8 1fe0 2
  1 8 1fe5 1 1 7 1ff3 1 1 9 2132 1 1 1c 2160 10 1 10 2183 1 1 1 24b6 1a 1 1a 2c00 30 1 30 2c60 1 1
  1 2c67 3 2 1 2c72 1 1 1 2c75 1 1 1 2c80 32 2 1 2ceb 2 2 1 2cf2 1 1 1 a640 5 2 1 a64c 11 2 1 a680
  e 2 1 a722 7 2 1 a732 1f 2 1 a779 2 2 1 a77e 5 2 1 a78b 1 1 1 a790 2 2 1 a794 1 1 30 a796 a 2 1
  a7b3 1 1 3a0 a7b4 8 2 1 a7c7 2 2 1 a7cc 8 2 1 a7f5 1 1 1 fb05 1 1 1 ff21 1a 1 20 10400 28 1 28
  104b0 24 1 28 10570 13 2 27 10571 5 2 27 1057d 7 2 27 1058d 3 2 27 10595 1 1 27 10c80 33 1 40
  10d50 16 1 20 118a0 20 1 20 16e40 20 1 20 16ea0 19 1 1b 1e900 22 1 22"

/-- Orbits of three and more. -/
def foldOrbits : List (List Nat) := [
  [0x4B, 0x6B, 0x212A], [0x53, 0x73, 0x17F], [0xB5, 0x39C, 0x3BC],
  [0xC5, 0xE5, 0x212B], [0x1C4, 0x1C5, 0x1C6], [0x1C7, 0x1C8, 0x1C9],
  [0x1CA, 0x1CB, 0x1CC], [0x1F1, 0x1F2, 0x1F3], [0x345, 0x399, 0x3B9, 0x1FBE],
  [0x392, 0x3B2, 0x3D0], [0x395, 0x3B5, 0x3F5], [0x398, 0x3B8, 0x3D1, 0x3F4],
  [0x39A, 0x3BA, 0x3F0], [0x3A0, 0x3C0, 0x3D6], [0x3A1, 0x3C1, 0x3F1],
  [0x3A3, 0x3C2, 0x3C3], [0x3A6, 0x3C6, 0x3D5], [0x3A9, 0x3C9, 0x2126],
  [0x412, 0x432, 0x1C80], [0x414, 0x434, 0x1C81], [0x41E, 0x43E, 0x1C82],
  [0x421, 0x441, 0x1C83], [0x422, 0x442, 0x1C84, 0x1C85], [0x42A, 0x44A, 0x1C86],
  [0x462, 0x463, 0x1C87], [0x1C88, 0xA64A, 0xA64B], [0x1E60, 0x1E61, 0x1E9B]]

/-- The characters that differ from one only in case, itself among them. -/
def foldOrbit (n : Nat) : List Nat :=
  match foldOrbits.find? (·.contains n) with
  | some orbit => orbit
  | none =>
    match foldPairs.find? (fun s => s.isSource n || s.isTarget n) with
    | some s => if s.isSource n then [n, s.target n] else [s.source n, n]
    | none => [n]

/-- All orbits of two and more. -/
def allOrbits : List (List Nat) :=
  foldOrbits ++ foldPairs.flatMap fun s => s.sources.map fun n => [n, s.target n]

/-- Closes a set under changes of case. -/
def CodeSet.caseFold (s : CodeSet) : CodeSet :=
  s.union (.ofCodes ((allOrbits.filter fun orbit => orbit.any s.contains).flatten))

/-- Closes a set under changes of case among the letters of ASCII. -/
def CodeSet.asciiCaseFold (s : CodeSet) : CodeSet :=
  let pair (k : Nat) := [0x41 + k, 0x61 + k]
  let orbits := (List.range 26).map pair
  s.union (.ofCodes ((orbits.filter fun orbit => orbit.any s.contains).flatten))

end ProxyRouting.Unicode
