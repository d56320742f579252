import ProxyRouting.Unicode.Shift
import ProxyRouting.Unicode.Letter

/-!
# Lower and upper case of texts

A character may become several (`ß` becomes `SS`), and the lower case of a capital sigma hangs on
its place: at the end of a word, after a letter with case and before none, it is the final form.

    lowercaseOf ['Σ', 'Α', 'Σ'] = ['σ', 'α', 'ς']
-/

namespace ProxyRouting.Unicode

/-- Lower-case forms of one character, in stretches. -/
def lowerShifts : List Shift := Shift.decode
  "41 1a 1 20 c0 17 1 20 d8 7 1 20 100 18 2 1 132 3 2 1 139 8 2 1 14a 17 2 1 179 3 2 1 1a0 3 2 1
  1cb 9 2 1 1de 9 2 1 1f8 14 2 1 222 9 2 1 246 5 2 1 388 3 1 25 391 11 1 20 3a3 9 1 20 3d8 c 2 1
  3fd 3 1 -82 400 10 1 50 410 20 1 20 460 11 2 1 48a 1b 2 1 4c1 7 2 1 4d0 30 2 1 531 26 1 30 10a0
  26 1 1c60 13a0 50 1 97d0 13f0 6 1 8 1c90 2b 1 -bc0 1cbd 3 1 -bc0 1e00 4b 2 1 1ea0 30 2 1 1f08 8
  1 -8 1f18 6 1 -8 1f28 8 1 -8 1f38 8 1 -8 1f48 6 1 -8 1f59 4 2 -8 1f68 8 1 -8 1f88 8 1 -8 1f98 8
  1 -8 1fa8 8 1 -8 1fc8 4 1 -56 2160 10 1 10 24b6 1a 1 1a 2c00 30 1 30 2c67 3 2 1 2c80 32 2 1 a640
  17 2 1 a680 e 2 1 a722 7 2 1 a732 1f 2 1 a77e 5 2 1 a796 a 2 1 a7b4 8 2 1 a7cc 8 2 1 ff21 1a 1
  20 10400 28 1 28 104b0 24 1 28 10570 13 2 27 10571 5 2 27 1057d 7 2 27 1058d 3 2 27 10c80 33 1
  40 10d50 16 1 20 118a0 20 1 20 16e40 20 1 20 16ea0 19 1 1b 1e900 22 1 22"

/-- The other lower-case forms. -/
def lowerExpansions : List Expansion := Expansion.decode
  "130 69.307 178 ff 181 253 182 183 184 185 186 254 187 188 189 256 18a 257 18b 18c 18e 1dd 18f
  259 190 25b 191 192 193 260 194 263 196 269 197 268 198 199 19c 26f 19d 272 19f 275 1a6 280 1a7
  1a8 1a9 283 1ac 1ad 1ae 288 1af 1b0 1b1 28a 1b2 28b 1b3 1b4 1b5 1b6 1b7 292 1b8 1b9 1bc 1bd 1c4
  1c6 1c5 1c6 1c7 1c9 1c8 1c9 1ca 1cc 1f1 1f3 1f2 1f3 1f4 1f5 1f6 195 1f7 1bf 220 19e 23a 2c65 23b
  23c 23d 19a 23e 2c66 241 242 243 180 244 289 245 28c 370 371 372 373 376 377 37f 3f3 386 3ac 38c
  3cc 38e 3cd 38f 3ce 3cf 3d7 3f4 3b8 3f7 3f8 3f9 3f2 3fa 3fb 4c0 4cf 10c7 2d27 10cd 2d2d 1c89
  1c8a 1e9e df 1fb8 1fb0 1fb9 1fb1 1fba 1f70 1fbb 1f71 1fbc 1fb3 1fcc 1fc3 1fd8 1fd0 1fd9 1fd1
  1fda 1f76 1fdb 1f77 1fe8 1fe0 1fe9 1fe1 1fea 1f7a 1feb 1f7b 1fec 1fe5 1ff8 1f78 1ff9 1f79 1ffa
  1f7c 1ffb 1f7d 1ffc 1ff3 2126 3c9 212a 6b 212b e5 2132 214e 2183 2184 2c60 2c61 2c62 26b 2c63
  1d7d 2c64 27d 2c6d 251 2c6e 271 2c6f 250 2c70 252 2c72 2c73 2c75 2c76 2c7e 23f 2c7f 240 2ceb
  2cec 2ced 2cee 2cf2 2cf3 a779 a77a a77b a77c a77d 1d79 a78b a78c a78d 265 a790 a791 a792 a793
  a7aa 266 a7ab 25c a7ac 261 a7ad 26c a7ae 26a a7b0 29e a7b1 287 a7b2 29d a7b3 ab53 a7c4 a794 a7c5
  282 a7c6 1d8e a7c7 a7c8 a7c9 a7ca a7cb 264 a7dc 19b a7f5 a7f6 10595 105bc"

/-- Upper-case forms of one character, in stretches. -/
def upperShifts : List Shift := Shift.decode
  "61 1a 1 -20 e0 17 1 -20 f8 7 1 -20 101 18 2 -1 133 3 2 -1 13a 8 2 -1 14b 17 2 -1 17a 3 2 -1 1a1
  3 2 -1 1ce 8 2 -1 1df 9 2 -1 1f9 14 2 -1 223 9 2 -1 247 5 2 -1 37b 3 1 82 3ad 3 1 -25 3b1 11 1
  -20 3c3 9 1 -20 3d9 c 2 -1 430 20 1 -20 450 10 1 -50 461 11 2 -1 48b 1b 2 -1 4c2 7 2 -1 4d1 30 2
  -1 561 26 1 -30 10d0 2b 1 bc0 10fd 3 1 bc0 13f8 6 1 -8 1e01 4b 2 -1 1ea1 30 2 -1 1f00 8 1 8 1f10
  6 1 8 1f20 8 1 8 1f30 8 1 8 1f40 6 1 8 1f51 4 2 8 1f60 8 1 8 1f72 4 1 56 2170 10 1 -10 24d0 1a 1
  -1a 2c30 30 1 -30 2c68 3 2 -1 2c81 32 2 -1 2d00 26 1 -1c60 a641 17 2 -1 a681 e 2 -1 a723 7 2 -1
  a733 1f 2 -1 a77f 5 2 -1 a797 a 2 -1 a7b5 8 2 -1 a7cd 8 2 -1 ab70 50 1 -97d0 ff41 1a 1 -20 10428
  28 1 -28 104d8 24 1 -28 10597 13 2 -27 10598 5 2 -27 105a4 7 2 -27 105b4 3 2 -27 10cc0 33 1 -40
  10d70 16 1 -20 118c0 20 1 -20 16e60 20 1 -20 16ebb 19 1 -1b 1e922 22 1 -22"

/-- The other upper-case forms. -/
def upperExpansions : List Expansion := Expansion.decode
  "b5 39c df 53.53 ff 178 131 49 149 2bc.4e 17f 53 180 243 183 182 185 184 188 187 18c 18b 192 191
  195 1f6 199 198 19a 23d 19b a7dc 19e 220 1a8 1a7 1ad 1ac 1b0 1af 1b4 1b3 1b6 1b5 1b9 1b8 1bd 1bc
  1bf 1f7 1c5 1c4 1c6 1c4 1c8 1c7 1c9 1c7 1cb 1ca 1cc 1ca 1dd 18e 1f0 4a.30c 1f2 1f1 1f3 1f1 1f5
  1f4 23c 23b 23f 2c7e 240 2c7f 242 241 250 2c6f 251 2c6d 252 2c70 253 181 254 186 256 189 257 18a
  259 18f 25b 190 25c a7ab 260 193 261 a7ac 263 194 264 a7cb 265 a78d 266 a7aa 268 197 269 196 26a
  a7ae 26b 2c62 26c a7ad 26f 19c 271 2c6e 272 19d 275 19f 27d 2c64 280 1a6 282 a7c5 283 1a9 287
  a7b1 288 1ae 289 244 28a 1b1 28b 1b2 28c 245 292 1b7 29d a7b2 29e a7b0 345 399 371 370 373 372
  377 376 390 399.308.301 3ac 386 3b0 3a5.308.301 3c2 3a3 3cc 38c 3cd 38e 3ce 38f 3d0 392 3d1 398
  3d5 3a6 3d6 3a0 3d7 3cf 3f0 39a 3f1 3a1 3f2 3f9 3f3 37f 3f5 395 3f8 3f7 3fb 3fa 4cf 4c0 587
  535.552 1c80 412 1c81 414 1c82 41e 1c83 421 1c84 422 1c85 422 1c86 42a 1c87 462 1c88 a64a 1c8a
  1c89 1d79 a77d 1d7d 2c63 1d8e a7c6 1e96 48.331 1e97 54.308 1e98 57.30a 1e99 59.30a 1e9a 41.2be
  1e9b 1e60 1f50 3a5.313 1f52 3a5.313.300 1f54 3a5.313.301 1f56 3a5.313.342 1f70 1fba 1f71 1fbb
  1f76 1fda 1f77 1fdb 1f78 1ff8 1f79 1ff9 1f7a 1fea 1f7b 1feb 1f7c 1ffa 1f7d 1ffb 1f80 1f08.399
  1f81 1f09.399 1f82 1f0a.399 1f83 1f0b.399 1f84 1f0c.399 1f85 1f0d.399 1f86 1f0e.399 1f87
  1f0f.399 1f88 1f08.399 1f89 1f09.399 1f8a 1f0a.399 1f8b 1f0b.399 1f8c 1f0c.399 1f8d 1f0d.399
  1f8e 1f0e.399 1f8f 1f0f.399 1f90 1f28.399 1f91 1f29.399 1f92 1f2a.399 1f93 1f2b.399 1f94
  1f2c.399 1f95 1f2d.399 1f96 1f2e.399 1f97 1f2f.399 1f98 1f28.399 1f99 1f29.399 1f9a 1f2a.399
  1f9b 1f2b.399 1f9c 1f2c.399 1f9d 1f2d.399 1f9e 1f2e.399 1f9f 1f2f.399 1fa0 1f68.399 1fa1
  1f69.399 1fa2 1f6a.399 1fa3 1f6b.399 1fa4 1f6c.399 1fa5 1f6d.399 1fa6 1f6e.399 1fa7 1f6f.399
  1fa8 1f68.399 1fa9 1f69.399 1faa 1f6a.399 1fab 1f6b.399 1fac 1f6c.399 1fad 1f6d.399 1fae
  1f6e.399 1faf 1f6f.399 1fb0 1fb8 1fb1 1fb9 1fb2 1fba.399 1fb3 391.399 1fb4 386.399 1fb6 391.342
  1fb7 391.342.399 1fbc 391.399 1fbe 399 1fc2 1fca.399 1fc3 397.399 1fc4 389.399 1fc6 397.342 1fc7
  397.342.399 1fcc 397.399 1fd0 1fd8 1fd1 1fd9 1fd2 399.308.300 1fd3 399.308.301 1fd6 399.342 1fd7
  399.308.342 1fe0 1fe8 1fe1 1fe9 1fe2 3a5.308.300 1fe3 3a5.308.301 1fe4 3a1.313 1fe5 1fec 1fe6
  3a5.342 1fe7 3a5.308.342 1ff2 1ffa.399 1ff3 3a9.399 1ff4 38f.399 1ff6 3a9.342 1ff7 3a9.342.399
  1ffc 3a9.399 214e 2132 2184 2183 2c61 2c60 2c65 23a 2c66 23e 2c73 2c72 2c76 2c75 2cec 2ceb 2cee
  2ced 2cf3 2cf2 2d27 10c7 2d2d 10cd a77a a779 a77c a77b a78c a78b a791 a790 a793 a792 a794 a7c4
  a7c8 a7c7 a7ca a7c9 a7f6 a7f5 ab53 a7b3 fb00 46.46 fb01 46.49 fb02 46.4c fb03 46.46.49 fb04
  46.46.4c fb05 53.54 fb06 53.54 fb13 544.546 fb14 544.535 fb15 544.53b fb16 54e.546 fb17 544.53d
  105bc 10595"

/-- What a pair of tables makes of a character. -/
def mapChar (shifts : List Shift) (table : List Expansion) (c : Char) : List Char :=
  match Shift.lookup shifts c.toNat with
  | some n => [Char.ofNat n]
  | none =>
    match Expansion.lookup table c.toNat with
    | some ns => ns.map Char.ofNat
    | none => [c]

/-- Lower case of a character, whatever stands around it. -/
def lowerChar (c : Char) : List Char :=
  if c.toNat < 0x80 then [c.toLower] else mapChar lowerShifts lowerExpansions c

def upperChar (c : Char) : List Char :=
  if c.toNat < 0x80 then [c.toUpper] else mapChar upperShifts upperExpansions c

/-- Whether the first character that is not passed over has case. -/
def meetsCased (cs : List Char) : Bool :=
  match cs.dropWhile fun c => caseIgnorable.contains c.toNat with
  | [] => false
  | c :: _ => cased.contains c.toNat

/-- Lower case of a text of which `before` is already done, nearest character first. -/
def lowerFrom (before : List Char) : List Char → List Char
  | [] => []
  | c :: rest =>
    let low :=
      if c == 'Σ' then (if meetsCased before && !meetsCased rest then ['ς'] else ['σ'])
      else lowerChar c
    low ++ lowerFrom (c :: before) rest

def lowercaseOf (cs : List Char) : List Char :=
  lowerFrom [] cs

def uppercaseOf (cs : List Char) : List Char :=
  cs.flatMap upperChar

end ProxyRouting.Unicode
