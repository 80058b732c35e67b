import SparqlBag.Text.Inversion

/-!
# Case mapping

The full case mappings of Unicode 17.0, where one character may become several
(`ß` becomes `SS`, `ﬁ` becomes `FI`).  Most characters map to one character
at a fixed distance, and those are kept as runs: a run `first last delta step`
maps every `step`-th code point from `first` to `last` by adding `delta`, all
in hexadecimal.  The others are kept as `code:image`, the image being code
points joined by dots.

Lowercasing a text turns a capital sigma into the final sigma `ς` when it ends
a word: a cased letter comes before it, and none follows it, with
case-ignorable characters skipped on both sides.
-/

namespace SparqlBag

namespace Case

/-- A run of characters that a mapping moves by the same distance. -/
structure Run where
  first : Nat
  last : Nat
  delta : Int
  step : Nat
  deriving Inhabited, Repr

/-- The value of a hexadecimal text with an optional minus sign. -/
def signedHex (s : String) : Int :=
  if s.startsWith "-" then -(InversionMap.hexNumber (s.drop 1).toString : Int)
  else InversionMap.hexNumber s

/-- Runs read from lines of four words each. -/
def readRuns : List String → List Run
  | a :: b :: d :: s :: rest =>
    ⟨InversionMap.hexNumber a, InversionMap.hexNumber b, signedHex d, InversionMap.hexNumber s⟩ ::
      readRuns rest
  | _ => []

/-- Mappings read from words `code:image`. -/
def readSpecial (words : List String) : List (Nat × List Nat) :=
  words.filterMap fun w =>
    match w.splitOn ":" with
    | [c, image] => some (InversionMap.hexNumber c, (image.splitOn ".").map InversionMap.hexNumber)
    | _ => none

/-- Runs of uppercase mappings to one character. -/
def upperRunTable : List String := [
  "61 7a -20 1 b5 b5 2e7 1 e0 f6 -20 1 f8 fe -20 1 ff ff 79 1 101 12f -1 2 131 131 -e8 1 133",
  "137 -1 2 13a 148 -1 2 14b 177 -1 2 17a 17e -1 2 17f 17f -12c 1 180 180 c3 1 183 185 -1 2 188",
  "188 -1 1 18c 18c -1 1 192 192 -1 1 195 195 61 1 199 199 -1 1 19a 19a a3 1 19b 19b a641 1 19e",
  "19e 82 1 1a1 1a5 -1 2 1a8 1a8 -1 1 1ad 1ad -1 1 1b0 1b0 -1 1 1b4 1b6 -1 2 1b9 1b9 -1 1 1bd",
  "1bd -1 1 1bf 1bf 38 1 1c5 1c5 -1 1 1c6 1c6 -2 1 1c8 1c8 -1 1 1c9 1c9 -2 1 1cb 1cb -1 1 1cc",
  "1cc -2 1 1ce 1dc -1 2 1dd 1dd -4f 1 1df 1ef -1 2 1f2 1f2 -1 1 1f3 1f3 -2 1 1f5 1f5 -1 1 1f9",
  "21f -1 2 223 233 -1 2 23c 23c -1 1 23f 240 2a3f 1 242 242 -1 1 247 24f -1 2 250 250 2a1f 1",
  "251 251 2a1c 1 252 252 2a1e 1 253 253 -d2 1 254 254 -ce 1 256 257 -cd 1 259 259 -ca 1 25b",
  "25b -cb 1 25c 25c a54f 1 260 260 -cd 1 261 261 a54b 1 263 263 -cf 1 264 264 a567 1 265 265",
  "a528 1 266 266 a544 1 268 268 -d1 1 269 269 -d3 1 26a 26a a544 1 26b 26b 29f7 1 26c 26c a541",
  "1 26f 26f -d3 1 271 271 29fd 1 272 272 -d5 1 275 275 -d6 1 27d 27d 29e7 1 280 280 -da 1 282",
  "282 a543 1 283 283 -da 1 287 287 a52a 1 288 288 -da 1 289 289 -45 1 28a 28b -d9 1 28c 28c",
  "-47 1 292 292 -db 1 29d 29d a515 1 29e 29e a512 1 345 345 54 1 371 373 -1 2 377 377 -1 1 37b",
  "37d 82 1 3ac 3ac -26 1 3ad 3af -25 1 3b1 3c1 -20 1 3c2 3c2 -1f 1 3c3 3cb -20 1 3cc 3cc -40 1",
  "3cd 3ce -3f 1 3d0 3d0 -3e 1 3d1 3d1 -39 1 3d5 3d5 -2f 1 3d6 3d6 -36 1 3d7 3d7 -8 1 3d9 3ef",
  "-1 2 3f0 3f0 -56 1 3f1 3f1 -50 1 3f2 3f2 7 1 3f3 3f3 -74 1 3f5 3f5 -60 1 3f8 3f8 -1 1 3fb",
  "3fb -1 1 430 44f -20 1 450 45f -50 1 461 481 -1 2 48b 4bf -1 2 4c2 4ce -1 2 4cf 4cf -f 1 4d1",
  "52f -1 2 561 586 -30 1 10d0 10fa bc0 1 10fd 10ff bc0 1 13f8 13fd -8 1 1c80 1c80 -186e 1 1c81",
  "1c81 -186d 1 1c82 1c82 -1864 1 1c83 1c84 -1862 1 1c85 1c85 -1863 1 1c86 1c86 -185c 1 1c87",
  "1c87 -1825 1 1c88 1c88 89c2 1 1c8a 1c8a -1 1 1d79 1d79 8a04 1 1d7d 1d7d ee6 1 1d8e 1d8e 8a38",
  "1 1e01 1e95 -1 2 1e9b 1e9b -3b 1 1ea1 1eff -1 2 1f00 1f07 8 1 1f10 1f15 8 1 1f20 1f27 8 1",
  "1f30 1f37 8 1 1f40 1f45 8 1 1f51 1f57 8 2 1f60 1f67 8 1 1f70 1f71 4a 1 1f72 1f75 56 1 1f76",
  "1f77 64 1 1f78 1f79 80 1 1f7a 1f7b 70 1 1f7c 1f7d 7e 1 1fb0 1fb1 8 1 1fbe 1fbe -1c25 1 1fd0",
  "1fd1 8 1 1fe0 1fe1 8 1 1fe5 1fe5 7 1 214e 214e -1c 1 2170 217f -10 1 2184 2184 -1 1 24d0",
  "24e9 -1a 1 2c30 2c5f -30 1 2c61 2c61 -1 1 2c65 2c65 -2a2b 1 2c66 2c66 -2a28 1 2c68 2c6c -1 2",
  "2c73 2c73 -1 1 2c76 2c76 -1 1 2c81 2ce3 -1 2 2cec 2cee -1 2 2cf3 2cf3 -1 1 2d00 2d25 -1c60 1",
  "2d27 2d27 -1c60 1 2d2d 2d2d -1c60 1 a641 a66d -1 2 a681 a69b -1 2 a723 a72f -1 2 a733 a76f",
  "-1 2 a77a a77c -1 2 a77f a787 -1 2 a78c a78c -1 1 a791 a793 -1 2 a794 a794 30 1 a797 a7a9 -1",
  "2 a7b5 a7c3 -1 2 a7c8 a7ca -1 2 a7cd a7db -1 2 a7f6 a7f6 -1 1 ab53 ab53 -3a0 1 ab70 abbf",
  "-97d0 1 ff41 ff5a -20 1 10428 1044f -28 1 104d8 104fb -28 1 10597 105a1 -27 1 105a3 105b1",
  "-27 1 105b3 105b9 -27 1 105bb 105bc -27 1 10cc0 10cf2 -40 1 10d70 10d85 -20 1 118c0 118df",
  "-20 1 16e60 16e7f -20 1 16ebb 16ed3 -1b 1 1e922 1e943 -22 1"]

/-- Uppercase mappings to several characters. -/
def upperSpecialTable : List String := [
  "df:53.53 149:2bc.4e 1f0:4a.30c 390:399.308.301 3b0:3a5.308.301 587:535.552 1e96:48.331",
  "1e97:54.308 1e98:57.30a 1e99:59.30a 1e9a:41.2be 1f50:3a5.313 1f52:3a5.313.300",
  "1f54:3a5.313.301 1f56:3a5.313.342 1f80:1f08.399 1f81:1f09.399 1f82:1f0a.399 1f83:1f0b.399",
  "1f84:1f0c.399 1f85:1f0d.399 1f86:1f0e.399 1f87:1f0f.399 1f88:1f08.399 1f89:1f09.399",
  "1f8a:1f0a.399 1f8b:1f0b.399 1f8c:1f0c.399 1f8d:1f0d.399 1f8e:1f0e.399 1f8f:1f0f.399",
  "1f90:1f28.399 1f91:1f29.399 1f92:1f2a.399 1f93:1f2b.399 1f94:1f2c.399 1f95:1f2d.399",
  "1f96:1f2e.399 1f97:1f2f.399 1f98:1f28.399 1f99:1f29.399 1f9a:1f2a.399 1f9b:1f2b.399",
  "1f9c:1f2c.399 1f9d:1f2d.399 1f9e:1f2e.399 1f9f:1f2f.399 1fa0:1f68.399 1fa1:1f69.399",
  "1fa2:1f6a.399 1fa3:1f6b.399 1fa4:1f6c.399 1fa5:1f6d.399 1fa6:1f6e.399 1fa7:1f6f.399",
  "1fa8:1f68.399 1fa9:1f69.399 1faa:1f6a.399 1fab:1f6b.399 1fac:1f6c.399 1fad:1f6d.399",
  "1fae:1f6e.399 1faf:1f6f.399 1fb2:1fba.399 1fb3:391.399 1fb4:386.399 1fb6:391.342",
  "1fb7:391.342.399 1fbc:391.399 1fc2:1fca.399 1fc3:397.399 1fc4:389.399 1fc6:397.342",
  "1fc7:397.342.399 1fcc:397.399 1fd2:399.308.300 1fd3:399.308.301 1fd6:399.342",
  "1fd7:399.308.342 1fe2:3a5.308.300 1fe3:3a5.308.301 1fe4:3a1.313 1fe6:3a5.342",
  "1fe7:3a5.308.342 1ff2:1ffa.399 1ff3:3a9.399 1ff4:38f.399 1ff6:3a9.342 1ff7:3a9.342.399",
  "1ffc:3a9.399 fb00:46.46 fb01:46.49 fb02:46.4c fb03:46.46.49 fb04:46.46.4c fb05:53.54",
  "fb06:53.54 fb13:544.546 fb14:544.535 fb15:544.53b fb16:54e.546 fb17:544.53d"]

/-- Runs of lowercase mappings to one character. -/
def lowerRunTable : List String := [
  "41 5a 20 1 c0 d6 20 1 d8 de 20 1 100 12e 1 2 132 136 1 2 139 147 1 2 14a 176 1 2 178 178 -79",
  "1 179 17d 1 2 181 181 d2 1 182 184 1 2 186 186 ce 1 187 187 1 1 189 18a cd 1 18b 18b 1 1 18e",
  "18e 4f 1 18f 18f ca 1 190 190 cb 1 191 191 1 1 193 193 cd 1 194 194 cf 1 196 196 d3 1 197",
  "197 d1 1 198 198 1 1 19c 19c d3 1 19d 19d d5 1 19f 19f d6 1 1a0 1a4 1 2 1a6 1a6 da 1 1a7 1a7",
  "1 1 1a9 1a9 da 1 1ac 1ac 1 1 1ae 1ae da 1 1af 1af 1 1 1b1 1b2 d9 1 1b3 1b5 1 2 1b7 1b7 db 1",
  "1b8 1b8 1 1 1bc 1bc 1 1 1c4 1c4 2 1 1c5 1c5 1 1 1c7 1c7 2 1 1c8 1c8 1 1 1ca 1ca 2 1 1cb 1db",
  "1 2 1de 1ee 1 2 1f1 1f1 2 1 1f2 1f4 1 2 1f6 1f6 -61 1 1f7 1f7 -38 1 1f8 21e 1 2 220 220 -82",
  "1 222 232 1 2 23a 23a 2a2b 1 23b 23b 1 1 23d 23d -a3 1 23e 23e 2a28 1 241 241 1 1 243 243",
  "-c3 1 244 244 45 1 245 245 47 1 246 24e 1 2 370 372 1 2 376 376 1 1 37f 37f 74 1 386 386 26",
  "1 388 38a 25 1 38c 38c 40 1 38e 38f 3f 1 391 3a1 20 1 3a3 3ab 20 1 3cf 3cf 8 1 3d8 3ee 1 2",
  "3f4 3f4 -3c 1 3f7 3f7 1 1 3f9 3f9 -7 1 3fa 3fa 1 1 3fd 3ff -82 1 400 40f 50 1 410 42f 20 1",
  "460 480 1 2 48a 4be 1 2 4c0 4c0 f 1 4c1 4cd 1 2 4d0 52e 1 2 531 556 30 1 10a0 10c5 1c60 1",
  "10c7 10c7 1c60 1 10cd 10cd 1c60 1 13a0 13ef 97d0 1 13f0 13f5 8 1 1c89 1c89 1 1 1c90 1cba",
  "-bc0 1 1cbd 1cbf -bc0 1 1e00 1e94 1 2 1e9e 1e9e -1dbf 1 1ea0 1efe 1 2 1f08 1f0f -8 1 1f18",
  "1f1d -8 1 1f28 1f2f -8 1 1f38 1f3f -8 1 1f48 1f4d -8 1 1f59 1f5f -8 2 1f68 1f6f -8 1 1f88",
  "1f8f -8 1 1f98 1f9f -8 1 1fa8 1faf -8 1 1fb8 1fb9 -8 1 1fba 1fbb -4a 1 1fbc 1fbc -9 1 1fc8",
  "1fcb -56 1 1fcc 1fcc -9 1 1fd8 1fd9 -8 1 1fda 1fdb -64 1 1fe8 1fe9 -8 1 1fea 1feb -70 1 1fec",
  "1fec -7 1 1ff8 1ff9 -80 1 1ffa 1ffb -7e 1 1ffc 1ffc -9 1 2126 2126 -1d5d 1 212a 212a -20bf 1",
  "212b 212b -2046 1 2132 2132 1c 1 2160 216f 10 1 2183 2183 1 1 24b6 24cf 1a 1 2c00 2c2f 30 1",
  "2c60 2c60 1 1 2c62 2c62 -29f7 1 2c63 2c63 -ee6 1 2c64 2c64 -29e7 1 2c67 2c6b 1 2 2c6d 2c6d",
  "-2a1c 1 2c6e 2c6e -29fd 1 2c6f 2c6f -2a1f 1 2c70 2c70 -2a1e 1 2c72 2c72 1 1 2c75 2c75 1 1",
  "2c7e 2c7f -2a3f 1 2c80 2ce2 1 2 2ceb 2ced 1 2 2cf2 2cf2 1 1 a640 a66c 1 2 a680 a69a 1 2 a722",
  "a72e 1 2 a732 a76e 1 2 a779 a77b 1 2 a77d a77d -8a04 1 a77e a786 1 2 a78b a78b 1 1 a78d a78d",
  "-a528 1 a790 a792 1 2 a796 a7a8 1 2 a7aa a7aa -a544 1 a7ab a7ab -a54f 1 a7ac a7ac -a54b 1",
  "a7ad a7ad -a541 1 a7ae a7ae -a544 1 a7b0 a7b0 -a512 1 a7b1 a7b1 -a52a 1 a7b2 a7b2 -a515 1",
  "a7b3 a7b3 3a0 1 a7b4 a7c2 1 2 a7c4 a7c4 -30 1 a7c5 a7c5 -a543 1 a7c6 a7c6 -8a38 1 a7c7 a7c9",
  "1 2 a7cb a7cb -a567 1 a7cc a7da 1 2 a7dc a7dc -a641 1 a7f5 a7f5 1 1 ff21 ff3a 20 1 10400",
  "10427 28 1 104b0 104d3 28 1 10570 1057a 27 1 1057c 1058a 27 1 1058c 10592 27 1 10594 10595",
  "27 1 10c80 10cb2 40 1 10d50 10d65 20 1 118a0 118bf 20 1 16e40 16e5f 20 1 16ea0 16eb8 1b 1",
  "1e900 1e921 22 1"]

/-- Lowercase mappings to several characters. -/
def lowerSpecialTable : List String := [
  "130:69.307"]

/-- Where being cased starts and stops, in turn. -/
def casedTable : List String := [
  "41 5b 61 7b aa ab b5 b6 ba bb c0 d7 d8 f7 f8 1bb 1bc 1c0 1c4 294 296 2b9 2c0 2c2 2e0 2e5 345",
  "346 370 374 376 378 37a 37e 37f 380 386 387 388 38b 38c 38d 38e 3a2 3a3 3f6 3f7 482 48a 530",
  "531 557 560 589 10a0 10c6 10c7 10c8 10cd 10ce 10d0 10fb 10fc 1100 13a0 13f6 13f8 13fe 1c80",
  "1c8b 1c90 1cbb 1cbd 1cc0 1d00 1dc0 1e00 1f16 1f18 1f1e 1f20 1f46 1f48 1f4e 1f50 1f58 1f59",
  "1f5a 1f5b 1f5c 1f5d 1f5e 1f5f 1f7e 1f80 1fb5 1fb6 1fbd 1fbe 1fbf 1fc2 1fc5 1fc6 1fcd 1fd0",
  "1fd4 1fd6 1fdc 1fe0 1fed 1ff2 1ff5 1ff6 1ffd 2071 2072 207f 2080 2090 209d 2102 2103 2107",
  "2108 210a 2114 2115 2116 2119 211e 2124 2125 2126 2127 2128 2129 212a 212e 212f 2135 2139",
  "213a 213c 2140 2145 214a 214e 214f 2160 2180 2183 2185 24b6 24ea 2c00 2ce5 2ceb 2cef 2cf2",
  "2cf4 2d00 2d26 2d27 2d28 2d2d 2d2e a640 a66e a680 a69e a722 a788 a78b a78f a790 a7dd a7f1",
  "a7f7 a7f8 a7fb ab30 ab5b ab5c ab6a ab70 abc0 fb00 fb07 fb13 fb18 ff21 ff3b ff41 ff5b 10400",
  "10450 104b0 104d4 104d8 104fc 10570 1057b 1057c 1058b 1058c 10593 10594 10596 10597 105a2",
  "105a3 105b2 105b3 105ba 105bb 105bd 10780 10781 10783 10786 10787 107b1 107b2 107bb 10c80",
  "10cb3 10cc0 10cf3 10d50 10d66 10d70 10d86 118a0 118e0 16e40 16e80 16ea0 16eb9 16ebb 16ed4",
  "1d400 1d455 1d456 1d49d 1d49e 1d4a0 1d4a2 1d4a3 1d4a5 1d4a7 1d4a9 1d4ad 1d4ae 1d4ba 1d4bb",
  "1d4bc 1d4bd 1d4c4 1d4c5 1d506 1d507 1d50b 1d50d 1d515 1d516 1d51d 1d51e 1d53a 1d53b 1d53f",
  "1d540 1d545 1d546 1d547 1d54a 1d551 1d552 1d6a6 1d6a8 1d6c1 1d6c2 1d6db 1d6dc 1d6fb 1d6fc",
  "1d715 1d716 1d735 1d736 1d74f 1d750 1d76f 1d770 1d789 1d78a 1d7a9 1d7aa 1d7c3 1d7c4 1d7cc",
  "1df00 1df0a 1df0b 1df1f 1df25 1df2b 1e030 1e06e 1e900 1e944 1f130 1f14a 1f150 1f16a 1f170",
  "1f18a"]

/-- Where being case-ignorable starts and stops, in turn. -/
def ignorableTable : List String := [
  "27 28 2e 2f 3a 3b 5e 5f 60 61 a8 a9 ad ae af b0 b4 b5 b7 b9 2b0 370 374 376 37a 37b 384 386",
  "387 388 483 48a 559 55a 55f 560 591 5be 5bf 5c0 5c1 5c3 5c4 5c6 5c7 5c8 5f4 5f5 600 606 610",
  "61b 61c 61d 640 641 64b 660 670 671 6d6 6de 6df 6e9 6ea 6ee 70f 710 711 712 730 74b 7a6 7b1",
  "7eb 7f6 7fa 7fb 7fd 7fe 816 82e 859 85c 888 889 890 892 897 8a0 8c9 903 93a 93b 93c 93d 941",
  "949 94d 94e 951 958 962 964 971 972 981 982 9bc 9bd 9c1 9c5 9cd 9ce 9e2 9e4 9fe 9ff a01 a03",
  "a3c a3d a41 a43 a47 a49 a4b a4e a51 a52 a70 a72 a75 a76 a81 a83 abc abd ac1 ac6 ac7 ac9 acd",
  "ace ae2 ae4 afa b00 b01 b02 b3c b3d b3f b40 b41 b45 b4d b4e b55 b57 b62 b64 b82 b83 bc0 bc1",
  "bcd bce c00 c01 c04 c05 c3c c3d c3e c41 c46 c49 c4a c4e c55 c57 c62 c64 c81 c82 cbc cbd cbf",
  "cc0 cc6 cc7 ccc cce ce2 ce4 d00 d02 d3b d3d d41 d45 d4d d4e d62 d64 d81 d82 dca dcb dd2 dd5",
  "dd6 dd7 e31 e32 e34 e3b e46 e4f eb1 eb2 eb4 ebd ec6 ec7 ec8 ecf f18 f1a f35 f36 f37 f38 f39",
  "f3a f71 f7f f80 f85 f86 f88 f8d f98 f99 fbd fc6 fc7 102d 1031 1032 1038 1039 103b 103d 103f",
  "1058 105a 105e 1061 1071 1075 1082 1083 1085 1087 108d 108e 109d 109e 10fc 10fd 135d 1360",
  "1712 1715 1732 1734 1752 1754 1772 1774 17b4 17b6 17b7 17be 17c6 17c7 17c9 17d4 17d7 17d8",
  "17dd 17de 180b 1810 1843 1844 1885 1887 18a9 18aa 1920 1923 1927 1929 1932 1933 1939 193c",
  "1a17 1a19 1a1b 1a1c 1a56 1a57 1a58 1a5f 1a60 1a61 1a62 1a63 1a65 1a6d 1a73 1a7d 1a7f 1a80",
  "1aa7 1aa8 1ab0 1ade 1ae0 1aec 1b00 1b04 1b34 1b35 1b36 1b3b 1b3c 1b3d 1b42 1b43 1b6b 1b74",
  "1b80 1b82 1ba2 1ba6 1ba8 1baa 1bab 1bae 1be6 1be7 1be8 1bea 1bed 1bee 1bef 1bf2 1c2c 1c34",
  "1c36 1c38 1c78 1c7e 1cd0 1cd3 1cd4 1ce1 1ce2 1ce9 1ced 1cee 1cf4 1cf5 1cf8 1cfa 1d2c 1d6b",
  "1d78 1d79 1d9b 1e00 1fbd 1fbe 1fbf 1fc2 1fcd 1fd0 1fdd 1fe0 1fed 1ff0 1ffd 1fff 200b 2010",
  "2018 201a 2024 2025 2027 2028 202a 202f 2060 2065 2066 2070 2071 2072 207f 2080 2090 209d",
  "20d0 20f1 2c7c 2c7e 2cef 2cf2 2d6f 2d70 2d7f 2d80 2de0 2e00 2e2f 2e30 3005 3006 302a 302e",
  "3031 3036 303b 303c 3099 309f 30fc 30ff a015 a016 a4f8 a4fe a60c a60d a66f a673 a674 a67e",
  "a67f a680 a69c a6a0 a6f0 a6f2 a700 a722 a770 a771 a788 a78b a7f1 a7f5 a7f8 a7fa a802 a803",
  "a806 a807 a80b a80c a825 a827 a82c a82d a8c4 a8c6 a8e0 a8f2 a8ff a900 a926 a92e a947 a952",
  "a980 a983 a9b3 a9b4 a9b6 a9ba a9bc a9be a9cf a9d0 a9e5 a9e7 aa29 aa2f aa31 aa33 aa35 aa37",
  "aa43 aa44 aa4c aa4d aa70 aa71 aa7c aa7d aab0 aab1 aab2 aab5 aab7 aab9 aabe aac0 aac1 aac2",
  "aadd aade aaec aaee aaf3 aaf5 aaf6 aaf7 ab5b ab60 ab69 ab6c abe5 abe6 abe8 abe9 abed abee",
  "fb1e fb1f fbb2 fbc3 fe00 fe10 fe13 fe14 fe20 fe30 fe52 fe53 fe55 fe56 feff ff00 ff07 ff08",
  "ff0e ff0f ff1a ff1b ff3e ff3f ff40 ff41 ff70 ff71 ff9e ffa0 ffe3 ffe4 fff9 fffc 101fd 101fe",
  "102e0 102e1 10376 1037b 10780 10786 10787 107b1 107b2 107bb 10a01 10a04 10a05 10a07 10a0c",
  "10a10 10a38 10a3b 10a3f 10a40 10ae5 10ae7 10d24 10d28 10d4e 10d4f 10d69 10d6e 10d6f 10d70",
  "10eab 10ead 10ec5 10ec6 10efa 10f00 10f46 10f51 10f82 10f86 11001 11002 11038 11047 11070",
  "11071 11073 11075 1107f 11082 110b3 110b7 110b9 110bb 110bd 110be 110c2 110c3 110cd 110ce",
  "11100 11103 11127 1112c 1112d 11135 11173 11174 11180 11182 111b6 111bf 111c9 111cd 111cf",
  "111d0 1122f 11232 11234 11235 11236 11238 1123e 1123f 11241 11242 112df 112e0 112e3 112eb",
  "11300 11302 1133b 1133d 11340 11341 11366 1136d 11370 11375 113bb 113c1 113ce 113cf 113d0",
  "113d1 113d2 113d3 113e1 113e3 11438 11440 11442 11445 11446 11447 1145e 1145f 114b3 114b9",
  "114ba 114bb 114bf 114c1 114c2 114c4 115b2 115b6 115bc 115be 115bf 115c1 115dc 115de 11633",
  "1163b 1163d 1163e 1163f 11641 116ab 116ac 116ad 116ae 116b0 116b6 116b7 116b8 1171d 1171e",
  "1171f 11720 11722 11726 11727 1172c 1182f 11838 11839 1183b 1193b 1193d 1193e 1193f 11943",
  "11944 119d4 119d8 119da 119dc 119e0 119e1 11a01 11a0b 11a33 11a39 11a3b 11a3f 11a47 11a48",
  "11a51 11a57 11a59 11a5c 11a8a 11a97 11a98 11a9a 11b60 11b61 11b62 11b65 11b66 11b67 11c30",
  "11c37 11c38 11c3e 11c3f 11c40 11c92 11ca8 11caa 11cb1 11cb2 11cb4 11cb5 11cb7 11d31 11d37",
  "11d3a 11d3b 11d3c 11d3e 11d3f 11d46 11d47 11d48 11d90 11d92 11d95 11d96 11d97 11d98 11dd9",
  "11dda 11ef3 11ef5 11f00 11f02 11f36 11f3b 11f40 11f41 11f42 11f43 11f5a 11f5b 13430 13441",
  "13447 13456 1611e 1612a 1612d 16130 16af0 16af5 16b30 16b37 16b40 16b44 16d40 16d43 16d6b",
  "16d6d 16f4f 16f50 16f8f 16fa0 16fe0 16fe2 16fe3 16fe5 16ff2 16ff4 1aff0 1aff4 1aff5 1affc",
  "1affd 1afff 1bc9d 1bc9f 1bca0 1bca4 1cf00 1cf2e 1cf30 1cf47 1d167 1d16a 1d173 1d183 1d185",
  "1d18c 1d1aa 1d1ae 1d242 1d245 1da00 1da37 1da3b 1da6d 1da75 1da76 1da84 1da85 1da9b 1daa0",
  "1daa1 1dab0 1e000 1e007 1e008 1e019 1e01b 1e022 1e023 1e025 1e026 1e02b 1e030 1e06e 1e08f",
  "1e090 1e130 1e13e 1e2ae 1e2af 1e2ec 1e2f0 1e4eb 1e4f0 1e5ee 1e5f0 1e6e3 1e6e4 1e6e6 1e6e7",
  "1e6ee 1e6f0 1e6f5 1e6f6 1e6ff 1e700 1e8d0 1e8d7 1e944 1e94c 1f3fb 1f400 e0001 e0002 e0020",
  "e0080 e0100 e01f0"]

/-- The uppercase runs, by first code point. -/
def upperRuns : Array Run := (readRuns (InversionMap.words upperRunTable)).toArray

/-- The lowercase runs, by first code point. -/
def lowerRuns : Array Run := (readRuns (InversionMap.words lowerRunTable)).toArray

/-- The uppercase mappings to several characters. -/
def upperSpecial : List (Nat × List Nat) := readSpecial (InversionMap.words upperSpecialTable)

/-- The lowercase mappings to several characters. -/
def lowerSpecial : List (Nat × List Nat) := readSpecial (InversionMap.words lowerSpecialTable)

/-- The cased characters. -/
def casedSet : InversionMap Bool := InversionMap.ofBoundaries casedTable

/-- The case-ignorable characters. -/
def ignorableSet : InversionMap Bool := InversionMap.ofBoundaries ignorableTable

/-- The position of the last run that starts at or before `n`, searched in
`[lo, hi)`. -/
def lastRunAt (runs : Array Run) (n : Nat) : Nat → Nat → Nat → Nat
  | 0, lo, _ => lo
  | fuel + 1, lo, hi =>
    if lo + 1 < hi then
      let mid := (lo + hi) / 2
      match runs[mid]? with
      | some r => if r.first ≤ n then lastRunAt runs n fuel mid hi else lastRunAt runs n fuel lo mid
      | none => lo
    else lo

/-- The image of a code point under runs, or the code point itself when no
run moves it. -/
def applyRuns (runs : Array Run) (n : Nat) : Nat :=
  match runs[lastRunAt runs n (Nat.log2 runs.size + 1) 0 runs.size]? with
  | some r =>
    if r.first ≤ n && n ≤ r.last && (n - r.first) % r.step == 0 then (n + r.delta).toNat else n
  | none => n

/-- The full uppercase form of a character. -/
def upper (c : Char) : List Char :=
  match upperSpecial.lookup c.toNat with
  | some cs => cs.map Char.ofNat
  | none => [Char.ofNat (applyRuns upperRuns c.toNat)]

/-- The full lowercase form of a character, out of context. -/
def lower (c : Char) : List Char :=
  match lowerSpecial.lookup c.toNat with
  | some cs => cs.map Char.ofNat
  | none => [Char.ofNat (applyRuns lowerRuns c.toNat)]

/-- Whether a character is cased. -/
def isCased (c : Char) : Bool := casedSet.get c.toNat

/-- Whether a character is case-ignorable. -/
def isCaseIgnorable (c : Char) : Bool := ignorableSet.get c.toNat

/-- Whether a cased character comes first in `cs` after case-ignorable ones. -/
def casedAfterIgnorable (cs : List Char) : Bool :=
  match cs.dropWhile isCaseIgnorable with
  | c :: _ => isCased c
  | [] => false

/-- Lowercases characters; `before` holds the characters already passed, the
nearest first. -/
def lowerFrom (before : List Char) : List Char → List Char
  | [] => []
  | c :: rest =>
    let mapped :=
      if c == 'Σ' && casedAfterIgnorable before && !casedAfterIgnorable rest then ['ς']
      else lower c
    mapped ++ lowerFrom (c :: before) rest

end Case

/-- A text in uppercase, by the full mappings. -/
def toUpperText (s : String) : String := String.ofList (s.toList.flatMap Case.upper)

/-- A text in lowercase, by the full mappings and the final sigma rule. -/
def toLowerText (s : String) : String := String.ofList (Case.lowerFrom [] s.toList)

end SparqlBag
