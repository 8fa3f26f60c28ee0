import TagDispatch.Text.Ranges

/-!
Two classes of characters that a quoted text spells out: those with no glyph of their own
(controls, format characters, separators other than the space, surrogates, private-use and
unassigned code points), and those that join the character before them.
-/

namespace TagDispatch.Text

/-- Code points of the general categories Cc, Cf, Cs, Co, Cn, Zl, Zp and Zs, the space apart. -/
def hidden : Ranges := .ofDeltas
  ["0 20 5f 22 c 1 2ca 2 6 4 7 1 1 1 14 1 18d 1 26 2 32 2 3 1 37 8 1b 4 6 11 16 1 c0 1 30 2 3b",
   "2 65 e 3b 2 31 2 f 1 1c 2 1 1 b 5 1f 9 4a 1 a1 1 8 2 2 2 16 1 7 1 1 3 4 2 9 2 2 2 4 8 1 4",
   "2 1 5 2 19 2 3 1 6 4 2 2 16 1 7 1 2 1 2 1 2 2 1 1 5 4 2 2 3 3 1 7 4 1 1 7 11 a 3 1 9 1 3 1",
   "16 1 7 1 2 1 5 2 a 1 3 1 3 2 1 f 4 2 c 7 7 1 3 1 8 2 2 2 16 1 7 1 2 1 5 2 9 2 2 2 3 7 3 4",
   "2 1 5 2 12 a 2 1 6 3 3 1 4 3 2 1 1 1 2 3 2 3 3 3 c 4 5 3 3 1 4 2 1 6 1 e 15 5 d 1 3 1 17 1",
   "10 2 9 1 3 1 4 7 2 1 3 2 1 2 4 2 a 7 16 1 3 1 17 1 a 1 5 2 9 1 3 1 4 7 2 6 2 1 4 2 a 1 3 c",
   "d 1 3 1 33 1 3 1 6 4 10 2 1a 1 3 1 12 3 18 1 9 1 1 2 7 3 1 4 6 1 1 1 8 6 a 2 3 c 3a 4 1d",
   "25 2 1 1 1 5 1 18 1 1 1 17 2 5 1 1 1 7 1 a 2 4 20 48 1 24 4 27 1 24 1 f 1 d 25 c6 1 1 5 1",
   "2 179 1 4 2 7 1 1 1 4 2 29 1 4 2 21 1 4 2 7 1 1 1 4 2 f 1 39 1 4 2 43 2 20 3 1a 6 56 2 6 2",
   "280 1 1c 3 59 7 16 9 18 9 14 c d 1 3 1 2 c 5e 2 a 6 a 6 e 1 b 6 59 7 2b 5 46 a 1f 1 c 4 c",
   "4 1 3 2a 2 5 b 2c 4 1a 6 b 3 3e 2 41 1 1d 2 b 6 a 6 e 2 1f 31 4d 3 2f 1 74 8 3c 3 f 3 3c 7",
   "2b 2 b 8 2b 5 216 2 6 2 26 2 6 2 8 1 1 1 1 1 1 1 1f 2 35 1 f 1 e 2 6 1 13 2 3 1 9 11 18 8",
   "2f 11 2 2 1b 1 d 3 21 f 21 f 8c 4 297 19 b 15 714 2 20 1 15d 5 2d 1 1 5 1 2 38 7 2 e 18 9",
   "7 1 7 1 7 1 7 1 7 1 7 1 7 1 7 1 7e 22 1a 1 59 c d6 1a 10 1 3f 1 56 2 67 5 2b 1 5e 1 54 b",
   "30 1 726d 3 37 9 15c 14 b8 8 cb 5 2 1 1 1 5 18 3b 3 a 6 38 8 46 8 c 6 74 b 1e 3 4e 1 b 4",
   "21 1 37 9 e 2 a 2 67 18 1c a 6 2 6 2 6 9 7 1 7 1 3c 4 7e 2 a 6 2ba4 c 17 4 31 2104 16e 2",
   "6a 26 7 c 5 5 1a 1 5 1 1 1 2 1 2 1 7d 10 1bd 2 36 7 1 20 2a 6 33 1 13 1 4 4 5 1 87 4 be 3",
   "6 2 6 2 6 2 3 3 7 1 7 d 2 2 c 1 1a 1 13 1 2 1 f 2 e 22 7b 5 3 4 2d 3 58 1 d 3 1 2f 2e 82",
   "1d 3 31 f 1c 4 24 9 1e 5 2b 5 1e 1 25 4 e 2a 9e 2 a 6 24 4 24 4 28 8 34 b c 1 f 1 7 1 2 1",
   "b 1 f 1 7 1 2 43 137 9 16 a 8 18 6 1 2a 1 9 45 6 2 1 1 2c 1 2 3 1 2 17 1 48 8 9 30 13 1 2",
   "5 21 3 1b 5 1 40 38 4 14 2 32 1 2 5 8 1 3 1 1d 2 3 4 a 7 9 7 40 20 27 4 c 9 36 3 1d 2 1b 5",
   "1a 7 4 c 7 50 49 37 33 d 33 7 2e 8 a 126 1f 1 2a 1 3 2 2 4b 2b 8 2a 16 1a 26 1c 14 17 9 4e",
   "4 24 9 3e 1 5 d 19 7 a 6 35 1 12 8 27 9 60 1 14 b 12 1 2f 3e 7 1 1 1 4 1 f 1 b 6 3b 5 a 6",
   "4 1 8 2 2 2 16 1 7 1 2 1 5 1 a 2 2 2 3 2 1 6 1 5 7 2 7 3 5 8b 5c 1 5 1e 48 8 a a6 36 2 26",
   "22 45 b a 6 d 13 3a 6 a 36 1b 2 f 4 17 b9 3c 64 53 c 8 2 1 2 8 1 2 1 1e 1 2 2 c 9 a 46 8 2",
   "2e 2 b 1b 48 8 53 d 49 7 a f6 9 1 2d 1 e a 1d 3 20 2 16 1 e 49 7 1 2 1 2c 3 1 1 2 1 9 8 a",
   "6 6 1 2 1 25 1 2 1 6 7 a 136 19 7 11 1 29 3 1c 56 1 f 32 d 39b 66 6f 1 5 b c4 a4c 63 d 430",
   "10 16 faa 247 21b9 239 7 1f 1 a 4 51 1 a 6 1e 2 6 a 46 a a 1 7 1 15 5 13 2b0 5b 65 4b 4 39",
   "7 11 40 5 b 2 e 17f8 8 4d6 2a 9 22e7 4 1 7 1 2 1 123 f 1 1d 3 2 1 e 4 8 18c 904 6b 5 d 3 9",
   "7 a 2 4 1260 2e 2 17 9 74 3c f6 a 27 2 4a 8 70 15 46 7a 14 c 14 c 57 9 19 87 55 1 47 1 2 2",
   "1 2 2 2 4 1 c 1 1 1 7 1 41 1 4 2 8 1 7 1 1c 1 4 1 5 1 1 3 7 1 154 2 124 2 2be f 5 1 f 450",
   "1f 6 6 d5 7 1 11 2 7 1 2 1 5 5 3e 21 1 70 2d 3 e 2 a 4 2 140 1f 11 3a 5 1 1d0 2a 2e6 7 1 4",
   "1 2 1 f 1 c5 2 10 29 4c 4 a 4 2 311 44 4c 3d c2 4 1 1b 1 2 1 1 2 1 1 a 1 4 1 1 1 1 6 1 4 1",
   "1 1 1 1 1 3 1 2 1 1 2 1 1 1 1 1 1 1 1 1 1 2 1 1 2 4 1 7 1 4 1 4 1 1 1 a 1 11 5 3 1 5 1 11",
   "34 2 10e 2c 4 64 c f 2 f 1 f 1 25 a ae 38 1d d 2c 4 9 7 2 e 6 9a 3d8 4 11 3 d 3 77 4 5f 6",
   "c 4 1 f c 4 38 8 a 6 28 8 1e 2 2 4e 154 c e 2 d 3 9 7 2e 1 7 8 e 4 9 7 9 7 93 1 37 25 a",
   "406 a6e0 20 103a 6 de 2 1682 e 1d31 f 26e 9a2 21e 5e2 134b 5 1060 add50 f0 2fe10"]

/-- Code points with the property `Grapheme_Extend`. -/
def extenders : Ranges := .ofDeltas
  ["300 70 113 7 107 2d 1 1 1 2 1 2 1 1 48 b 30 15 10 1 65 7 2 6 2 2 1 4 23 1 1e 1b 5b b 3a 9",
   "9 1 18 4 1 9 1 3 1 5 2b 3 3c 8 2a 18 1 20 37 1 1 1 4 8 4 1 3 7 a 2 1d 1 3a 1 1 1 2 4 8 1 9",
   "1 a 2 1a 1 2 2 39 1 4 2 4 2 2 3 3 1 1e 2 3 1 b 2 39 1 4 5 1 2 4 1 14 2 16 6 1 1 3a 1 1 2 1",
   "4 8 1 7 3 a 2 1e 1 3b 1 1 1 c 1 9 1 28 1 3 1 37 1 1 3 5 3 1 4 7 2 b 2 1d 1 3a 1 2 1 2 1 3",
   "1 5 2 7 2 b 2 1c 2 39 2 1 1 2 4 8 1 9 1 a 2 1d 1 48 1 4 1 2 3 1 1 8 1 51 1 2 7 c 8 62 1 2",
   "9 b 7 49 2 1b 1 1 1 1 1 37 e 1 5 1 2 5 b 1 24 9 1 66 4 1 6 1 2 2 2 19 2 4 3 10 4 d 1 2 2 6",
   "1 f 1 2bf 3 3b2 3 1d 2 1e 2 1e 2 40 2 1 7 8 1 2 b 9 1 2d 3 1 1 75 2 22 1 76 3 4 2 9 1 6 3",
   "db 2 2 1 3a 1 1 7 1 1 1 1 2 8 6 a 2 1 30 1f 31 4 30 7 1 1 5 1 28 9 c 2 20 4 2 2 1 3 38 1 1",
   "2 3 1 1 3 3a 8 2 2 98 3 1 d 1 7 4 1 6 1 3 2 c6 40 20c 1 c3 21 bfe 3 8d 1 60 20 22a 6 69 2",
   "75d4 4 1 a 20 2 50 2 110 1 3 1 4 1 19 2 5 1 97 2 1a 12 d 1 26 8 19 b 2e 3 30 1 2 4 2 2 27",
   "1 43 6 2 2 2 2 c 1 8 1 2f 1 33 1 1 3 2 2 5 2 1 1 2a 2 8 1 ee 1 2 1 4 1 4f30 1 2e1 10 10 10",
   "16e 2 25d 1 e2 1 95 5 686 3 1 2 5 4 28 3 4 1 a5 2 23d 4 183 2 50 3 46 b 31 4 7b 1 36 f 29",
   "1 2 2 a 3 31 4 2 2 7 1 3d 3 24 5 1 8 3e 1 c 2 34 9 a 4 2 1 5f 3 2 1 1 2 6 1 2 1 9d 1 3 8",
   "15 2 39 2 1 1 1 1 16 1 e 7 3 5 c3 8 2 3 1 1 17 1 51 1 2 6 1 1 2 1 1 2 1 2 eb 1 2 4 6 2 1 2",
   "1b 2 55 8 2 1 1 2 6a 1 1 1 2 6 1 1 65 3 2 4 1 5 103 9 1 2 f5 1 a 2 1 1 4 1 90 4 2 2 4 1 20",
   "a 28 6 2 4 8 1 9 6 2 3 2e d 1 2 196 7 1 6 1 1 52 16 2 7 1 2 1 2 7a 6 3 1 1 2 1 7 1 1 48 2",
   "3 1 1 1 15b 2 b 2 34 5 5 1 1 1 14fd 1 6 f 369a 5 3b 7 418 1 3f 4 51 1 4cb8 2 1261 2e 2 17",
   "21e 1 1 3 4 5 8 8 2 7 1e 4 94 3 7bb 37 4 32 8 1 e 1 16 5 1 f 550 7 1 11 2 7 1 2 1 5 64 1",
   "a0 7 177 1 3d 4 1fc 4 3e0 7 6d 7 c16d5 60 80 f0"]

/-- The ASCII case comes first, so that only other characters consult the table. -/
def isPrintable (c : Char) : Bool :=
  if c.toNat < 0x7f then 0x20 ≤ c.toNat else !hidden.contains c.toNat

def extendsGrapheme (c : Char) : Bool :=
  0x300 ≤ c.toNat && extenders.contains c.toNat

end TagDispatch.Text
