import ProxyConfig.Text.Packed

/-!
# Direction of characters

The direction in which the characters of host names are written.  A character in none of the sets
is written from left to right; what no host name may hold is not classified.
-/

namespace ProxyConfig
namespace Host

open Text

/-- Letters of a script written from right to left. -/
def rightRanges : Ranges := Ranges.ofPacked "
5be 0 1 0 2 0 2 0 9 24 1cb 2a 9 1 4 0 3 17 4 0 9 0 3 0 7 28 5 0 ffa1 11b 4 e0 f 25 a a4 6 4a a 1bf
40 f 1f 16 fa 29 3 4 4e 27 48 11 4 70 d809 cf 52 21 7 14"

/-- Letters of the Arabic and related scripts. -/
def arabicLetterRanges : Ranges := Ranges.ofPacked "
608 0 2 0 1 0 d 2f 22 2 1 64 f 1 7 1 a 16 1 1d 1d 58 b 0 ae 2f 10 29 f2e8 10 2b0 0 e8c 23 19e 5 68
15 b 8 dd17 cc"

/-- Arabic digits. -/
def arabicNumberRanges : Ranges := Ranges.ofPacked "
660 9 1 1 106c3 9 126 1e"

/-- European digits. -/
def europeanNumberRanges : Ranges := Ranges.ofPacked "
30 9 6b6 9 fbe7 1a"

/-- Plus and minus signs beside European digits. -/
def separatorRanges : Ranges := Ranges.ofPacked "
2b 0 1 0 21e4 0"

/-- Signs that go with European digits, such as currency signs. -/
def terminatorRanges : Ranges := Ranges.ofPacked "
23 2 7c 3 a 1 4dd 0 79 1 5f 0 387 1 7 0 f5 0 107 0 245 0 99b 0 854 2 6d 20 6d 0 e4 0 8624 1 77a3 3
c31e 0"

/-- Signs between digits. -/
def commonSeparatorRanges : Ranges := Ranges.ofPacked "
2c 0 1 1 a 0 5d1 0 1a37 0"

/-- Characters without a direction. -/
def neutralRanges : Ranges := Ranges.ofPacked "
21 1 3 4 10 25 1a 3 22 0 4 8 7 21 1f 0 1c1 1 7 d 2 1b 1 10 75 0 80 0 193 4 77 1 6 1 ce 0 a 0 10c 3
3f9 5 1 0 7d 6 2bb 3 452 9 66 0 29a 1 153 1a 135 5 98 21 14e 1 2f 0 490 17 d e 1 19 62 0 42 25 10
13 3c 87 2 121 45 19 1 315 1 152 100 2ff e5 5 e 6 100 204 3 18 f 0 6 0 5 2 60 0 5a 0 c4 25 1bda 3f
5690 36 146 2 63 0 a 1 80 21 66 0 9f 3 48 3 2f2 1 5057 23c 45 1 2ba 0 3e 4c 3 10 77e 0 219 6 22e 0
1f 1 140 8 179 13 36e 4 287 c 493 9 d7 0 361 c 85 7 4 10 4d7b 2 272 0 5c1d 2f0 2f8 58 3 0 ba 56
12a8 0 8f0 23f 3d 2 3d 0 b2 99a"

/-- Boundary neutral characters. -/
def boundaryRanges : Ranges := Ranges.ofPacked "
0 8 5 d 63 0 1f8c 1"

/-- Marks that take the direction of their base. -/
def attachedRanges : Ranges := Ranges.ofPacked "
300 6f 113 6 107 2c 1 0 1 1 1 1 1 0 48 a 30 14 10 0 65 6 2 5 2 1 1 3 23 0 1e 1a 5b a 3a 8 9 0 18 3
1 8 1 2 1 4 2b 2 3b 8 2a 38 37 0 1 0 4 7 4 0 3 6 a 1 1d 0 3a 0 4 3 8 0 14 1 1a 4 39 0 4 10 1e 1 3
0 b 1 39 0 4 7 4 0 14 1 16 7 3a 0 2 0 1 3 8 9 b 1 1e 0 3d 0 c 0 32 0 3 0 37 0 1 2 5 10 b 1 1d 0 3a
0 f 1 14 1 1c 1 39 1 4 3 8 0 14 1 1d 0 48 0 7 4 5a 0 2 6 c 7 62 0 2 8 b 6 49 1 1b 0 1 0 1 0 37 d 1
4 1 1 5 2f 9 0 66 3 1 5 1 1 2 1 19 1 4 2 10 3 d 0 2 1 6 0 f 0 2bf 2 3b2 2 1d 1 1e 1 1e 1 43 6 8 0
2 a 9 0 a7 1 22 0 76 2 4 1 9 0 6 2 db 1 2 0 3a 0 1 8 1 0 2 7 6 c 30 53 30 0 1 4 1 0 5 0 28 8 c 1
20 3 2 1 1 2 38 0 1 1 3 0 1 2 3a 7 2 1 98 2 1 c 1 6 4 0 6 0 3 1 c6 3f 2d0 20 bfe 2 8d 0 60 1f 22a
3 6b 1 75d4 3 1 9 20 1 50 1 110 0 3 0 4 0 19 1 5 0 97 1 1a 11 d 0 26 7 19 a 2e 2 30 0 2 3 2 1 27 0
43 5 2 1 2 1 c 0 8 0 2f 0 33 0 1 2 2 1 5 1 1 0 2a 1 8 0 ee 0 2 0 4 0 4f30 0 301 f 3cd 0 e2 0 95 4
686 e 28 7 a5 1 23d 3 41 4 13d 1 4d 5 46 a 31 3 7b 0 36 e 29 0 2 1 a 2 31 3 2 1 7 0 3d 2 24 4 1 7
3e 0 c 1 34 8 a 3 2 0 5f 2 2 0 1 1 6 0 2 0 9d 0 3 7 15 1 39 1 3 0 25 e 46 5 d 0 1 0 1 0 e 1 55 7 2
2 1 0 17 0 54 5 1 0 4 1 1 1 ee 3 6 1 1 1 1b 1 55 7 2 0 1 1 6a 0 1 0 2 5 1 0 65 2 2 3 1 4 103 8 1 1
100 1 1 0 4 0 90 7 4 0 20 5 2 1 28 5 2 3 8 0 9 5 2 2 2e c 1 1 c6 0 1 2 1 0 c9 d 54 15 2 6 1 1 1 1
7a 14 1 0 48 1 3 0 1 0 15b 1 b 1 34 4 5 0 1 0 17 0 14e5 0 6 e 2cc8 b 3 2 9c0 4 3b 6 418 0 3f 3 51
0 4cb8 1 1261 46 220 2 11 7 2 6 1e 3 94 2 7bb 36 4 31 8 0 e 0 16 14 550 8f a0 6 177 0 3d 3 1fc 3
fe 1 f3 0 2 0 7 1 5 0 1da 6 6d 6"

/-- Spaces and separators of paragraphs and segments. -/
def spaceRanges : Ranges := Ranges.ofPacked "
9 4 e 4"

end Host
end ProxyConfig
