import JsonQuery.Unicode.Ranges

/-!
Letters and numbers, in Unicode 17.
-/

namespace JsonQuery.Unicode

def letterText : String :=
   "41+19 6+19 2F A 4 5+16 1+1E 1+1C9 4+B E+4 7 1 56 1D+11 1+1 2+3 1 6 1+2 1 1+13 1+52 1+8A 8+A5
    1+25 2 6+28 27+D 1 1+1 1+1 1 8+1A 4+3 1D+A 5+37 1+6 E+65 1+7 4+7 4+2 A+2 2 10+2F D+64 18+20
    9+1 4 5+17 2+12 13+18 7+A 5+17 1+6 7 8+29 A+B 3+6 6+4B 1+F 1+2 4+E D+12 1+7 2+1 2+15 1+6 1
    3+3 3+7 2+1 2+1 1 8 4+1 1+4 C+1 A 4+2 1+5 4+1 2+15 1+6 1+1 1+1 1+1 4+4 4+1 2+1 4 7+3 1 11+5
    B+2 1+8 1+2 1+15 1+6 1+1 1+4 3+8 1+2 1+1 3 F+3 15+3 4+2 1+7 2+1 2+15 1+6 1+1 1+4 3+7 2+1 2+1
    9+1 4+1 1+4 D 10+1 1+5 3+2 1+3 3+1 1 1+1 3+1 3+2 3+B 4+4 3+2 1+2 3 6 28+C 1+2 1+16 1+F 3+7
    1+2 1+2 8+1 1+2 1+1 2+3 1C+3 1+7 1+2 1+16 1+9 1+4 3+7 1+2 1+2 8+1 5+2 1+3 D+2 C+C 1+2 1+28
    2+7 1+2 1+2 1 5+3 7+4 16+5 1+2 1+11 3+17 1+8 1 2+6 8+5 1 1+7 12+1 D+39 5+6 6 33+1 1 1+4 1+17
    1 1+12 1+2 2+4 1 6 E+3 20 3F+7 1+23 4+12 4+F 1+23 43+36 1 2+4 10+3F A+3 2+25 1 5 2+2A 1+14C
    1+3 2+6 1 1+3 2+28 1+3 2+20 1+3 2+6 1 1+3 2+E 1+38 1+3 2+42 25+F 10+55 2+5 3+26B 2+10 1+19
    5+4A 3+A 7+13 B+14 C+13 C+C 1+2 1+1 C+33 2+12 E 4 43+58 7+2A 5+45 A+1E 1+B 4+8 17+1D 2+4
    B+2B 4+19 36+1B 4+3E 2+13 32 17+1 B+2 31+33 1+E 1+7 33+29 2+3 A+2B 1+A E+36 16+2 A+23 2+A
    5+2A 2+2 29+3 1+5 1+1 3 5+BF 13+21 B+115 2+5 2+25 2+5 2+7 1 1 1 1+1E 2+34 1+6 1 3+2 1+6 3+3
    2+5 4+C 5+2 1+6 74 D 10+C 65 4 2+9 1 3+4 6 1 1 1+3 1+A 2+3 5+4 4 11+28 32D+33 716+E4 6+3 3+1
    C+25 1 5 2+37 7 10+16 9+6 1+6 1+6 1+6 1+6 1+6 1+6 1+6 1+1F 2F 1D5+2 19+8 7+4 2+4 4+55 6+2
    1+59 1+3 5+2A 1+5D 11+1F 30+F 200+19BF 40+568C 43+2D 2+10C 3+F A+1 14+2E 5+7 3+70 27+8 2+66
    2+51 14+14 1+20 18+33 C+43 1 2C+5 3 1+2 A+20 5+22 D+1C 3+32 1+B F 10+F A+4 1+36 9+D 12+16
    3+44 1 1 18+2 2+F 2+3 B+5 2+5 2+5 9+6 1+6 1+2A 1+D 6+7A 15+2BA3 C+16 4+30 2104+16D 2+69 26+6
    C+4 5+B 1+C 1+4 1 1+1 1+1 1+6B 21+16A 12+3F 2+35 28+B 74+4 1+86 24+19 6+19 B+58 3+5 2+5 2+5
    2+2 23+B 1+19 1+12 1+1 1+E 2+D 22+7A 45+34 10B+1C 3+30 2F+1F D+1D 5+2A 5+1D 2+23 4+7 1+4
    2A+9D 12+23 4+23 4+27 8+33 C+A 1+E 1+6 1+1 1+A 1+E 1+6 1+1 3+33 C+136 9+15 A+7 18+5 1+29 1+8
    45+5 2 1+2B 1+1 3 2+16 A+16 9+1E 41+12 1+1 A+15 A+19 6+19 26+37 6+1 40+3 1+1 5+7 1+2 1+1C
    2A+1C 3+1C 23+7 1+1B 1B+35 A+15 A+12 D+11 6E+48 37+32 D+32 D+27 22+1B 3 5+16 FA+29 1+1 3+1
    10+5 32+2 3+1C A 8+15 2A+11 2E+14 1B+16 9+45 2B+4 A+38 9 D+18 17+32 11+3 8+22 3 9+3F 1+3 9+1
    A 1 23+11 1+21 2 6+3 3E+6 1 1+3 1+E 1+9 7+38 17+3 1+7 2+1 2+15 1+6 1+1 1+4 3+7 2+1 2+1 3 6
    5+6 1C+9 1 2 1+25 1+9 1 2 1+3 1+1 3 1 2C+41 1+2 1+3 14+2 1E+41 2+1 1 B8+35 2+6 19+5 22+3E 1
    3 3B+35 2 47+1A 2+D 15+6 B9+38 67+3F 1F+7 2 2+7 1+1 1+1D 1+1 2+1 2+3 5D+7 2+2D 2+5 1 1+1
    1B+32 2+9 11+47 5 12+48 67+7 58+20 1F+8 1+2C 1+6 1 31+1D 2+15 1+D 49+6 1+1 1+2B 3 1+1 1+2 1
    2+1 18+5 1+1 1+24 1+1 1+3 1 17+2B 104+16 9+10 1+28 3+2 6F 4F+399 66+6E 11+C3 A4C+60 F+42F
    11+5 19+F9A 5+246 1AB9+2E 6D1+238 7+1E 11+4E 11+1D 12+2F 10+3 1F+14 5+12 1B0+2C D3+3F 20+18
    2+18 2C+4A 4+38 7+10 40+1 1 C+6 9+1CD5 29+1F 61+72 21FD+3 1+6 1+1 1+122 F 1D+2 2 E+3 8+18B
    904+6A 5+C 3+8 7+9 4 1761+54 1+46 1+1 2 2+1 2+3 1+B 1 1+6 1+40 1+3 2+7 1+6 1+1B 1+3 1+4 1
    3+6 1+153 2+18 1+18 1+1E 1+18 1+1E 1+18 1+1E 1+18 1+1E 1+18 1+7 734+1E 6+5 D5+6 1+10 2+6 1+1
    1+4 5+3D 21 70+2C A+6 10 141+1D 12+2B 1E4+1B E4+1D 2 CF+1E 1+15 8+1 E0+6 1+3 1+1 1+E 1+C4
    3B+43 3 3 4B4+3 1+1A 1+1 1 2 1+9 1+3 1 1 6 4 1 1 1+2 1+1 1 2 1 1 1 1 1+1 1 2+3 1+6 1+3 1+3 1
    1+9 1+10 5+2 1+4 1+10 274+19 6+19 6+19 E76+A6DF 20+111D 2+168D 2+1D30 F+26D 9A2+21D 5E2+134A
    5+2129"

/-- The alphabetic characters. -/
def letters : Ranges := rangesOfText letterText

def numberText : String :=
   "30+9 78+1 5 2+2 5A1+9 86+9 C6+9 19C+9 76+9 4+5 6C+9 76+9 76+9 2+5 6E+C 73+9 8+6 67+9 68+6
    7+12 6D+9 60+9 76+9 46+13 10C+9 46+9 2CF+13 371+2 EF+9 6+9 16+9 12C+9 80+A A5+9 6+9 B6+9
    56+9 86+9 6+9 416 3+5 6+9 C6+32 2+4 2D6+3B 4E+15 276+1D 569 309 19+8 E+2 157+3 8A+9 1E+7 1+E
    20+9 27+E 7360+9 BC+9 140+5 9A+9 26+9 C6+9 16+9 56+9 196+9 5316+9 1ED+2C C+38 11+1 155+1A
    24+3 1D 8 86+4 CA+9 3AE+7 19+6 27+8 4B+4 16+5 A0+1 2+F 2+2D 40+8 34+1 1E+2 4B+4 68+7 18+7
    29+6 14A+5 30+9 6+9 116+1E 9E+9 2A+3 70+6 86+1D 80+9 3C+9 90+9 7+13 FB+9 156+9 76+9 176+9
    66+9 6+13 4C+B 1A4+12 5D+9 296+9 56+1C E3+9 46+9 36+9 166+9 66+14 42B+6E 3CC1+9 926+9 56+9
    86+9 1+6 20E+9 106+16 15D+2 5CF9+9 5C6+13 C+13 6C+18 455+31 940+9 1A6+9 1F6+9 F7+9 2CC+8
    80+9 317+3A 1+2 1+3 4C+2C 1+E 3C2+C AE3+9"

/-- The characters that denote numbers. -/
def numbers : Ranges := rangesOfText numberText

end JsonQuery.Unicode
