import JsonQuery.Unicode.Ranges

/-!
Characters that do not show as characters of their own, in Unicode 17: controls, format
characters, separators other than the space, marks that join the character before them,
fillers, and what is private or not assigned.
-/

namespace JsonQuery.Unicode

def hiddenText : String :=
   "0+1F 5F+21 C 252+6F 8+1 6+3 7 1 14 E0+6 A6 26+1 32+1 3+2D 1 1+1 1+1 1+8 1B+3 6+10 A+A 1
    2E+14 10 65+7 1+5 2+1 1+3 20+1 1 1E+1C 59+A 1+D 2B+8 7+2 18+3 1+8 1+2 1+6 F 19+4 1 B+4 20+F
    2A+38 37 1 4+7 4 3+6 A+1 1D 2 8+1 2+1 16 7 1+2 4+2 1 2+5 2+1 2 1+C 2 3+3 18+4 1 6+3 2+1 16 7
    2 2 2+3 3+17 4 1+6 A+1 3 1+B 1 9 3 16 7 2 5+2 4+7 1 2+2 1+E 2+3 C+6 1+7 2 8+1 2+1 16 7 2 5+2
    1+1 1+5 2+1 2+E 2 3+3 12+A 1 6+2 3 4+2 2 1 2+2 2+2 3+2 C+4 1 2+2 3 3+2 1+14 15+5 3 8 3 17
    10+2 1+2 4+12 3 2+1 2+3 A+6 A B 3 17 A 5+2 2+1 1 2+16 3 2+3 A 3+D B 3 29+1 1 2+4 3 3 2+3 3
    A+3 1A+1 2 12+2 18 9 1+1 7+8 2+5 7+6 A+1 3+B 30 2+A 8+7 D+24 2 1 5 18 1 A 2+8 1+1 5 1+8 A+1
    4+1F 18+1 1B 1 1 E 24+11 1+4 1+1 5+30 8 6 D+24 2D+3 1+5 1+1 2+1 19+1 4+2 10+3 D 2+1 6 F 28
    1+4 1+1 8F+1 E8 4+1 7 1 4+1 29 4+1 21 4+1 7 1 4+1 F 39 4+1 43+4 1D+2 1A+5 56+1 6+1 280 1C+2
    59+6 12+C 13+2 2+8 12+D D 3+E 34+1 1+6 8 2+A 9+2 A+5 A+5 B+4 A+5 59+6 5+1 22 1+4 46+9 1F+3
    4+1 3+3 2 6+6 1+2 2A+1 5+A 2C+3 1A+5 B+2 39+1 2+2 38 1+8 1 2+7 6+C A+5 A+5 E+55 30+9 4+2 8
    1D+8 C+1 20+3 2+5 38 1+1 3 1+C 30+7 2+4 F+2 3E+4 2B+1 B+A 1+C 1+6 4 6 3+1 1+4 C0+3F 116+1
    6+1 26+1 6+1 8 1 1 1 1F+1 35 F E+1 6 13+1 3 9+10 18+7 2F+10 2+1 1B D+2 22+3D 8C+3 29A+15
    B+14 714+1 179+2 2+4 2D 1+4 1+1 38+6 2+E 17+8 7 7 7 7 7 7 7 7+20 5E+21 1A 59+B D6+19 10 29+5
    10 56+3 65+4 2B 33 2A 56+8 30 726D+2 37+8 15C+13 2F+3 1+9 20+1 50+1 6+7 DD+13 11 3 4 19+1
    5+3 A+5 38+7 44+9 C+17 D 26+7 19+A 1+B 1E+5 30 2+3 2+1 2 D B+3 7 19 29+5 2+1 2+A 3 8 1+1 A+1
    20 33 1+2 2+1 5+1 1 1+17 11+1 8+A 6+1 6+1 6+8 7 7 3C+3 75 2 4+2 A+5 2BA4+B 17+3 31+2103
    16E+1 6A+25 7+B 5+4 1 18 5 1 2 2 28A+1F 10+F A+15 23 13 4+3 5 87+3 9F 1E+2 6+1 6+1 6+1 3+2 7
    7+C 2+1 C 1A 13 2 F+1 E+21 7B+4 3+3 2D+2 58 D+2 1+2E 2D+82 1D+2 31+F 1B+3 24+8 1E+4 26+9 1E
    25+3 E+29 9E+1 A+5 24+3 24+3 28+7 34+A C F 7 2 B F 7 2+2 34+B 137+8 16+9 8+17 6 2A 9+44 6+1
    1 2C 2+2 1+1 17 48+7 9+2F 13 2+4 21+2 1B+4 1B+25 38+3 14+1 2F+E 4 3 1D+9 9+6 9+6 40+1F 25+5
    C+8 36+2 1D+1 1B+4 1A+6 4+B 7+4F 49+36 33+C 33+6 2A+B A+5 26+7 18+7 2+CF 1F 2A+2 1+1 2+F 6+7
    9+26 28+7 16+A 9+15 12+3 4+25 1C+13 17+8 1 36+E 7+3 1E 2+1 1+B 31+3 2+1 2 4+D 19+6 A+8 24+4
    1+8 12+7 23 3+A 34+8 1 8+3 2 10 14+A 12 1C+2 2+3 6 2+3E 7 1 4 F B+5 2F 3+C A+7 2 8+1 2+1 16
    7 2 5+2 1 1 4+1 2+1 2+2 1+B 7+1B A 1+1 1 26 1 2+E 1 2+2 1 3 2+26 38+7 2+2 1 15 1 3+1D 30 2+5
    1 2 1+1 1+1 4+7 A+A5 2F 2+5 4+1 1+1 1B+23 33+7 2 1+1 4+A A+5 D+12 2B 1 2+7 2+5 A+5 14+1B
    1B+2 1 2+3 1+8 17+B8 2F+8 1+1 1+63 53+B 8+1 1+1 8 2 18 5 2+5 4 3+8 A+45 8+1 2A+7 4 4+1A 1+9
    28+5 2+3 8+8 1+5 2+2 2E+C 1+1 9+C 49+6 A+56 1+2 1 1+57 22+D A+5 9 26+D 1 6+9 1D+2 20+18 1+6
    1+1 1+4A 7 2 26+14 1+8 A+5 6 2 25+3 2 1 1+6 A+5 2C+3 A+F5 13+1 4+8 F 24+7 2+2 17+55 1+E 32+C
    39B+65 6F 5+A C4+A4B 63+C 430+10 6+18 F9B+4 247+1AB8 1E+B 3+2 A+6C5 239+6 1F A+3 51 A+5 1E+6
    1+9 30+6 F+9 A 7 15+4 13+1AF 3A+C5 5B+4 19+1 19+2B 4B+4 38+A D+3F 4+D 5+8 1CD6+28 20+60
    73+21FC 4 7 2 123+E 1+1C 3+1 1+D 4+7 18C+903 6B+4 D+2 9+6 A+1 1+1 1+F5F FD+2 1B4+5 17+E
    11+5E 74+3B F6+9 27+1 3C+4 3+15 2+6 1E+3 3D+14 42+2 1+79 14+B 14+B 57+8 19+86 55 47 2+1 1+1
    2+1 4 C 1 7 41 4+1 8 7 1C 4 5 1+2 7 154+1 124+1 232+36 4+31 8 E 7+473 1F+5 6+104 3E+91 2D+9
    7+1 A+3 2+13F 1E+11 2C+3 A+4 1+1CF 1C+3 A+D5 1E+1 B+3 1+BF 1F 3 2 7+1 5+8 2+DF 7 4 2 F C5+1
    9+2F 44+6 1+3 A+3 2+310 44+4B 3D+C1 4 1B 2 1+1 1 A 4 1 1+5 1+3 1 1 1 3 2 1+1 1 1 1 1 1 2 1+1
    4 7 4 4 1 A 11+4 3 5 11+33 2+10D 2C+3 64+B F+1 F F 25+9 AE+37 1D+C 2C+3 9+6 2+D 6+99 3D9+2
    11+2 D+2 DA+5 C+3 1+E C+3 38+7 A+5 28+7 1E+1 C+3 2+D 9+26 158+7 E+1 D+2 B+2 39 1+3 10+1 C+3
    A+6 93 67+404 A6E0+1F 111E+1 168E+1 1D31+E 26E+9A1 21E+5E1 134B+4 212A+DCB85"

/-- The characters that do not show as characters of their own. -/
def hidden : Ranges := rangesOfText hiddenText

end JsonQuery.Unicode
