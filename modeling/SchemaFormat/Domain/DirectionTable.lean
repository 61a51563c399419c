/-!
The writing direction of the characters that a domain name may hold, as of Unicode 17.0.0. In the
items, `a+n` are the `n` code points from `a` on, in base 16.
-/

namespace SchemaFormat.Domain

/-- The bidirectional class of a character, as far as domain names tell them apart. -/
inductive Direction where
  | leftToRight
  | rightToLeft
  | arabicLetter
  | arabicNumber
  | europeanNumber
  | europeanSeparator
  | commonSeparator
  | europeanTerminator
  | otherNeutral
  | boundaryNeutral
  | nonspacingMark
  deriving DecidableEq, Repr

/-- The characters of each class but the first; the others are written from left to right. -/
def directionItems : List (Direction × String) :=
  [(.rightToLeft, "5BE 5C0 5C3 5C6 5D0+1B 5EF+6 7C0+2B 7F4+2 7FA 7FE+18 81A 824 828 830+F 840+19 85E 10800+6
    10808 1080A+2C 10837+2 1083C 1083F+17 10857+48 108A7+9 108E0+13 108F4+2 108FB+21 10920+1A
    1093F+1B 10980+38 109BC+14 109D2+2F 10A10+4 10A15+3 10A19+1D 10A40+9 10A50+9 10A60+40
    10AC0+25 10AEB+C 10B00+36 10B40+16 10B58+1B 10B78+1A 10B99+4 10BA9+7 10C00+49 10CC0+33
    10CFA+6 10D40+10 10D6E+18 10D8E+2 10E80+2A 10EAD 10EB0+2 10F00+28 10F70+12 10F86+4 10FB0+1C
    10FE0+17 1E800+C5 1E8C7+9 1E922+22 1E94B 1E950+A 1E95E+2"),
   (.arabicLetter, "608 60B 60D 61B 61D+2E 66D+3 671+4 679+5D 6E5+2 6EE+2 6FA+14 710 712+1E 74D+59 7B1 860+B
    870+20 8A0+2A FBB2+21 FD90+2 FDC8+7 FE73 10D00+24 10EC2+6 10ED0+9 10F30+16 10F51+9 1EC71+44
    1ED01+3D"),
   (.arabicNumber, "660+A 66B+2 10D30+A 10E60+1F"),
   (.europeanNumber, "30+A 6F0+A 102E1+1B"),
   (.europeanSeparator, "2B 2D 2212"),
   (.commonSeparator, "2C 2E+2 3A 60C 2044"),
   (.europeanTerminator, "23+3 A2+4 B0+2 58F 609+2 66A 9F2+2 9FB AF1 BF9 E3F 17DB 2030+3 20A0+8 20A9+19 212E 2213
    A838+2 11FDD+4 1E2FF"),
   (.otherNeutral, "21+2 26+5 3B+6 5B+6 7B+4 A1 A6+2 A9 AB+2 AE B6+2 BB BF D7 F7 2B9+2 2C2+E 2D2+6 2DE+2 2E5+9
    2EF+11 375 3F6 58A 58D+2 606+2 60E+2 6DE 6E9 7F6+4 BF3+6 BFA C78+7 F3A+4 1390+A 1400 169B+2
    17F0+A 1800+B 1940 1944+2 19DE+22 2010 2012+5 2018+C 2027 2035 2038+4 203D 203F+5 2045+2
    204A+D 2058+7 2104 2108 2114 2117+2 211E+2 2123 2125 2127 2129 213A 2141+4 214A+4 218A+2
    2190+82 2214+18 222E 2231+F8 232B+B 237B+1A 2396+91 2440+B 24EB+1C1 26AD+153 2900+10C
    2A0D+67 2A77+65 2ADD+97 2B76+20 2B97+69 2CE5+6 2CF9+7 2E00+5E 2E80+1A 2E9B+4 2EA0+53 3001
    3003+2 3008+19 3030 3037 303D+3 30A0 30FB 31C0+24 4DC0+40 A490+37 A60D+3 A673 A67E+2 A700+22
    A788 A828+4 A874+4 AB6A+2 FD3E+12 FDCF FDFD+3 FE45+2 10101 10140+4D 10190+D 101A0 1091F
    10B39+7 11052+14 11660+D 11FD5+8 11FE1+11 16FE2 1D1E9+2 1D200+42 1D245 1D300+57 1EEF0+2
    1F000+2C 1F030+64 1F0A0+F 1F0B1+F 1F0C1+F 1F0D1+25 1F10B+5 1F12F 1F16D+3 1F1AD 1F260+6
    1F300+3D8 1F6DC+11 1F6F0+D 1F700+77 1F77B+5F 1F7E0+C 1F7F0 1F800+C 1F810+38 1F850+A 1F860+28
    1F890+1E 1F8B0+2 1F900+154 1FA60+E 1FA70+D 1FA80+9 1FA90+2E 1FABF+7 1FACE+E 1FAE0+9 1FAF0+9
    1FB00+93 1FB94+37"),
   (.boundaryNeutral, "0+9 E+E 7F 200C+2"),
   (.nonspacingMark, "300+40 342 346+9 350+20 483+7 591+2D 5BF 5C1+2 5C4+2 5C7 610+B 64B+15 670 6D6+7 6DF+6 6E7+2
    6EA+4 711 730+1B 7A6+B 7EB+9 7FD 816+4 81B+9 825+3 829+5 859+3 897+9 8CA+18 8E3+20 93A 93C
    941+8 94D 951+7 962+2 981 9BC 9C1+4 9CD 9E2+2 9FE A01+2 A3C A41+2 A47+2 A4B+3 A51 A70+2 A75
    A81+2 ABC AC1+5 AC7+2 ACD AE2+2 AFA+6 B01 B3C B3F B41+4 B4D B55+2 B62+2 B82 BC0 BCD C00 C04
    C3C C3E+3 C46+3 C4A+4 C55+2 C62+2 C81 CBC CCC+2 CE2+2 D00+2 D3B+2 D41+4 D4D D62+2 D81 DCA
    DD2+3 DD6 E31 E34+7 E47+8 EB1 EB4+9 EC8+7 F18+2 F35 F37 F39 F71+2 F74 F7A+5 F80 F82+3 F86+2
    F8D+6 F94+4 F99+4 F9E+4 FA3+4 FA8+4 FAD+C FBA+3 FC6 102D+4 1032+6 1039+2 103D+2 1058+2
    105E+3 1071+4 1082 1085+2 108D 109D 135D+3 1712+3 1732+2 1752+2 1772+2 17B7+7 17C6 17C9+B
    17DD 1885+2 18A9 1920+3 1927+2 1932 1939+3 1A17+2 1A1B 1A56 1A58+7 1A60 1A62 1A65+8 1A73+A
    1A7F 1AB0+2E 1AE0+C 1B00+4 1B34 1B36+5 1B3C 1B42 1B6B+9 1B80+2 1BA2+4 1BA8+2 1BAB+3 1BE6
    1BE8+2 1BED 1BEF+3 1C2C+8 1C36+2 1CD0+3 1CD4+D 1CE2+7 1CED 1CF4 1CF8+2 1DC0+40 20D0+21
    2CEF+3 2D7F 2DE0+20 302A+4 3099+2 A66F+4 A674+A A69E+2 A6F0+2 A802 A806 A80B A825+2 A82C
    A8C4+2 A8E0+12 A8FF A926+8 A947+B A980+3 A9B3 A9B6+4 A9BC+2 A9E5 AA29+6 AA31+2 AA35+2 AA43
    AA4C AA7C AAB0 AAB2+3 AAB7+2 AABE+2 AAC1 AAEC+2 AAF6 ABE5 ABE8 ABED FB1E FE20+10 101FD 102E0
    10376+5 10A01+3 10A05+2 10A0C+4 10A38+3 10A3F 10AE5+2 10D24+4 10D69+5 10EAB+2 10EFA+6
    10F46+B 10F82+4 11001 11038+F 11070 11073+2 1107F+3 110B3+4 110B9+2 110C2 11100+3 11127+5
    1112D+8 11173 11180+2 111B6+9 111C9+4 111CF 1122F+3 11234 11236+2 1123E 11241 112DF 112E3+8
    11300+2 1133B+2 11340 11366+7 11370+5 113BB+6 113CE 113D0 113D2 113E1+2 11438+8 11442+3
    11446 1145E 114B3+6 114BA 114BF+2 114C2+2 115B2+4 115BC+2 115BF+2 115DC+2 11633+8 1163D
    1163F+2 116AB 116AD 116B0+6 116B7 1171D+3 11722+4 11727+5 1182F+9 11839+2 1193B+2 1193E
    11943 119D4+4 119DA+2 119E0 11A01+6 11A09+2 11A33+6 11A3B+4 11A47 11A51+6 11A59+3 11A8A+D
    11A98+2 11B60 11B62+3 11B66 11C30+7 11C38+6 11C92+16 11CAA+7 11CB2+2 11CB5+2 11D31+6 11D3A
    11D3C+2 11D3F+7 11D47 11D90+2 11D95 11D97 11EF3+2 11F00+2 11F36+5 11F40 11F42 11F5A 13440
    13447+F 1611E+C 1612D+3 16AF0+5 16B30+7 16F4F 16F8F+4 16FE4 1BC9D+2 1CF00+2E 1CF30+17
    1D167+3 1D17B+8 1D185+7 1D1AA+4 1D242+3 1DA00+37 1DA3B+32 1DA75 1DA84 1DA9B+5 1DAA1+F
    1E000+7 1E008+11 1E01B+7 1E023+2 1E026+5 1E08F 1E130+7 1E2AE 1E2EC+4 1E4EC+4 1E5EE+2 1E6E3
    1E6E6 1E6EE+2 1E6F5 1E8D0+7 1E944+7")]

end SchemaFormat.Domain
