/-!
How characters join their neighbours in a cursive script, and which characters are marks, as of
Unicode 17.0.0. In the items, `a+n` are the `n` code points from `a` on, in base 16.
-/

namespace SchemaFormat.Domain

/-- How a character joins the characters next to it. -/
inductive Joining where
  /-- On both sides. -/
  | dual
  /-- With the character after it. -/
  | left
  /-- With the character before it. -/
  | right
  /-- Not itself, but it does not come between its neighbours either. -/
  | transparent
  deriving DecidableEq, Repr

/-- The characters of each way to join; all others join nothing. -/
def joiningItems : List (Joining × String) :=
  [(.dual, "620 626 628 62A+5 633+D 641+7 649+2 66E+2 679+F 69A+26 6C1+2 6CC 6CE 6D0+2 6FA+3 6FF 712+3
    71A+4 71F+9 729 72B 72D+2 74E+B 75C+F 76D+4 772 775+3 77A+6 7CA+21 841+5 848 84A+A 855 860
    862+4 868 886 889+5 88F 8A0+A 8AF+2 8B3+6 8BA+F 1807 1820+59 1887+22 18AA A840+32 10AC0+5
    10AD3+4 10AD8+5 10ADE+3 10AEB+4 10B80 10B82 10B86+3 10B8A+2 10B8D 10B90 10BAD+2 10D01+21
    10D23 10EC3+2 10EC6+2 10F30+3 10F34+11 10F51+3 10F70+4 10F76+C 10FB0 10FB2+2 10FB8 10FBB+2
    10FBE+2 10FC1 10FC4 10FCA 1E922+22"),
   (.left, "A872 10ACD 10AD7 10D00 10FCB"),
   (.right, "622+4 627 629 62F+4 648 671+3 688+12 6C0 6C3+9 6CD 6CF 6D2+2 6D5 6EE+2 710 715+5 71E 728 72A
    72C 72F 74D 759+3 76B+2 771 773+2 778+2 840 846+2 849 854 856+3 867 869+2 870+13 88E 8AA+3
    8AE 8B1+2 8B9 10AC5 10AC7 10AC9+2 10ACE+5 10ADD 10AE1 10AE4 10AEF 10B81 10B83+3 10B89 10B8C
    10B8E+2 10B91 10BA9+4 10D22 10EC2 10F33 10F54 10F74+2 10FB4+3 10FB9+2 10FBD 10FC2+2 10FC9"),
   (.transparent, "300+40 342 346+9 350+20 483+7 591+2D 5BF 5C1+2 5C4+2 5C7 610+B 64B+15 670 6D6+7 6DF+6 6E7+2
    6EA+4 711 730+1B 7A6+B 7EB+9 7FD 816+4 81B+9 825+3 829+5 859+3 897+9 8CA+18 8E3+20 93A 93C
    941+8 94D 951+7 962+2 981 9BC 9C1+4 9CD 9E2+2 9FE A01+2 A3C A41+2 A47+2 A4B+3 A51 A70+2 A75
    A81+2 ABC AC1+5 AC7+2 ACD AE2+2 AFA+6 B01 B3C B3F B41+4 B4D B55+2 B62+2 B82 BC0 BCD C00 C04
    C3C C3E+3 C46+3 C4A+4 C55+2 C62+2 C81 CBC CBF CC6 CCC+2 CE2+2 D00+2 D3B+2 D41+4 D4D D62+2
    D81 DCA DD2+3 DD6 E31 E34+7 E47+8 EB1 EB4+9 EC8+7 F18+2 F35 F37 F39 F71+2 F74 F7A+5 F80
    F82+3 F86+2 F8D+6 F94+4 F99+4 F9E+4 FA3+4 FA8+4 FAD+C FBA+3 FC6 102D+4 1032+6 1039+2 103D+2
    1058+2 105E+3 1071+4 1082 1085+2 108D 109D 135D+3 1712+3 1732+2 1752+2 1772+2 17B7+7 17C6
    17C9+B 17DD 1885+2 18A9 1920+3 1927+2 1932 1939+3 1A17+2 1A1B 1A56 1A58+7 1A60 1A62 1A65+8
    1A73+A 1A7F 1AB0+2E 1AE0+C 1B00+4 1B34 1B36+5 1B3C 1B42 1B6B+9 1B80+2 1BA2+4 1BA8+2 1BAB+3
    1BE6 1BE8+2 1BED 1BEF+3 1C2C+8 1C36+2 1CD0+3 1CD4+D 1CE2+7 1CED 1CF4 1CF8+2 1DC0+40 20D0+21
    2CEF+3 2D7F 2DE0+20 302A+4 3099+2 A66F+4 A674+A A69E+2 A6F0+2 A802 A806 A80B A825+2 A82C
    A8C4+2 A8E0+12 A8FF A926+8 A947+B A980+3 A9B3 A9B6+4 A9BC+2 A9E5 AA29+6 AA31+2 AA35+2 AA43
    AA4C AA7C AAB0 AAB2+3 AAB7+2 AABE+2 AAC1 AAEC+2 AAF6 ABE5 ABE8 ABED FB1E FE20+10 101FD 102E0
    10376+5 10A01+3 10A05+2 10A0C+4 10A38+3 10A3F 10AE5+2 10D24+4 10D69+5 10EAB+2 10EFA+6
    10F46+B 10F82+4 11001 11038+F 11070 11073+2 1107F+3 110B3+4 110B9+2 110C2 11100+3 11127+5
    1112D+8 11173 11180+2 111B6+9 111C9+4 111CF 1122F+3 11234 11236+2 1123E 11241 112DF 112E3+8
    11300+2 1133B+2 11340 11366+7 11370+5 113BB+6 113CE 113D0 113D2 113E1+2 11438+8 11442+3
    11446 1145E 114B3+6 114BA 114BF+2 114C2+2 115B2+4 115BC+2 115BF+2 115DC+2 11633+8 1163D
    1163F+2 116AB 116AD 116B0+6 116B7 1171D 1171F 11722+4 11727+5 1182F+9 11839+2 1193B+2 1193E
    11943 119D4+4 119DA+2 119E0 11A01+A 11A33+6 11A3B+4 11A47 11A51+6 11A59+3 11A8A+D 11A98+2
    11B60 11B62+3 11B66 11C30+7 11C38+6 11C3F 11C92+16 11CAA+7 11CB2+2 11CB5+2 11D31+6 11D3A
    11D3C+2 11D3F+7 11D47 11D90+2 11D95 11D97 11EF3+2 11F00+2 11F36+5 11F40 11F42 11F5A 13440
    13447+F 1611E+C 1612D+3 16AF0+5 16B30+7 16F4F 16F8F+4 16FE4 1BC9D+2 1CF00+2E 1CF30+17
    1D167+3 1D17B+8 1D185+7 1D1AA+4 1D242+3 1DA00+37 1DA3B+32 1DA75 1DA84 1DA9B+5 1DAA1+F
    1E000+7 1E008+11 1E01B+7 1E023+2 1E026+5 1E08F 1E130+7 1E2AE 1E2EC+4 1E4EC+4 1E5EE+2 1E6E3
    1E6E6 1E6EE+2 1E6F5 1E8D0+7 1E944+8")]

def markItems : String :=
  "300+40 342 346+9 350+20 483+7 591+2D 5BF 5C1+2 5C4+2 5C7 610+B 64B+15 670 6D6+7 6DF+6 6E7+2
  6EA+4 711 730+1B 7A6+B 7EB+9 7FD 816+4 81B+9 825+3 829+5 859+3 897+9 8CA+18 8E3+21 93A+3
  93E+12 951+7 962+2 981+3 9BC 9BE+7 9C7+2 9CB+3 9D7 9E2+2 9FE A01+3 A3C A3E+5 A47+2 A4B+3 A51
  A70+2 A75 A81+3 ABC ABE+8 AC7+3 ACB+3 AE2+2 AFA+6 B01+3 B3C B3E+7 B47+2 B4B+3 B55+3 B62+2 B82
  BBE+5 BC6+3 BCA+4 BD7 C00+5 C3C C3E+7 C46+3 C4A+4 C55+2 C62+2 C81+3 CBC CBE+7 CC6+3 CCA+4
  CD5+2 CE2+2 CF3 D00+4 D3B+2 D3E+7 D46+3 D4A+4 D57 D62+2 D81+3 DCA DCF+6 DD6 DD8+8 DF2+2 E31
  E34+7 E47+8 EB1 EB4+9 EC8+7 F18+2 F35 F37 F39 F3E+2 F71+2 F74 F7A+7 F82+3 F86+2 F8D+6 F94+4
  F99+4 F9E+4 FA3+4 FA8+4 FAD+C FBA+3 FC6 102B+14 1056+4 105E+3 1062+3 1067+7 1071+4 1082+C 108F
  109A+4 135D+3 1712+4 1732+3 1752+2 1772+2 17B6+1E 17DD 1885+2 18A9 1920+C 1930+C 1A17+5 1A55+A
  1A60+1D 1A7F 1AB0+2E 1AE0+C 1B00+5 1B34+11 1B6B+9 1B80+3 1BA1+D 1BE6+E 1C24+14 1CD0+3 1CD4+15
  1CED 1CF4 1CF7+3 1DC0+40 20D0+21 2CEF+3 2D7F 2DE0+20 302A+6 3099+2 A66F+4 A674+A A69E+2 A6F0+2
  A802 A806 A80B A823+5 A82C A880+2 A8B4+12 A8E0+12 A8FF A926+8 A947+D A980+4 A9B3+E A9E5 AA29+E
  AA43 AA4C+2 AA7B+3 AAB0 AAB2+3 AAB7+2 AABE+2 AAC1 AAEB+5 AAF5+2 ABE3+8 ABEC+2 FB1E FE20+10
  101FD 102E0 10376+5 10A01+3 10A05+2 10A0C+4 10A38+3 10A3F 10AE5+2 10D24+4 10D69+5 10EAB+2
  10EFA+6 10F46+B 10F82+4 11000+3 11038+F 11070 11073+2 1107F+4 110B0+B 110C2 11100+3 11127+E
  11145+2 11173 11180+3 111B3+E 111C9+4 111CE+2 1122C+C 1123E 11241 112DF+C 11300+4 1133B+2
  1133E+7 11347+2 1134B+3 11357 11362+2 11366+7 11370+5 113B8+9 113C2 113C5 113C7+4 113CC+5
  113D2 113E1+2 11435+12 1145E 114B0+14 115AF+7 115B8+9 115DC+2 11630+11 116AB+D 1171D+F 1182C+F
  11930+6 11937+2 1193B+4 11940 11942+2 119D1+7 119DA+7 119E4 11A01+A 11A33+7 11A3B+4 11A47
  11A51+B 11A8A+10 11B60+8 11C2F+8 11C38+8 11C92+16 11CA9+E 11D31+6 11D3A 11D3C+2 11D3F+7 11D47
  11D8A+5 11D90+2 11D93+5 11EF3+4 11F00+2 11F03 11F34+7 11F3E+5 11F5A 13440 13447+F 1611E+12
  16AF0+5 16B30+7 16F4F 16F51+37 16F8F+4 16FE4 16FF0+2 1BC9D+2 1CF00+2E 1CF30+17 1D165+5 1D16D+6
  1D17B+8 1D185+7 1D1AA+4 1D242+3 1DA00+37 1DA3B+32 1DA75 1DA84 1DA9B+5 1DAA1+F 1E000+7 1E008+11
  1E01B+7 1E023+2 1E026+5 1E08F 1E130+7 1E2AE 1E2EC+4 1E4EC+4 1E5EE+2 1E6E3 1E6E6 1E6EE+2 1E6F5
  1E8D0+7 1E944+7"

end SchemaFormat.Domain
