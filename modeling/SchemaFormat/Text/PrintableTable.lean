/-!
Characters that cannot be shown by themselves, as of Unicode 17.0.0. In the items, `a+n` are the `n`
code points from `a` on, in base 16.
-/

namespace SchemaFormat.Text

/-- Controls, format characters, unassigned and private characters, separators other than the space.
-/
def unprintableItems : String :=
  "0+20 7F+22 AD 378+2 380+4 38B 38D 3A2 530 557+2 58B+2 590 5C8+8 5EB+4 5F5+11 61C 6DD 70E+2
  74B+2 7B2+E 7FB+2 82E+2 83F 85C+2 85F 86B+5 890+7 8E2 984 98D+2 991+2 9A9 9B1 9B3+3 9BA+2
  9C5+2 9C9+2 9CF+8 9D8+4 9DE 9E4+2 9FF+2 A04 A0B+4 A11+2 A29 A31 A34 A37 A3A+2 A3D A43+4 A49+2
  A4E+3 A52+7 A5D A5F+7 A77+A A84 A8E A92 AA9 AB1 AB4 ABA+2 AC6 ACA ACE+2 AD1+F AE4+2 AF2+7 B00
  B04 B0D+2 B11+2 B29 B31 B34 B3A+2 B45+2 B49+2 B4E+7 B58+4 B5E B64+2 B78+A B84 B8B+3 B91 B96+3
  B9B B9D BA0+3 BA5+3 BAB+3 BBA+4 BC3+3 BC9 BCE+2 BD1+6 BD8+E BFB+5 C0D C11 C29 C3A+2 C45 C49
  C4E+7 C57 C5B C5E+2 C64+2 C70+7 C8D C91 CA9 CB4 CBA+2 CC5 CC9 CCE+7 CD7+5 CDF CE4+2 CF0 CF4+C
  D0D D11 D45 D49 D50+4 D64+2 D80 D84 D97+3 DB2 DBC DBE+2 DC7+3 DCB+4 DD5 DD7 DE0+6 DF0+2 DF5+C
  E3B+4 E5C+25 E83 E85 E8B EA4 EA6 EBE+2 EC5 EC7 ECF EDA+2 EE0+20 F48 F6D+4 F98 FBD FCD FDB+25
  10C6 10C8+5 10CE+2 1249 124E+2 1257 1259 125E+2 1289 128E+2 12B1 12B6+2 12BF 12C1 12C6+2 12D7
  1311 1316+2 135B+2 137D+3 139A+6 13F6+2 13FE+2 1680 169D+3 16F9+7 1716+9 1737+9 1754+C 176D
  1771 1774+C 17DE+2 17EA+6 17FA+6 180E 181A+6 1879+7 18AB+5 18F6+A 191F 192C+4 193C+4 1941+3
  196E+2 1975+B 19AC+4 19CA+6 19DB+3 1A1C+2 1A5F 1A7D+2 1A8A+6 1A9A+6 1AAE+2 1ADE+2 1AEC+14 1B4D
  1BF4+8 1C38+3 1C4A+3 1C8B+5 1CBB+2 1CC8+8 1CFB+5 1F16+2 1F1E+2 1F46+2 1F4E+2 1F58 1F5A 1F5C
  1F5E 1F7E+2 1FB5 1FC5 1FD4+2 1FDC 1FF0+2 1FF5 1FFF+11 2028+8 205F+11 2072+2 208F 209D+3 20C2+E
  20F1+F 218C+4 242A+16 244B+15 2B74+2 2CF4+5 2D26 2D28+5 2D2E+2 2D68+7 2D71+E 2D97+9 2DA7 2DAF
  2DB7 2DBF 2DC7 2DCF 2DD7 2DDF 2E5E+22 2E9A 2EF4+C 2FD6+1A 3000 3040 3097+2 3100+5 3130 318F
  31E6+9 321F A48D+3 A4C7+9 A62C+14 A6F8+8 A7DD+14 A82D+3 A83A+6 A878+8 A8C6+8 A8DA+6 A954+B
  A97D+3 A9CE A9DA+4 A9FF AA37+9 AA4E+2 AA5A+2 AAC3+18 AAF7+A AB07+2 AB0F+2 AB17+9 AB27 AB2F
  AB6C+4 ABEE+2 ABFA+6 D7A4+C D7C7+4 D7FC+4 E000+1900 FA6E+2 FADA+26 FB07+C FB18+5 FB37 FB3D
  FB3F FB42 FB45 FDD0+20 FE1A+6 FE53 FE67 FE6C+4 FE75 FEFD+4 FFBF+3 FFC8+2 FFD0+2 FFD8+2 FFDD+3
  FFE7 FFEF+D FFFE+2 1000C 10027 1003B 1003E 1004E+2 1005E+22 100FB+5 10103+4 10134+3 1018F
  1019D+3 101A1+2F 101FE+82 1029D+3 102D1+F 102FC+4 10324+9 1034B+5 1037B+5 1039E 103C4+4
  103D6+2A 1049E+2 104AA+6 104D4+4 104FC+4 10528+8 10564+B 1057B 1058B 10593 10596 105A2 105B2
  105BA 105BD+3 105F4+C 10737+9 10756+A 10768+18 10786 107B1 107BB+45 10806+2 10809 10836
  10839+3 1083D+2 10856 1089F+8 108B0+30 108F3 108F6+5 1091C+3 1093A+5 1095A+26 109B8+4 109D0+2
  10A04 10A07+5 10A14 10A18 10A36+2 10A3B+4 10A49+7 10A59+7 10AA0+20 10AE7+4 10AF7+9 10B36+3
  10B56+2 10B73+5 10B92+7 10B9D+C 10BB0+50 10C49+37 10CB3+D 10CF3+7 10D28+8 10D3A+6 10D66+3
  10D86+8 10D90+D0 10E7F 10EAA 10EAE+2 10EB2+10 10EC8+8 10ED9+21 10F28+8 10F5A+16 10F8A+26
  10FCC+14 10FF7+9 1104E+4 11076+9 110BD 110C3+D 110E9+7 110FA+6 11135 11148+8 11177+9 111E0
  111F5+B 11212 11242+3E 11287 11289 1128E 1129E 112AA+6 112EB+5 112FA+6 11304 1130D+2 11311+2
  11329 11331 11334 1133A 11345+2 11349+2 1134E+2 11351+6 11358+5 11364+2 1136D+3 11375+B 1138A
  1138C+2 1138F 113B6 113C1 113C3+2 113C6 113CB 113D6 113D9+8 113E3+1D 1145C 11462+1E 114C8+8
  114DA+A6 115B6+2 115DE+22 11645+B 1165A+6 1166D+13 116BA+6 116CA+6 116E4+1C 1171B+2 1172C+4
  11747+B9 1183C+64 118F3+C 11907+2 1190A+2 11914 11917 11936 11939+2 11947+9 1195A+46 119A8+2
  119D8+2 119E5+1B 11A48+8 11AA3+D 11AF9+7 11B0A+56 11B68+58 11BE2+E 11BFA+6 11C09 11C37 11C46+A
  11C6D+3 11C90+2 11CA8 11CB7+49 11D07 11D0A 11D37+3 11D3B 11D3E 11D48+8 11D5A+6 11D66 11D69
  11D8F 11D92 11D99+7 11DAA+6 11DDC+4 11DEA+F6 11EF9+7 11F11 11F3B+3 11F5B+55 11FB1+F 11FF2+D
  1239A+66 1246F 12475+B 12544+A4C 12FF3+D 13430+10 13456+A 143FB+5 14647+1AB9 1613A+6C6 16A39+7
  16A5F 16A6A+4 16ABF 16ACA+6 16AEE+2 16AF6+A 16B46+A 16B5A 16B62 16B78+5 16B90+1B0 16D7A+C6
  16E9B+5 16EB9+2 16ED4+2C 16F4B+4 16F88+7 16FA0+40 16FE5+B 16FF7+9 18CD6+29 18D1F+61 18DF3+21FD
  1AFF4 1AFFC 1AFFF 1B123+F 1B133+1D 1B153+2 1B156+E 1B168+8 1B2FC+904 1BC6B+5 1BC7D+3 1BC89+7
  1BC9A+2 1BCA0+F60 1CCFD+3 1CEB4+6 1CED1+F 1CEF1+F 1CF2E+2 1CF47+9 1CFC4+3C 1D0F6+A 1D127+2
  1D173+8 1D1EB+15 1D246+7A 1D2D4+C 1D2F4+C 1D357+9 1D379+87 1D455 1D49D 1D4A0+2 1D4A3+2 1D4A7+2
  1D4AD 1D4BA 1D4BC 1D4C4 1D506 1D50B+2 1D515 1D51D 1D53A 1D53F 1D545 1D547+3 1D551 1D6A6+2
  1D7CC+2 1DA8C+F 1DAA0 1DAB0+450 1DF1F+6 1DF2B+D5 1E007 1E019+2 1E022 1E025 1E02B+5 1E06E+21
  1E090+70 1E12D+3 1E13E+2 1E14A+4 1E150+140 1E2AF+11 1E2FA+5 1E300+1D0 1E4FA+D6 1E5FB+4
  1E600+C0 1E6DF 1E6F6+8 1E700+E0 1E7E7 1E7EC 1E7EF 1E7FF 1E8C5+2 1E8D7+29 1E94C+4 1E95A+4
  1E960+311 1ECB5+4C 1ED3E+C2 1EE04 1EE20 1EE23 1EE25+2 1EE28 1EE33 1EE38 1EE3A 1EE3C+6 1EE43+4
  1EE48 1EE4A 1EE4C 1EE50 1EE53 1EE55+2 1EE58 1EE5A 1EE5C 1EE5E 1EE60 1EE63 1EE65+2 1EE6B 1EE73
  1EE78 1EE7D 1EE7F 1EE8A 1EE9C+5 1EEA4 1EEAA 1EEBC+34 1EEF2+10E 1F02C+4 1F094+C 1F0AF+2 1F0C0
  1F0D0 1F0F6+A 1F1AE+38 1F203+D 1F23C+4 1F249+7 1F252+E 1F266+9A 1F6D9+3 1F6ED+3 1F6FD+3
  1F7DA+6 1F7EC+4 1F7F1+F 1F80C+4 1F848+8 1F85A+6 1F888+8 1F8AE+2 1F8BC+4 1F8C2+E 1F8D9+27
  1FA58+8 1FA6E+2 1FA7D+3 1FA8B+3 1FAC7 1FAC9+4 1FADD+2 1FAEB+4 1FAF9+7 1FB93 1FBFB+405 2A6E0+20
  2B81E+2 2CEAE+2 2EBE1+F 2EE5E+9A2 2FA1E+5E2 3134B+5 3347A+ACC86 E01F0+2FE10"

/-- Characters that are shown as part of the one before them. -/
def extendingItems : String :=
  "300+70 483+7 591+2D 5BF 5C1+2 5C4+2 5C7 610+B 64B+15 670 6D6+7 6DF+6 6E7+2 6EA+4 711 730+1B
  7A6+B 7EB+9 7FD 816+4 81B+9 825+3 829+5 859+3 897+9 8CA+18 8E3+20 93A 93C 941+8 94D 951+7
  962+2 981 9BC 9BE 9C1+4 9CD 9D7 9E2+2 9FE A01+2 A3C A41+2 A47+2 A4B+3 A51 A70+2 A75 A81+2 ABC
  AC1+5 AC7+2 ACD AE2+2 AFA+6 B01 B3C B3E+2 B41+4 B4D B55+3 B62+2 B82 BBE BC0 BCD BD7 C00 C04
  C3C C3E+3 C46+3 C4A+4 C55+2 C62+2 C81 CBC CBF+2 CC2 CC6+3 CCA+4 CD5+2 CE2+2 D00+2 D3B+2 D3E
  D41+4 D4D D57 D62+2 D81 DCA DCF DD2+3 DD6 DDF E31 E34+7 E47+8 EB1 EB4+9 EC8+7 F18+2 F35 F37
  F39 F71+E F80+5 F86+2 F8D+B F99+24 FC6 102D+4 1032+6 1039+2 103D+2 1058+2 105E+3 1071+4 1082
  1085+2 108D 109D 135D+3 1712+4 1732+3 1752+2 1772+2 17B4+2 17B7+7 17C6 17C9+B 17DD 180B+3 180F
  1885+2 18A9 1920+3 1927+2 1932 1939+3 1A17+2 1A1B 1A56 1A58+7 1A60 1A62 1A65+8 1A73+A 1A7F
  1AB0+2E 1AE0+C 1B00+4 1B34+A 1B42+3 1B6B+9 1B80+2 1BA2+4 1BA8+6 1BE6 1BE8+2 1BED 1BEF+5 1C2C+8
  1C36+2 1CD0+3 1CD4+D 1CE2+7 1CED 1CF4 1CF8+2 1DC0+40 200C 20D0+21 2CEF+3 2D7F 2DE0+20 302A+6
  3099+2 A66F+4 A674+A A69E+2 A6F0+2 A802 A806 A80B A825+2 A82C A8C4+2 A8E0+12 A8FF A926+8
  A947+B A953 A980+3 A9B3 A9B6+4 A9BC+2 A9C0 A9E5 AA29+6 AA31+2 AA35+2 AA43 AA4C AA7C AAB0
  AAB2+3 AAB7+2 AABE+2 AAC1 AAEC+2 AAF6 ABE5 ABE8 ABED FB1E FE00+10 FE20+10 FF9E+2 101FD 102E0
  10376+5 10A01+3 10A05+2 10A0C+4 10A38+3 10A3F 10AE5+2 10D24+4 10D69+5 10EAB+2 10EFA+6 10F46+B
  10F82+4 11001 11038+F 11070 11073+2 1107F+3 110B3+4 110B9+2 110C2 11100+3 11127+5 1112D+8
  11173 11180+2 111B6+9 111C0 111C9+4 111CF 1122F+3 11234+4 1123E 11241 112DF 112E3+8 11300+2
  1133B+2 1133E 11340 1134D 11357 11366+7 11370+5 113B8 113BB+6 113C2 113C5 113C7+3 113CE+3
  113D2 113E1+2 11438+8 11442+3 11446 1145E 114B0 114B3+6 114BA 114BD 114BF+2 114C2+2 115AF
  115B2+4 115BC+2 115BF+2 115DC+2 11633+8 1163D 1163F+2 116AB 116AD 116B0+8 1171D 1171F 11722+4
  11727+5 1182F+9 11839+2 11930 1193B+4 11943 119D4+4 119DA+2 119E0 11A01+A 11A33+6 11A3B+4
  11A47 11A51+6 11A59+3 11A8A+D 11A98+2 11B60 11B62+3 11B66 11C30+7 11C38+6 11C3F 11C92+16
  11CAA+7 11CB2+2 11CB5+2 11D31+6 11D3A 11D3C+2 11D3F+7 11D47 11D90+2 11D95 11D97 11EF3+2
  11F00+2 11F36+5 11F40+3 11F5A 13440 13447+F 1611E+C 1612D+3 16AF0+5 16B30+7 16F4F 16F8F+4
  16FE4 16FF0+2 1BC9D+2 1CF00+2E 1CF30+17 1D165+5 1D16D+6 1D17B+8 1D185+7 1D1AA+4 1D242+3
  1DA00+37 1DA3B+32 1DA75 1DA84 1DA9B+5 1DAA1+F 1E000+7 1E008+11 1E01B+7 1E023+2 1E026+5 1E08F
  1E130+7 1E2AE 1E2EC+4 1E4EC+4 1E5EE+2 1E6E3 1E6E6 1E6EE+2 1E6F5 1E8D0+7 1E944+7 E0020+60
  E0100+F0"

end SchemaFormat.Text
