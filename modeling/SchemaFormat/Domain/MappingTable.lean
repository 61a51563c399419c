/-!
How the characters of a domain name are read before anything else is done with it: the table of
Unicode Technical Standard 46, version 17.0.0.

An item gives a first code point and a rule for it and its successors, all numbers in base 16: `v`
and a count for characters that stay, `i` and a count for characters that vanish, `a` and a count
for capitals that alternate with their small letters, `+n d` or `-n d` and a count for characters
that move by `n`, and `=` with one replacement for each character (code points joined by full
stops). Characters that no item covers may not occur.
-/

namespace SchemaFormat.Domain

/-- The items of the table, in ascending order. -/
def mappingItems : String :=
  "0v41 41+20d1A 5Bv25 A0=20 A1v7 A8=20.308 A9v1 AA=61 ABv2 ADi1 AEv1 AF=20.304 B0v2 B2-80d2
  B4=20.301,3BC B6v2 B8=20.327,31,6F BBv1 BC=31.2044.34,31.2044.32,33.2044.34 BFv1 C0+20d17 D7v1
  D8+20d7 DFv21 100a30 130=69.307 131v1 132=69.6A,69.6A,135 135v1 136=137 137v2 139a6
  13F=6C.B7,6C.B7,142 142v1 143a6 149=2BC.6E,14B 14Bv1 14Ca2C 178=FF,17A 17Av1 17Ba4 17F=73
  180v1 181=253,183 183v1 184=185 185v1 186=254,188 188v1 189+CDd2 18B=18C 18Cv2
  18E=1DD,259,25B,192 192v1 193=260,263 195v1 196=269,268,199 199v3 19C=26F,272 19Ev1
  19F=275,1A1 1A1v1 1A2a4 1A6=280,1A8 1A8v1 1A9=283 1AAv2 1AC=1AD 1ADv1 1AE=288,1B0 1B0v1
  1B1+D9d2 1B3a4 1B7=292,1B9 1B9v3 1BC=1BD 1BDv7
  1C4=64.17E,64.17E,64.17E,6C.6A,6C.6A,6C.6A,6E.6A,6E.6A,6E.6A,1CE 1CEv1 1CFaE 1DDv1 1DEa12
  1F0v1 1F1=64.7A,64.7A,64.7A,1F5 1F5v1 1F6=195,1BF,1F9 1F9v1 1FAa26 220=19E 221v1 222a12 234v6
  23A=2C65,23C 23Cv1 23D=19A,2C66 23Fv2 241=242 242v1 243=180,289,28C,247 247v1 248a8 250v60
  2B0=68,266,6A,72,279,27B,281,77,79 2B9v1F 2D8=20.306,20.307,20.30A,20.328,20.303,20.30B 2DEv2
  2E0=263,6C,73,78,295 2E5v5B 340-40d2 342v1 343=313,308.301,3B9 346v9 34Fi1 350v20 370a4
  374=2B9 375v1 376=377 377v1 37A=20.3B9 37Bv3 37E=3B,3F3 384=20.301,20.308.301,3AC,B7 388+25d3
  38C=3CC 38E+3Fd2 390v1 391+20d11 3A3+20d9 3ACv23 3CF=3D7,3B2,3B8,3C5,3CD,3CB,3C6,3C0 3D7v1
  3D8a18 3F0=3BA,3C1,3C3 3F3v1 3F4=3B8,3B5 3F6v1 3F7=3F8 3F8v1 3F9=3C3,3FB 3FBv2 3FD-82d3
  400+50d10 410+20d20 430v30 460a22 482v8 48Aa36 4C0=4CF,4C2 4C2v1 4C3aC 4CFv1 4D0a60 531+30d26
  559v2E 587=565.582 588v3 58Dv3 591v37 5D0v1B 5EFv6 606v16 61Dv58
  675=627.674,648.674,6C7.674,64A.674 679v64 6DEv30 710v3B 74Dv65 7C0v3B 7FDv31 830vF 840v1C
  85Ev1 860vB 870v20 897v4B 8E3v75
  958=915.93C,916.93C,917.93C,91C.93C,921.93C,922.93C,92B.93C,92F.93C 960v24 985v8 98Fv2 993v16
  9AAv7 9B2v1 9B6v4 9BCv9 9C7v2 9CBv4 9D7v1 9DC=9A1.9BC,9A2.9BC 9DF=9AF.9BC 9E0v4 9E6v19 A01v3
  A05v6 A0Fv2 A13v16 A2Av7 A32v1 A33=A32.A3C A35v1 A36=A38.A3C A38v2 A3Cv1 A3Ev5 A47v2 A4Bv3
  A51v1 A59=A16.A3C,A17.A3C,A1C.A3C A5Cv1 A5E=A2B.A3C A66v11 A81v3 A85v9 A8Fv3 A93v16 AAAv7
  AB2v2 AB5v5 ABCvA AC7v3 ACBv3 AD0v1 AE0v4 AE6vC AF9v7 B01v3 B05v8 B0Fv2 B13v16 B2Av7 B32v2
  B35v5 B3Cv9 B47v2 B4Bv3 B55v3 B5C=B21.B3C,B22.B3C B5Fv5 B66v12 B82v2 B85v6 B8Ev3 B92v4 B99v2
  B9Cv1 B9Ev2 BA3v2 BA8v3 BAEvC BBEv5 BC6v3 BCAv4 BD0v1 BD7v1 BE6v15 C00vD C0Ev3 C12v17 C2Av10
  C3Cv9 C46v3 C4Av4 C55v2 C58v3 C5Cv2 C60v4 C66vA C77v16 C8Ev3 C92v17 CAAvA CB5v5 CBCv9 CC6v3
  CCAv4 CD5v2 CDCv3 CE0v4 CE6vA CF1v3 D00vD D0Ev3 D12v33 D46v3 D4Av6 D54v10 D66v1A D81v3 D85v12
  D9Av18 DB3v9 DBDv1 DC0v7 DCAv1 DCFv6 DD6v1 DD8v8 DE6vA DF2v3 E01v32 E33=E4D.E32 E34v7 E3Fv1D
  E81v2 E84v1 E86v5 E8Cv18 EA5v1 EA7vC EB3=ECD.EB2 EB4vA EC0v5 EC6v1 EC8v7 ED0vA
  EDC=EAB.E99,EAB.EA1 EDEv2 F00vC F0C=F0B F0Dv36 F43=F42.FB7 F44v4 F49v4 F4D=F4C.FB7 F4Ev4
  F52=F51.FB7 F53v4 F57=F56.FB7 F58v4 F5C=F5B.FB7 F5DvC F69=F40.FB5 F6Av3 F71v2 F73=F71.F72
  F74v1 F75=F71.F74,FB2.F80,FB2.F71.F80,FB3.F80,FB3.F71.F80 F7Av7 F81=F71.F80 F82v11 F93=F92.FB7
  F94v4 F99v4 F9D=F9C.FB7 F9Ev4 FA2=FA1.FB7 FA3v4 FA7=FA6.FB7 FA8v4 FAC=FAB.FB7 FADvC
  FB9=F90.FB5 FBAv3 FBEvF FCEvD 1000vA0 10A0+1C60d26 10C7=2D27 10CD=2D2D 10D0v2C 10FC=10DC
  10FDv62 115Fi2 1161vE8 124Av4 1250v7 1258v1 125Av4 1260v29 128Av4 1290v21 12B2v4 12B8v7 12C0v1
  12C2v4 12C8vF 12D8v39 1312v4 1318v43 135Dv20 1380v1A 13A0v56 13F8-8d6 1400v280 1681v1C 16A0v59
  1700v16 171Fv18 1740v14 1760vD 176Ev3 1772v2 1780v34 17B4i2 17B6v28 17E0vA 17F0vA 1800vB
  180Bi5 1810vA 1820v59 1880v2B 18B0v46 1900v1F 1920vC 1930vC 1940v1 1944v2A 1970v5 1980v2C
  19B0v1A 19D0vB 19DEv3E 1A1Ev41 1A60v1D 1A7FvB 1A90vA 1AA0vE 1AB0v2E 1AE0vC 1B00v4D 1B4EvA6
  1BFCv3C 1C3BvF 1C4Dv33 1C80=432,434,43E,441,442,442,44A,463,A64B,1C8A 1C8Av1 1C90-BC0d2B
  1CBD-BC0d3 1CC0v8 1CD0v2B 1D00v2C 1D2C=61,E6,62 1D2Fv1 1D30-1CCCd2 1D32=1DD 1D33-1CCCd8 1D3Bv1
  1D3C=6F,223,70,72,74,75,77,61,250,251,1D02,62,64,65,259,25B,25C,67 1D4Ev1
  1D4F=6B,6D,14B,6F,254,1D16,1D17,70,74,75,1D1D,26F,76,1D25 1D5D-19ABd3 1D60-199Ad2
  1D62=69,72,75,76,3B2,3B3,3C1,3C6,3C7 1D6BvD 1D78=43D 1D79v22
  1D9B=252,63,255,F0,25C,66,25F,261,265 1DA4-1B3Cd3 1DA7=1D7B,29D,26D,1D85,29F,271,270
  1DAE-1B3Cd4 1DB2=278,282,283,1AB,289,28A,1D1C,28B,28C,7A 1DBC-1B2Cd3 1DBF=3B8 1DC0v40 1E00a96
  1E96v4 1E9A=61.2BE,1E61 1E9Cv2 1E9E=DF 1E9Fv1 1EA0a60 1F00v8 1F08-8d8 1F10v6 1F18-8d6 1F20v8
  1F28-8d8 1F30v8 1F38-8d8 1F40v6 1F48-8d6 1F50v8 1F59=1F51 1F5B=1F53 1F5D=1F55 1F5F=1F57 1F60v8
  1F68-8d8 1F70v1 1F71=3AC 1F72v1 1F73=3AD 1F74v1 1F75=3AE 1F76v1 1F77=3AF 1F78v1 1F79=3CC
  1F7Av1 1F7B=3CD 1F7Cv1 1F7D=3CE
  1F80=1F00.3B9,1F01.3B9,1F02.3B9,1F03.3B9,1F04.3B9,1F05.3B9,1F06.3B9
  1F87=1F07.3B9,1F00.3B9,1F01.3B9,1F02.3B9,1F03.3B9,1F04.3B9,1F05.3B9
  1F8E=1F06.3B9,1F07.3B9,1F20.3B9,1F21.3B9,1F22.3B9,1F23.3B9,1F24.3B9
  1F95=1F25.3B9,1F26.3B9,1F27.3B9,1F20.3B9,1F21.3B9,1F22.3B9,1F23.3B9
  1F9C=1F24.3B9,1F25.3B9,1F26.3B9,1F27.3B9,1F60.3B9,1F61.3B9,1F62.3B9
  1FA3=1F63.3B9,1F64.3B9,1F65.3B9,1F66.3B9,1F67.3B9,1F60.3B9,1F61.3B9
  1FAA=1F62.3B9,1F63.3B9,1F64.3B9,1F65.3B9,1F66.3B9,1F67.3B9 1FB0v2
  1FB2=1F70.3B9,3B1.3B9,3AC.3B9 1FB6v1
  1FB7=1FB6.3B9,1FB0,1FB1,1F70,3AC,3B1.3B9,20.313,3B9,20.313,20.342
  1FC1=20.308.342,1F74.3B9,3B7.3B9,3AE.3B9 1FC6v1
  1FC7=1FC6.3B9,1F72,3AD,1F74,3AE,3B7.3B9,20.313.300,20.313.301,20.313.342 1FD0v3 1FD3=390
  1FD6v2 1FD8-8d2 1FDA=1F76,3AF 1FDD=20.314.300,20.314.301,20.314.342 1FE0v3 1FE3=3B0 1FE4v4
  1FE8-8d2 1FEA=1F7A,3CD,1FE5,20.308.300,20.308.301,60 1FF2=1F7C.3B9,3C9.3B9,3CE.3B9 1FF6v1
  1FF7=1FF6.3B9,1F78,3CC,1F7C,3CE,3C9.3B9,20.301,20.314 2000=20,20,20,20,20,20,20,20,20,20,20
  200Bi1 200Cv2 2010v1 2011=2010 2012v5 2017=20.333 2018vC 2027v1 202F=20 2030v3
  2033=2032.2032,2032.2032.2032 2035v1 2036=2035.2035,2035.2035.2035 2038v4 203C=21.21 203Dv1
  203E=20.305 203Fv8 2047=3F.3F,3F.21,21.3F 204AvD 2057=2032.2032.2032.2032 2058v7 205F=20
  2060i5 206Ai6 2070=30,69 2074-2040d6 207A=2B,2212,3D,28,29,6E 2080-2050dA
  208A=2B,2212,3D,28,29 2090=61,65,6F,78,259,68 2096-202Bd4 209A=70,73,74 20A0v8 20A8=72.73
  20A9v19 20D0v21 2100=61.2F.63,61.2F.73,63,B0.63 2104v1 2105=63.2F.6F,63.2F.75,25B 2108v1
  2109=B0.66,67,68,68,68,68,127,69,69,6C,6C 2114v1 2115=6E,6E.6F 2117v2 2119-20A9d3 211C=72,72
  211Ev2 2120=73.6D,74.65.6C,74.6D 2123v1 2124=7A 2125v1 2126=3C9 2127v1 2128=7A 2129v1
  212A=6B,E5,62,63 212Ev1 212F=65,65,66,214E,6D,6F 2135-1B65d4 2139=69 213Av1
  213B=66.61.78,3C0,3B3,3B3,3C0,2211 2141v4 2145=64,64,65,69,6A 214Av6
  2150=31.2044.37,31.2044.39,31.2044.31.30,31.2044.33,32.2044.33,31.2044.35
  2156=32.2044.35,33.2044.35,34.2044.35,31.2044.36,35.2044.36,31.2044.38
  215C=33.2044.38,35.2044.38,37.2044.38,31.2044,69,69.69,69.69.69,69.76,76
  2165=76.69,76.69.69,76.69.69.69,69.78,78,78.69,78.69.69,6C,63,64,6D,69
  2171=69.69,69.69.69,69.76,76,76.69,76.69.69,76.69.69.69,69.78,78,78.69
  217B=78.69.69,6C,63,64,6D 2180v3 2183=2184 2184v5 2189=30.2044.33 218Av2 2190v9C
  222C=222B.222B,222B.222B.222B 222Ev1 222F=222E.222E,222E.222E.222E 2231vF8 2329+CDFd2 232BvFF
  2440vB 2460-242Fd9 2469=31.30,31.31,31.32,31.33,31.34,31.35,31.36,31.37,31.38,31.39,32.30
  2474=28.31.29,28.32.29,28.33.29,28.34.29,28.35.29,28.36.29,28.37.29
  247B=28.38.29,28.39.29,28.31.30.29,28.31.31.29,28.31.32.29,28.31.33.29
  2481=28.31.34.29,28.31.35.29,28.31.36.29,28.31.37.29,28.31.38.29 2486=28.31.39.29,28.32.30.29
  249C=28.61.29,28.62.29,28.63.29,28.64.29,28.65.29,28.66.29,28.67.29
  24A3=28.68.29,28.69.29,28.6A.29,28.6B.29,28.6C.29,28.6D.29,28.6E.29
  24AA=28.6F.29,28.70.29,28.71.29,28.72.29,28.73.29,28.74.29,28.75.29
  24B1=28.76.29,28.77.29,28.78.29,28.79.29,28.7A.29 24B6-2455d1A 24D0-246Fd1A 24EA=30 24EBv521
  2A0C=222B.222B.222B.222B 2A0Dv67 2A74=3A.3A.3D,3D.3D,3D.3D.3D 2A77v65 2ADC=2ADD.338 2ADDv97
  2B76v8A 2C00+30d30 2C30v30 2C60=2C61 2C61v1 2C62=26B,1D7D,27D 2C65v2 2C67a6
  2C6D=251,271,250,252 2C71v1 2C72=2C73 2C73v2 2C75=2C76 2C76v6 2C7C=6A,76,23F,240,2C81 2C81v1
  2C82a62 2CE4v7 2CEBa4 2CEFv3 2CF2=2CF3 2CF3v1 2CF9v2D 2D27v1 2D2Dv1 2D30v38 2D6F=2D61 2D70v1
  2D7Fv18 2DA0v7 2DA8v7 2DB0v7 2DB8v7 2DC0v7 2DC8v7 2DD0v7 2DD8v7 2DE0v7E 2E80v1A 2E9Bv4
  2E9F=6BCD 2EA0v53 2EF3=9F9F
  2F00=4E00,4E28,4E36,4E3F,4E59,4E85,4E8C,4EA0,4EBA,513F,5165,516B,5182
  2F0D=5196,51AB,51E0,51F5,5200,529B,52F9,5315,531A,5338,5341,535C,5369
  2F1A=5382,53B6,53C8,53E3,56D7,571F,58EB,5902,590A,5915,5927,5973,5B50
  2F27=5B80,5BF8,5C0F,5C22,5C38,5C6E,5C71,5DDB,5DE5,5DF1,5DFE,5E72,5E7A
  2F34=5E7F,5EF4,5EFE,5F0B,5F13,5F50,5F61,5F73,5FC3,6208,6236,624B,652F
  2F41=6534,6587,6597,65A4,65B9,65E0,65E5,66F0,6708,6728,6B20,6B62,6B79
  2F4E=6BB3,6BCB,6BD4,6BDB,6C0F,6C14,6C34,706B,722A,7236,723B,723F,7247
  2F5B=7259,725B,72AC,7384,7389,74DC,74E6,7518,751F,7528,7530,758B,7592
  2F68=7676,767D,76AE,76BF,76EE,77DB,77E2,77F3,793A,79B8,79BE,7A74,7ACB
  2F75=7AF9,7C73,7CF8,7F36,7F51,7F8A,7FBD,8001,800C,8012,8033,807F,8089
  2F82=81E3,81EA,81F3,81FC,820C,821B,821F,826E,8272,8278,864D,866B,8840
  2F8F=884C,8863,897E,898B,89D2,8A00,8C37,8C46,8C55,8C78,8C9D,8D64,8D70
  2F9C=8DB3,8EAB,8ECA,8F9B,8FB0,8FB5,9091,9149,91C6,91CC,91D1,9577,9580
  2FA9=961C,96B6,96B9,96E8,9751,975E,9762,9769,97CB,97ED,97F3,9801,98A8
  2FB6=98DB,98DF,9996,9999,99AC,9AA8,9AD8,9ADF,9B25,9B2F,9B32,9B3C,9B5A
  2FC3=9CE5,9E75,9E7F,9EA5,9EBB,9EC3,9ECD,9ED1,9EF9,9EFD,9F0E,9F13,9F20
  2FD0=9F3B,9F4A,9F52,9F8D,9F9C,9FA0 3000=20 3001v1 3002=2E 3003v33 3036=3012 3037v1
  3038=5341,5344,5345 303Bv5 3041v56 3099v2 309B=20.3099,20.309A 309Dv2 309F=3088.308A 30A0v5F
  30FF=30B3.30C8 3105v2B 3131-2031d2 3133=11AA,1102,11AC,11AD 3137-2034d3 313A-1F8Ad6 3140=111A
  3141-203Bd3 3144=1121 3145-203CdA 314F-1FEEd15 3164i1 3165-2051d2 3167-1FA0d2
  3169=11CC,11CE,11D3,11D7,11D9,111C,11DD,11DF,111D,111E,1120,1122,1123 3176=1127,1129
  3178-204Dd5 317D=1132,1136,1140,1147,114C,11F1,11F2 3184-202Dd3 3187-2003d2
  3189=1188,1191,1192,1194,119E,11A1 3190v2
  3192=4E00,4E8C,4E09,56DB,4E0A,4E2D,4E0B,7532,4E59,4E19,4E01,5929,5730 319F=4EBA 31A0v46
  31F0v10 3200=28.1100.29,28.1102.29,28.1103.29,28.1105.29,28.1106.29,28.1107.29
  3206=28.1109.29,28.110B.29,28.110C.29,28.110E.29,28.110F.29,28.1110.29
  320C=28.1111.29,28.1112.29,28.AC00.29,28.B098.29,28.B2E4.29,28.B77C.29
  3212=28.B9C8.29,28.BC14.29,28.C0AC.29,28.C544.29,28.C790.29,28.CC28.29
  3218=28.CE74.29,28.D0C0.29,28.D30C.29,28.D558.29,28.C8FC.29
  321D=28.C624.C804.29,28.C624.D6C4.29
  3220=28.4E00.29,28.4E8C.29,28.4E09.29,28.56DB.29,28.4E94.29,28.516D.29
  3226=28.4E03.29,28.516B.29,28.4E5D.29,28.5341.29,28.6708.29,28.706B.29
  322C=28.6C34.29,28.6728.29,28.91D1.29,28.571F.29,28.65E5.29,28.682A.29
  3232=28.6709.29,28.793E.29,28.540D.29,28.7279.29,28.8CA1.29,28.795D.29
  3238=28.52B4.29,28.4EE3.29,28.547C.29,28.5B66.29,28.76E3.29,28.4F01.29
  323E=28.8CC7.29,28.5354.29,28.796D.29,28.4F11.29,28.81EA.29,28.81F3.29
  3244=554F,5E7C,6587,7B8F 3248v8
  3250=70.74.65,32.31,32.32,32.33,32.34,32.35,32.36,32.37,32.38,32.39,33.30
  325B=33.31,33.32,33.33,33.34,33.35,1100,1102,1103 3263-215Ed3 3266=1109,110B,110C 3269-215Bd5
  326E=AC00,B098,B2E4,B77C,B9C8,BC14,C0AC,C544,C790,CC28,CE74,D0C0,D30C
  327B=D558,CC38.ACE0,C8FC.C758,C6B0 327Fv1
  3280=4E00,4E8C,4E09,56DB,4E94,516D,4E03,516B,4E5D,5341,6708,706B,6C34
  328D=6728,91D1,571F,65E5,682A,6709,793E,540D,7279,8CA1,795D,52B4,79D8
  329A=7537,5973,9069,512A,5370,6CE8,9805,4F11,5199,6B63,4E0A,4E2D,4E0B
  32A7=5DE6,53F3,533B,5B97,5B66,76E3,4F01,8CC7,5354,591C,33.36,33.37,33.38
  32B4=33.39,34.30,34.31,34.32,34.33,34.34,34.35,34.36,34.37,34.38,34.39
  32BF=35.30,31.6708,32.6708,33.6708,34.6708,35.6708,36.6708,37.6708
  32C7=38.6708,39.6708,31.30.6708,31.31.6708,31.32.6708,68.67,65.72.67
  32CE=65.76,6C.74.64,30A2,30A4,30A6,30A8,30AA,30AB,30AD,30AF,30B1,30B3
  32DA=30B5,30B7,30B9,30BB,30BD,30BF,30C1,30C4,30C6,30C8 32E4-21Ad6 32EA=30D2,30D5,30D8,30DB
  32EE-210d5 32F3=30E4,30E6 32F5-20Dd6 32FB-20Cd4
  32FF=4EE4.548C,30A2.30D1.30FC.30C8,30A2.30EB.30D5.30A1
  3302=30A2.30F3.30DA.30A2,30A2.30FC.30EB,30A4.30CB.30F3.30B0
  3305=30A4.30F3.30C1,30A6.30A9.30F3,30A8.30B9.30AF.30FC.30C9
  3308=30A8.30FC.30AB.30FC,30AA.30F3.30B9,30AA.30FC.30E0,30AB.30A4.30EA
  330C=30AB.30E9.30C3.30C8,30AB.30ED.30EA.30FC,30AC.30ED.30F3
  330F=30AC.30F3.30DE,30AE.30AC,30AE.30CB.30FC,30AD.30E5.30EA.30FC
  3313=30AE.30EB.30C0.30FC,30AD.30ED,30AD.30ED.30B0.30E9.30E0
  3316=30AD.30ED.30E1.30FC.30C8.30EB,30AD.30ED.30EF.30C3.30C8
  3318=30B0.30E9.30E0,30B0.30E9.30E0.30C8.30F3,30AF.30EB.30BC.30A4.30ED
  331B=30AF.30ED.30FC.30CD,30B1.30FC.30B9,30B3.30EB.30CA,30B3.30FC.30DD
  331F=30B5.30A4.30AF.30EB,30B5.30F3.30C1.30FC.30E0,30B7.30EA.30F3.30B0
  3322=30BB.30F3.30C1,30BB.30F3.30C8,30C0.30FC.30B9,30C7.30B7,30C9.30EB
  3327=30C8.30F3,30CA.30CE,30CE.30C3.30C8,30CF.30A4.30C4
  332B=30D1.30FC.30BB.30F3.30C8,30D1.30FC.30C4,30D0.30FC.30EC.30EB
  332E=30D4.30A2.30B9.30C8.30EB,30D4.30AF.30EB,30D4.30B3,30D3.30EB
  3332=30D5.30A1.30E9.30C3.30C9,30D5.30A3.30FC.30C8
  3334=30D6.30C3.30B7.30A7.30EB,30D5.30E9.30F3,30D8.30AF.30BF.30FC.30EB
  3337=30DA.30BD,30DA.30CB.30D2,30D8.30EB.30C4,30DA.30F3.30B9
  333B=30DA.30FC.30B8,30D9.30FC.30BF,30DD.30A4.30F3.30C8,30DC.30EB.30C8
  333F=30DB.30F3,30DD.30F3.30C9,30DB.30FC.30EB,30DB.30FC.30F3
  3343=30DE.30A4.30AF.30ED,30DE.30A4.30EB,30DE.30C3.30CF,30DE.30EB.30AF
  3347=30DE.30F3.30B7.30E7.30F3,30DF.30AF.30ED.30F3,30DF.30EA
  334A=30DF.30EA.30D0.30FC.30EB,30E1.30AC,30E1.30AC.30C8.30F3
  334D=30E1.30FC.30C8.30EB,30E4.30FC.30C9,30E4.30FC.30EB,30E6.30A2.30F3
  3351=30EA.30C3.30C8.30EB,30EA.30E9,30EB.30D4.30FC,30EB.30FC.30D6.30EB
  3355=30EC.30E0,30EC.30F3.30C8.30B2.30F3,30EF.30C3.30C8,30.70B9,31.70B9
  335A=32.70B9,33.70B9,34.70B9,35.70B9,36.70B9,37.70B9,38.70B9,39.70B9
  3362=31.30.70B9,31.31.70B9,31.32.70B9,31.33.70B9,31.34.70B9,31.35.70B9
  3368=31.36.70B9,31.37.70B9,31.38.70B9,31.39.70B9,32.30.70B9,32.31.70B9
  336E=32.32.70B9,32.33.70B9,32.34.70B9,68.70.61,64.61,61.75,62.61.72,6F.76
  3376=70.63,64.6D,64.6D.32,64.6D.33,69.75,5E73.6210,662D.548C,5927.6B63
  337E=660E.6CBB,682A.5F0F.4F1A.793E,70.61,6E.61,3BC.61,6D.61,6B.61,6B.62
  3386=6D.62,67.62,63.61.6C,6B.63.61.6C,70.66,6E.66,3BC.66,3BC.67,6D.67
  338F=6B.67,68.7A,6B.68.7A,6D.68.7A,67.68.7A,74.68.7A,3BC.6C,6D.6C,64.6C
  3398=6B.6C,66.6D,6E.6D,3BC.6D,6D.6D,63.6D,6B.6D,6D.6D.32,63.6D.32,6D.32
  33A2=6B.6D.32,6D.6D.33,63.6D.33,6D.33,6B.6D.33,6D.2215.73,6D.2215.73.32
  33A9=70.61,6B.70.61,6D.70.61,67.70.61,72.61.64,72.61.64.2215.73
  33AF=72.61.64.2215.73.32,70.73,6E.73,3BC.73,6D.73,70.76,6E.76,3BC.76
  33B7=6D.76,6B.76,6D.76,70.77,6E.77,3BC.77,6D.77,6B.77,6D.77,6B.3C9,6D.3C9
  33C3=62.71,63.63,63.64,63.2215.6B.67
  33C8=64.62,67.79,68.61,68.70,69.6E,6B.6B,6B.6D,6B.74,6C.6D,6C.6E,6C.6F.67
  33D3=6C.78,6D.62,6D.69.6C,6D.6F.6C,70.68
  33D9=70.70.6D,70.72,73.72,73.76,77.62,76.2215.6D,61.2215.6D,31.65E5
  33E1=32.65E5,33.65E5,34.65E5,35.65E5,36.65E5,37.65E5,38.65E5,39.65E5
  33E9=31.30.65E5,31.31.65E5,31.32.65E5,31.33.65E5,31.34.65E5,31.35.65E5
  33EF=31.36.65E5,31.37.65E5,31.38.65E5,31.39.65E5,32.30.65E5,32.31.65E5
  33F5=32.32.65E5,32.33.65E5,32.34.65E5,32.35.65E5,32.36.65E5,32.37.65E5
  33FB=32.38.65E5,32.39.65E5,33.30.65E5,33.31.65E5,67.61.6C 3400v708D A490v37 A4D0v15C A640a2E
  A66Ev12 A680a1C A69C=44A,44C A69Ev5A A700v22 A722aE A730v2 A732a3E A770=A76F A771v8 A779a4
  A77D=1D79,A77F A77Fv1 A780a8 A788v3 A78B=A78C A78Cv1 A78D=265 A78Ev2 A790a4 A794v2 A796a14
  A7AA=266,25C,261,26C,26A A7AFv1 A7B0=29E,287,29D,AB53,A7B5 A7B5v1 A7B6aE
  A7C4=A794,282,1D8E,A7C8 A7C8v1 A7C9=A7CA A7CAv1 A7CB=264,A7CD A7CDv1 A7CEaE A7DC=19B
  A7F1=73,63,66,71,A7F6 A7F6v2 A7F8=127,153 A7FAv33 A830vA A840v38 A880v46 A8CEvC A8E0v74
  A95Fv1E A980v4E A9CFvB A9DEv21 AA00v37 AA40vE AA50vA AA5Cv67 AADBv1C AB01v6 AB09v6 AB11v6
  AB20v7 AB28v7 AB30v2C AB5C=A727,AB37,26B,AB52 AB60v9 AB69=28D AB6Av2 AB70-97D0d50 ABC0v2E
  ABF0vA AC00v2BA4 D7B0v17 D7CBv31
  F900=8C48,66F4,8ECA,8CC8,6ED1,4E32,53E5,9F9C,9F9C,5951,91D1,5587,5948
  F90D=61F6,7669,7F85,863F,87BA,88F8,908F,6A02,6D1B,70D9,73DE,843D,916A
  F91A=99F1,4E82,5375,6B04,721B,862D,9E1E,5D50,6FEB,85CD,8964,62C9,81D8
  F927=881F,5ECA,6717,6D6A,72FC,90CE,4F86,51B7,52DE,64C4,6AD3,7210,76E7
  F934=8001,8606,865C,8DEF,9732,9B6F,9DFA,788C,797F,7DA0,83C9,9304,9E7F
  F941=8AD6,58DF,5F04,7C60,807E,7262,78CA,8CC2,96F7,58D8,5C62,6A13,6DDA
  F94E=6F0F,7D2F,7E37,964B,52D2,808B,51DC,51CC,7A1C,7DBE,83F1,9675,8B80
  F95B=62CF,6A02,8AFE,4E39,5BE7,6012,7387,7570,5317,78FB,4FBF,5FA9,4E0D
  F968=6CCC,6578,7D22,53C3,585E,7701,8449,8AAA,6BBA,8FB0,6C88,62FE,82E5
  F975=63A0,7565,4EAE,5169,51C9,6881,7CE7,826F,8AD2,91CF,52F5,5442,5973
  F982=5EEC,65C5,6FFE,792A,95AD,9A6A,9E97,9ECE,529B,66C6,6B77,8F62,5E74
  F98F=6190,6200,649A,6F23,7149,7489,79CA,7DF4,806F,8F26,84EE,9023,934A
  F99C=5217,52A3,54BD,70C8,88C2,8AAA,5EC9,5FF5,637B,6BAE,7C3E,7375,4EE4
  F9A9=56F9,5BE7,5DBA,601C,73B2,7469,7F9A,8046,9234,96F6,9748,9818,4F8B
  F9B6=79AE,91B4,96B8,60E1,4E86,50DA,5BEE,5C3F,6599,6A02,71CE,7642,84FC
  F9C3=907C,9F8D,6688,962E,5289,677B,67F3,6D41,6E9C,7409,7559,786B,7D10
  F9D0=985E,516D,622E,9678,502B,5D19,6DEA,8F2A,5F8B,6144,6817,7387,9686
  F9DD=5229,540F,5C65,6613,674E,68A8,6CE5,7406,75E2,7F79,88CF,88E1,91CC
  F9EA=96E2,533F,6EBA,541D,71D0,7498,85FA,96A3,9C57,9E9F,6797,6DCB,81E8
  F9F7=7ACB,7B20,7C92,72C0,7099,8B58,4EC0,8336,523A,5207,5EA6,62D3,7CD6
  FA04=5B85,6D1E,66B4,8F3B,884C,964D,898B,5ED3,5140,55C0 FA0Ev2 FA10=585A FA11v1 FA12=6674
  FA13v2 FA15=51DE,732A,76CA,793C,795E,7965,798F,9756,7CBE,7FBD FA1Fv1 FA20=8612 FA21v1
  FA22=8AF8 FA23v2 FA25=9038,90FD FA27v3
  FA2A=98EF,98FC,9928,9DB4,90DE,96B7,4FAE,50E7,514D,52C9,52E4,5351,559D
  FA37=5606,5668,5840,58A8,5C64,5C6E,6094,6168,618E,61F2,654F,65E2,6691
  FA44=6885,6D77,6E1A,6F22,716E,722B,7422,7891,793E,7949,7948,7950,7956
  FA51=795D,798D,798E,7A40,7A81,7BC0,7DF4,7E09,7E41,7F72,8005,81ED,8279
  FA5E=8279,8457,8910,8996,8B01,8B39,8CD3,8D08,8FB6,9038,96E3,97FF,983B FA6B=6075,242EE,8218
  FA70=4E26,51B5,5168,4F80,5145,5180,52C7,52FA,559D,5555,5599,55E2,585A
  FA7D=58B3,5944,5954,5A62,5B28,5ED2,5ED9,5F69,5FAD,60D8,614E,6108,618E
  FA8A=6160,61F2,6234,63C4,641C,6452,6556,6674,6717,671B,6756,6B79,6BBA
  FA97=6D41,6EDB,6ECB,6F22,701E,716E,77A7,7235,72AF,732A,7471,7506,753B
  FAA4=761D,761F,76CA,76DB,76F4,774A,7740,78CC,7AB1,7BC0,7C7B,7D5B,7DF4
  FAB1=7F3E,8005,8352,83EF,8779,8941,8986,8996,8ABF,8AF8,8ACB,8B01,8AFE
  FABE=8AED,8B39,8B8A,8D08,8F38,9072,9199,9276,967C,96E3,9756,97DB,97FF
  FACB=980B,983B,9B12,9F9C,2284A,22844,233D5,3B9D,4018,4039,25249,25CD0 FAD7=27ED3,9F43,9F8E
  FB00=66.66,66.69,66.6C,66.66.69,66.66.6C,73.74,73.74
  FB13=574.576,574.565,574.56B,57E.576,574.56D FB1D=5D9.5B4 FB1Ev1 FB1F=5F2.5B7,5E2,5D0,5D3,5D4
  FB24-F549d3 FB27=5E8,5EA,2B,5E9.5C1,5E9.5C2,5E9.5BC.5C1,5E9.5BC.5C2,5D0.5B7,5D0.5B8
  FB30=5D0.5BC,5D1.5BC,5D2.5BC,5D3.5BC,5D4.5BC,5D5.5BC,5D6.5BC
  FB38=5D8.5BC,5D9.5BC,5DA.5BC,5DB.5BC,5DC.5BC FB3E=5DE.5BC FB40=5E0.5BC,5E1.5BC
  FB43=5E3.5BC,5E4.5BC FB46=5E6.5BC,5E7.5BC,5E8.5BC,5E9.5BC,5EA.5BC,5D5.5B9,5D1.5BF,5DB.5BF
  FB4E=5E4.5BF,5D0.5DC,671,671,67B,67B,67B,67B,67E,67E,67E,67E,680,680,680
  FB5D=680,67A,67A,67A,67A,67F,67F,67F,67F,679,679,679,679,6A4,6A4,6A4,6A4
  FB6E=6A6,6A6,6A6,6A6,684,684,684,684,683,683,683,683,686,686,686,686,687
  FB7F=687,687,687,68D,68D,68C,68C,68E,68E,688,688,698,698,691,691,6A9,6A9
  FB90=6A9,6A9,6AF,6AF,6AF,6AF,6B3,6B3,6B3,6B3,6B1,6B1,6B1,6B1,6BA,6BA,6BB
  FBA1=6BB,6BB,6BB,6C0,6C0,6C1,6C1,6C1,6C1,6BE,6BE,6BE,6BE,6D2,6D2,6D3,6D3 FBB2v21
  FBD3=6AD,6AD,6AD,6AD,6C7,6C7,6C6,6C6,6C8,6C8,6C7.674,6CB,6CB,6C5,6C5,6C9
  FBE3=6C9,6D0,6D0,6D0,6D0,649,649,626.627,626.627,626.6D5,626.6D5,626.648
  FBEF=626.648,626.6C7,626.6C7,626.6C6,626.6C6,626.6C8,626.6C8,626.6D0
  FBF7=626.6D0,626.6D0,626.649,626.649,626.649,6CC,6CC,6CC,6CC,626.62C
  FC01=626.62D,626.645,626.649,626.64A,628.62C,628.62D,628.62E,628.645
  FC09=628.649,628.64A,62A.62C,62A.62D,62A.62E,62A.645,62A.649,62A.64A
  FC11=62B.62C,62B.645,62B.649,62B.64A,62C.62D,62C.645,62D.62C,62D.645
  FC19=62E.62C,62E.62D,62E.645,633.62C,633.62D,633.62E,633.645,635.62D
  FC21=635.645,636.62C,636.62D,636.62E,636.645,637.62D,637.645,638.645
  FC29=639.62C,639.645,63A.62C,63A.645,641.62C,641.62D,641.62E,641.645
  FC31=641.649,641.64A,642.62D,642.645,642.649,642.64A,643.627,643.62C
  FC39=643.62D,643.62E,643.644,643.645,643.649,643.64A,644.62C,644.62D
  FC41=644.62E,644.645,644.649,644.64A,645.62C,645.62D,645.62E,645.645
  FC49=645.649,645.64A,646.62C,646.62D,646.62E,646.645,646.649,646.64A
  FC51=647.62C,647.645,647.649,647.64A,64A.62C,64A.62D,64A.62E,64A.645
  FC59=64A.649,64A.64A,630.670,631.670,649.670,20.64C.651,20.64D.651
  FC60=20.64E.651,20.64F.651,20.650.651,20.651.670,626.631,626.632,626.645
  FC67=626.646,626.649,626.64A,628.631,628.632,628.645,628.646,628.649
  FC6F=628.64A,62A.631,62A.632,62A.645,62A.646,62A.649,62A.64A,62B.631
  FC77=62B.632,62B.645,62B.646,62B.649,62B.64A,641.649,641.64A,642.649
  FC7F=642.64A,643.627,643.644,643.645,643.649,643.64A,644.645,644.649
  FC87=644.64A,645.627,645.645,646.631,646.632,646.645,646.646,646.649
  FC8F=646.64A,649.670,64A.631,64A.632,64A.645,64A.646,64A.649,64A.64A
  FC97=626.62C,626.62D,626.62E,626.645,626.647,628.62C,628.62D,628.62E
  FC9F=628.645,628.647,62A.62C,62A.62D,62A.62E,62A.645,62A.647,62B.645
  FCA7=62C.62D,62C.645,62D.62C,62D.645,62E.62C,62E.645,633.62C,633.62D
  FCAF=633.62E,633.645,635.62D,635.62E,635.645,636.62C,636.62D,636.62E
  FCB7=636.645,637.62D,638.645,639.62C,639.645,63A.62C,63A.645,641.62C
  FCBF=641.62D,641.62E,641.645,642.62D,642.645,643.62C,643.62D,643.62E
  FCC7=643.644,643.645,644.62C,644.62D,644.62E,644.645,644.647,645.62C
  FCCF=645.62D,645.62E,645.645,646.62C,646.62D,646.62E,646.645,646.647
  FCD7=647.62C,647.645,647.670,64A.62C,64A.62D,64A.62E,64A.645,64A.647
  FCDF=626.645,626.647,628.645,628.647,62A.645,62A.647,62B.645,62B.647
  FCE7=633.645,633.647,634.645,634.647,643.644,643.645,644.645,646.645
  FCEF=646.647,64A.645,64A.647,640.64E.651,640.64F.651,640.650.651,637.649
  FCF6=637.64A,639.649,639.64A,63A.649,63A.64A,633.649,633.64A,634.649
  FCFE=634.64A,62D.649,62D.64A,62C.649,62C.64A,62E.649,62E.64A,635.649
  FD06=635.64A,636.649,636.64A,634.62C,634.62D,634.62E,634.645,634.631
  FD0E=633.631,635.631,636.631,637.649,637.64A,639.649,639.64A,63A.649
  FD16=63A.64A,633.649,633.64A,634.649,634.64A,62D.649,62D.64A,62C.649
  FD1E=62C.64A,62E.649,62E.64A,635.649,635.64A,636.649,636.64A,634.62C
  FD26=634.62D,634.62E,634.645,634.631,633.631,635.631,636.631,634.62C
  FD2E=634.62D,634.62E,634.645,633.647,634.647,637.645,633.62C,633.62D
  FD36=633.62E,634.62C,634.62D,634.62E,637.645,638.645,627.64B,627.64B FD3Ev12
  FD50=62A.62C.645,62A.62D.62C,62A.62D.62C,62A.62D.645,62A.62E.645
  FD55=62A.645.62C,62A.645.62D,62A.645.62E,62C.645.62D,62C.645.62D
  FD5A=62D.645.64A,62D.645.649,633.62D.62C,633.62C.62D,633.62C.649
  FD5F=633.645.62D,633.645.62D,633.645.62C,633.645.645,633.645.645
  FD64=635.62D.62D,635.62D.62D,635.645.645,634.62D.645,634.62D.645
  FD69=634.62C.64A,634.645.62E,634.645.62E,634.645.645,634.645.645
  FD6E=636.62D.649,636.62E.645,636.62E.645,637.645.62D,637.645.62D
  FD73=637.645.645,637.645.64A,639.62C.645,639.645.645,639.645.645
  FD78=639.645.649,63A.645.645,63A.645.64A,63A.645.649,641.62E.645
  FD7D=641.62E.645,642.645.62D,642.645.645,644.62D.645,644.62D.64A
  FD82=644.62D.649,644.62C.62C,644.62C.62C,644.62E.645,644.62E.645
  FD87=644.645.62D,644.645.62D,645.62D.62C,645.62D.645,645.62D.64A
  FD8C=645.62C.62D,645.62C.645,645.62E.62C,645.62E.645 FD90v2
  FD92=645.62C.62E,647.645.62C,647.645.645,646.62D.645,646.62D.649
  FD97=646.62C.645,646.62C.645,646.62C.649,646.645.64A,646.645.649
  FD9C=64A.645.645,64A.645.645,628.62E.64A,62A.62C.64A,62A.62C.649
  FDA1=62A.62E.64A,62A.62E.649,62A.645.64A,62A.645.649,62C.645.64A
  FDA6=62C.62D.649,62C.645.649,633.62E.649,635.62D.64A,634.62D.64A
  FDAB=636.62D.64A,644.62C.64A,644.645.64A,64A.62D.64A,64A.62C.64A
  FDB0=64A.645.64A,645.645.64A,642.645.64A,646.62D.64A,642.645.62D
  FDB5=644.62D.645,639.645.64A,643.645.64A,646.62C.62D,645.62E.64A
  FDBA=644.62C.645,643.645.645,644.62C.645,646.62C.62D,62C.62D.64A
  FDBF=62D.62C.64A,645.62C.64A,641.645.64A,628.62D.64A,643.645.645
  FDC4=639.62C.645,635.645.645,633.62E.64A,646.62C.64A FDC8v8
  FDF0=635.644.6D2,642.644.6D2,627.644.644.647,627.643.628.631
  FDF4=645.62D.645.62F,635.644.639.645,631.633.648.644,639.644.64A.647
  FDF8=648.633.644.645,635.644.649
  FDFA=635.644.649.20.627.644.644.647.20.639.644.64A.647.20.648.633.644.645
  FDFB=62C.644.20.62C.644.627.644.647,631.6CC.627.644 FDFDv3 FE00i10 FE10=2C,3001 FE13-FDD9d2
  FE15=21,3F,3016,3017 FE20v10
  FE31=2014,2013,5F,5F,28,29,7B,7D,3014,3015,3010,3011,300A,300B,3008,3009 FE41-CE35d4 FE45v2
  FE47=5B,5D,20.305,20.305,20.305,20.305,5F,5F,5F,2C,3001
  FE54=3B,3A,3F,21,2014,28,29,7B,7D,3014,3015,23,26,2A,2B,2D,3C,3E,3D FE68=5C,24,25,40
  FE70=20.64B,640.64B,20.64C FE73v1 FE74=20.64D
  FE76=20.64E,640.64E,20.64F,640.64F,20.650,640.650,20.651,640.651,20.652
  FE7F=640.652,621,622,622,623,623,624,624,625,625,626,626,626,626,627,627
  FE8F=628,628,628,628,629,629,62A,62A,62A,62A,62B,62B,62B,62B,62C,62C,62C
  FEA0=62C,62D,62D,62D,62D,62E,62E,62E,62E,62F,62F,630,630,631,631,632,632
  FEB1=633,633,633,633,634,634,634,634,635,635,635,635,636,636,636,636,637
  FEC2=637,637,637,638,638,638,638,639,639,639,639,63A,63A,63A,63A,641,641
  FED3=641,641,642,642,642,642,643,643,643,643,644,644,644,644,645,645,645
  FEE4=645,646,646,646,646,647,647,647,647,648,648,649,649,64A,64A,64A,64A
  FEF5=644.622,644.622,644.623,644.623,644.625,644.625,644.627,644.627 FEFFi1 FF01-FEE0d20
  FF21-FEC0d1A FF3B-FEE0d24 FF5F-D5DAd2
  FF61=2E,300C,300D,3001,30FB,30F2,30A1,30A3,30A5,30A7,30A9,30E3,30E5,30E7
  FF6F=30C3,30FC,30A2,30A4,30A6,30A8,30AA,30AB,30AD,30AF,30B1,30B3,30B5
  FF7C=30B7,30B9,30BB,30BD,30BF,30C1,30C4,30C6,30C8 FF85-CEBBd6 FF8B=30D2,30D5,30D8,30DB
  FF8F-CEB1d5 FF94=30E4,30E6 FF96-CEAEd6 FF9C=30EF,30F3,3099,309A FFA0i1 FFA1-EEA1d2
  FFA3=11AA,1102,11AC,11AD FFA7-EEA4d3 FFAA-EDFAd6 FFB0=111A FFB1-EEABd3 FFB4=1121 FFB5-EEACdA
  FFC2-EE61d6 FFCA-EE63d6 FFD2-EE65d6 FFDA-EE67d3 FFE0-FF3Ed2 FFE2=AC,20.304,A6,A5,20A9
  FFE8=2502 FFE9-DE59d4 FFED=25A0,25CB 10000vC 1000Dv1A 10028v13 1003Cv2 1003FvF 10050vE
  10080v7B 10100v3 10107v2D 10137v58 10190vD 101A0v1 101D0v2E 10280v1D 102A0v31 102E0v1C
  10300v24 1032Dv1E 10350v2B 10380v1E 1039Fv25 103C8vE 10400+28d28 10428v76 104A0vA 104B0+28d24
  104D8v24 10500v28 10530v34 1056Fv1 10570+27dB 1057C+27dF 1058C+27d7 10594+27d2 10597vB 105A3vF
  105B3v7 105BBv2 105C0v34 10600v137 10740v16 10760v8 10780v1 10781-104B1d2 10783=E6,299,253
  10787=2A3,AB66,2A5,2A4,256,257,1D91,258,25E,2A9,264,262,260,29B,127,29C
  10797=267,284,2AA,2AB,26C,1DF04,A78E,26E,1DF05,28E,1DF06,F8,276,277,71,27A
  107A7=1DF08,27D,27E,280,2A8,2A6,AB67,2A7,288,2C71 107B2=28F,2A1,2A2,298 107B6-105F6d3
  107B9=1DF0A,1DF1E 10800v6 10808v1 1080Av2C 10837v2 1083Cv1 1083Fv17 10857v48 108A7v9 108E0v13
  108F4v2 108FBv21 1091Fv1B 1093Fv1B 10980v38 109BCv14 109D2v32 10A05v2 10A0Cv8 10A15v3 10A19v1D
  10A38v3 10A3FvA 10A50v9 10A60v40 10AC0v27 10AEBvC 10B00v36 10B39v1D 10B58v1B 10B78v1A 10B99v4
  10BA9v7 10C00v49 10C80+40d33 10CC0v33 10CFAv2E 10D30vA 10D40v10 10D50+20d16 10D69v1D 10D8Ev2
  10E60v1F 10E80v2A 10EABv3 10EB0v2 10EC2v6 10ED0v9 10EFAv2E 10F30v2A 10F70v1A 10FB0v1C 10FE0v17
  11000v4E 11052v24 1107Fv3E 110BEv5 110D0v19 110F0vA 11100v35 11136v12 11150v27 11180v60
  111E1v14 11200v12 11213v2F 11280v7 11288v1 1128Av4 1128FvF 1129FvB 112B0v3B 112F0vA 11300v4
  11305v8 1130Fv2 11313v16 1132Av7 11332v2 11335v5 1133BvA 11347v2 1134Bv3 11350v1 11357v1
  1135Dv7 11366v7 11370v5 11380vA 1138Bv1 1138Ev1 11390v26 113B7vA 113C2v1 113C5v1 113C7v4
  113CCvA 113D7v2 113E1v2 11400v5C 1145Dv5 11480v48 114D0vA 11580v36 115B8v26 11600v45 11650vA
  11660vD 11680v3A 116C0vA 116D0v14 11700v1B 1171DvF 11730v17 11800v3C 118A0+20d20 118C0v33
  118FFv8 11909v1 1190Cv8 11915v2 11918v1E 11937v2 1193BvC 11950vA 119A0v8 119AAv2E 119DAvB
  11A00v48 11A50v53 11AB0v49 11B00vA 11B60v8 11BC0v22 11BF0vA 11C00v9 11C0Av2D 11C38vE 11C50v1D
  11C70v20 11C92v16 11CA9vE 11D00v7 11D08v2 11D0Bv2C 11D3Av1 11D3Cv2 11D3Fv9 11D50vA 11D60v6
  11D67v2 11D6Av25 11D90v2 11D93v6 11DA0vA 11DB0v2C 11DE0vA 11EE0v19 11F00v11 11F12v29 11F3Ev1D
  11FB0v1 11FC0v32 11FFFv39B 12400v6F 12470v5 12480vC4 12F90v63 13000v430 13440v16 13460vF9B
  14400v247 16100v3A 16800v239 16A40v1F 16A60vA 16A6Ev51 16AC0vA 16AD0v1E 16AF0v6 16B00v46
  16B50vA 16B5Bv7 16B63v15 16B7Dv13 16D40v3A 16E40+20d20 16E60v3B 16EA0+1Bd19 16EBBv19 16F00v4B
  16F4Fv39 16F8Fv11 16FE0v5 16FF0v7 17000v1CD6 18CFFv20 18D80v73 1AFF0v4 1AFF5v7 1AFFDv2
  1B000v123 1B132v1 1B150v3 1B155v1 1B164v4 1B170v18C 1BC00v6B 1BC70vD 1BC80v9 1BC90vA 1BC9Cv4
  1BCA0i4 1CC00vD6 1CCD6-1CC75d1A 1CCF0-1CCC0dA 1CCFAv3 1CD00v1B4 1CEBAv17 1CEE0v11 1CF00v2E
  1CF30v17 1CF50v74 1D000vF6 1D100v27 1D129v35
  1D15E=1D157.1D165,1D158.1D165,1D158.1D165.1D16E,1D158.1D165.1D16F
  1D162=1D158.1D165.1D170,1D158.1D165.1D171,1D158.1D165.1D172 1D165vE 1D173i8 1D17Bv40
  1D1BB=1D1B9.1D165,1D1BA.1D165,1D1B9.1D165.1D16E,1D1BA.1D165.1D16E
  1D1BF=1D1B9.1D165.1D16F,1D1BA.1D165.1D16F 1D1C1v2A 1D200v46 1D2C0v14 1D2E0v14 1D300v57
  1D360v19 1D400-1D39Fd1A 1D41A-1D3B9d1A 1D434-1D3D3d1A 1D44E-1D3EDd7 1D456-1D3EDd12
  1D468-1D407d1A 1D482-1D421d1A 1D49C=61 1D49E-1D43Bd2 1D4A2=67 1D4A5-1D43Bd2 1D4A9-1D43Bd4
  1D4AE-1D43Bd8 1D4B6-1D455d4 1D4BB=66 1D4BD-1D455d7 1D4C5-1D455dB 1D4D0-1D46Fd1A 1D4EA-1D489d1A
  1D504-1D4A3d2 1D507-1D4A3d4 1D50D-1D4A3d8 1D516-1D4A3d7 1D51E-1D4BDd1A 1D538-1D4D7d2
  1D53B-1D4D7d4 1D540-1D4D7d5 1D546=6F 1D54A-1D4D7d7 1D552-1D4F1d1A 1D56C-1D50Bd1A
  1D586-1D525d1A 1D5A0-1D53Fd1A 1D5BA-1D559d1A 1D5D4-1D573d1A 1D5EE-1D58Dd1A 1D608-1D5A7d1A
  1D622-1D5C1d1A 1D63C-1D5DBd1A 1D656-1D5F5d1A 1D670-1D60Fd1A 1D68A-1D629d1A 1D6A4=131,237
  1D6A8-1D2F7d11 1D6B9=3B8 1D6BA-1D2F7d7 1D6C1=2207 1D6C2-1D311d11 1D6D3=3C3 1D6D4-1D311d7
  1D6DB=2202,3B5,3B8,3BA,3C6,3C1,3C0 1D6E2-1D331d11 1D6F3=3B8 1D6F4-1D331d7 1D6FB=2207
  1D6FC-1D34Bd11 1D70D=3C3 1D70E-1D34Bd7 1D715=2202,3B5,3B8,3BA,3C6,3C1,3C0 1D71C-1D36Bd11
  1D72D=3B8 1D72E-1D36Bd7 1D735=2207 1D736-1D385d11 1D747=3C3 1D748-1D385d7
  1D74F=2202,3B5,3B8,3BA,3C6,3C1,3C0 1D756-1D3A5d11 1D767=3B8 1D768-1D3A5d7 1D76F=2207
  1D770-1D3BFd11 1D781=3C3 1D782-1D3BFd7 1D789=2202,3B5,3B8,3BA,3C6,3C1,3C0 1D790-1D3DFd11
  1D7A1=3B8 1D7A2-1D3DFd7 1D7A9=2207 1D7AA-1D3F9d11 1D7BB=3C3 1D7BC-1D3F9d7
  1D7C3=2202,3B5,3B8,3BA,3C6,3C1,3C0,3DD,3DD 1D7CE-1D79EdA 1D7D8-1D7A8dA 1D7E2-1D7B2dA
  1D7EC-1D7BCdA 1D7F6-1D7C6dA 1D800v28C 1DA9Bv5 1DAA1vF 1DF00v1F 1DF25v6 1E000v7 1E008v11
  1E01Bv7 1E023v2 1E026v5 1E030-1DC00d9 1E039-1DBFFd3 1E03C-1DBFEdB
  1E047=44B,44D,44E,A689,4D9,456,458,4E9,4AF,4CF 1E051-1DC21d9 1E05A-1DC20d2 1E05C-1DC1Ed2
  1E05E=441 1E05F-1DC1Cd6 1E065-1DC1Bd2 1E067=491,456,455,45F,4AB,A651,4B1 1E08Fv1 1E100v2D
  1E130vE 1E140vA 1E14Ev2 1E290v1F 1E2C0v3A 1E2FFv1 1E4D0v2A 1E5D0v2B 1E5FFv1 1E6C0v1F 1E6E0v16
  1E6FEv2 1E7E0v7 1E7E8v4 1E7EDv2 1E7F0vF 1E800vC5 1E8C7v10 1E900+22d22 1E922v2A 1E950vA 1E95Ev2
  1EC71v44 1ED01v3D 1EE00-1E7D9d2 1EE02=62C,62F 1EE05=648,632,62D,637,64A 1EE0A-1E7C7d4
  1EE0E=633,639,641,635,642,631,634,62A,62B,62E,630,636,638,63A,66E,6BA,6A1 1EE1F=66F
  1EE21=628,62C 1EE24=647 1EE27=62D 1EE29=64A 1EE2A-1E7E7d4 1EE2E=633,639,641,635,642
  1EE34=634,62A,62B,62E 1EE39=636 1EE3B=63A 1EE42=62C 1EE47=62D 1EE49=64A 1EE4B=644
  1EE4D=646,633,639 1EE51=635,642 1EE54=634 1EE57=62E 1EE59=636 1EE5B=63A 1EE5D=6BA 1EE5F=66F
  1EE61=628,62C 1EE64=647 1EE67=62D,637,64A,643 1EE6C-1E827d2 1EE6E=633,639,641,635,642
  1EE74=634,62A,62B,62E 1EE79=636,638,63A,66E 1EE7E=6A1 1EE80-1E859d2
  1EE82=62C,62F,647,648,632,62D,637,64A 1EE8B-1E847d3
  1EE8E=633,639,641,635,642,631,634,62A,62B,62E,630,636,638,63A 1EEA1=628,62C,62F
  1EEA5=648,632,62D,637,64A 1EEAB-1E867d3
  1EEAE=633,639,641,635,642,631,634,62A,62B,62E,630,636,638,63A 1EEF0v2 1F000v2C 1F030v64
  1F0A0vF 1F0B1vF 1F0C1vF 1F0D1v25
  1F101=30.2C,31.2C,32.2C,33.2C,34.2C,35.2C,36.2C,37.2C,38.2C,39.2C 1F10Bv5
  1F110=28.61.29,28.62.29,28.63.29,28.64.29,28.65.29,28.66.29,28.67.29
  1F117=28.68.29,28.69.29,28.6A.29,28.6B.29,28.6C.29,28.6D.29,28.6E.29
  1F11E=28.6F.29,28.70.29,28.71.29,28.72.29,28.73.29,28.74.29,28.75.29
  1F125=28.76.29,28.77.29,28.78.29,28.79.29,28.7A.29,3014.73.3015,63,72 1F12D=63.64,77.7A
  1F12Fv1 1F130-1F0CFd1A 1F14A=68.76,6D.76,73.64,73.73,70.70.76,77.63 1F150v1A
  1F16A=6D.63,6D.64,6D.72 1F16Dv23 1F190=64.6A 1F191v1D 1F1E6v1A 1F200=307B.304B,30B3.30B3,30B5
  1F210=624B,5B57,53CC,30C7,4E8C,591A,89E3,5929,4EA4,6620,7121,6599,524D
  1F21D=5F8C,518D,65B0,521D,7D42,751F,8CA9,58F0,5439,6F14,6295,6355,4E00
  1F22A=4E09,904A,5DE6,4E2D,53F3,6307,8D70,6253,7981,7A7A,5408,6E80,6709
  1F237=6708,7533,5272,55B6,914D
  1F240=3014.672C.3015,3014.4E09.3015,3014.4E8C.3015,3014.5B89.3015
  1F244=3014.70B9.3015,3014.6253.3015,3014.76D7.3015,3014.52DD.3015 1F248=3014.6557.3015
  1F250=5F97,53EF 1F260v6 1F300v3D9 1F6DCv11 1F6F0vD 1F700vDA 1F7E0vC 1F7F0v1 1F800vC 1F810v38
  1F850vA 1F860v28 1F890v1E 1F8B0vC 1F8C0v2 1F8D0v9 1F900v158 1FA60vE 1FA70vD 1FA80vB 1FA8Ev39
  1FAC8v1 1FACDv10 1FADFvC 1FAEFvA 1FB00v93 1FB94v5C 1FBF0-1FBC0dA 1FBFAv1 20000vA6E0 2A700v111E
  2B820v168E 2CEB0v1D31 2EBF0v26E
  2F800=4E3D,4E38,4E41,20122,4F60,4FAE,4FBB,5002,507A,5099,50E7,50CF,349E
  2F80D=2063A,514D,5154,5164,5177,2051C,34B9,5167,518D,2054B,5197,51A4,4ECC
  2F81A=51AC,51B5,291DF,51F5,5203,34DF,523B,5246,5272,5277,3515,52C7,52C9
  2F827=52E4,52FA,5305,5306,5317,5349,5351,535A,5373,537D,537F,537F,537F
  2F834=20A2C,7070,53CA,53DF,20B63,53EB,53F1,5406,549E,5438,5448,5468,54A2
  2F841=54F6,5510,5553,5563,5584,5584,5599,55AB,55B3,55C2,5716,5606,5717
  2F84E=5651,5674,5207,58EE,57CE,57F4,580D,578B,5832,5831,58AC,214E4,58F2
  2F85B=58F7,5906,591A,5922,5962,216A8,216EA,59EC,5A1B,5A27,59D8,5A66,36EE
  2F868=36FC,5B08,5B3E,5B3E,219C8,5BC3,5BD8,5BE7,5BF3,21B18,5BFF,5C06,5F53
  2F875=5C22,3781,5C60,5C6E,5CC0,5C8D,21DE4,5D43,21DE6,5D6E,5D6B,5D7C,5DE1
  2F882=5DE2,382F,5DFD,5E28,5E3D,5E69,3862,22183,387C,5EB0,5EB3,5EB6,5ECA
  2F88F=2A392,5EFE,22331,22331,8201,5F22,5F22,38C7,232B8,261DA,5F62,5F6B
  2F89B=38E3,5F9A,5FCD,5FD7,5FF9,6081,393A,391C,6094,226D4,60C7,6148,614C
  2F8A8=614E,614C,617A,618E,61B2,61A4,61AF,61DE,61F2,61F6,6210,621B,625D
  2F8B5=62B1,62D4,6350,22B0C,633D,62FC,6368,6383,63E4,22BF1,6422,63C5,63A9
  2F8C2=3A2E,6469,647E,649D,6477,3A6C,654F,656C,2300A,65E3,66F8,6649,3B19
  2F8CF=6691,3B08,3AE4,5192,5195,6700,669C,80AD,43D9,6717,671B,6721,675E
  2F8DC=6753,233C3,3B49,67FA,6785,6852,6885,2346D,688E,681F,6914,3B9D,6942
  2F8E9=69A3,69EA,6AA8,236A3,6ADB,3C18,6B21,238A7,6B54,3C4E,6B72,6B9F,6BBA
  2F8F6=6BBB,23A8D,21D0B,23AFA,6C4E,23CBC,6CBF,6CCD,6C67,6D16,6D3E,6D77,6D41
  2F903=6D69,6D78,6D85,23D1E,6D34,6E2F,6E6E,3D33,6ECB,6EC7,23ED1,6DF9,6F6E
  2F910=23F5E,23F8E,6FC6,7039,701E,701B,3D96,704A,707D,7077,70AD,20525,7145
  2F91D=24263,719C,243AB,7228,7235,7250,24608,7280,7295,24735,24814,737A
  2F929=738B,3EAC,73A5,3EB8,3EB8,7447,745C,7471,7485,74CA,3F1B,7524,24C36
  2F936=753E,24C92,7570,2219F,7610,24FA1,24FB8,25044,3FFC,4008,76F4,250F3
  2F942=250F2,25119,25133,771E,771F,771F,774A,4039,778B,4046,4096,2541D,784E
  2F94F=788C,78CC,40E3,25626,7956,2569A,256C5,798F,79EB,412F,7A40,7A4A,7A4F
  2F95C=2597C,25AA7,25AA7,7AEE,4202,25BAB,7BC6,7BC9,4227,25C80,7CD2,42A0
  2F968=7CE8,7CE3,7D00,25F86,7D63,4301,7DC7,7E02,7E45,4334,26228,26247,4359
  2F975=262D9,7F7A,2633E,7F95,7FFA,8005,264DA,26523,8060,265A8,8070,2335F
  2F981=43D5,80B2,8103,440B,813E,5AB5,267A7,267B5,23393,2339C,8201,8204,8F9E
  2F98E=446B,8291,828B,829D,52B3,82B1,82B3,82BD,82E6,26B3C,82E5,831D,8363
  2F99B=83AD,8323,83BD,83E7,8457,8353,83CA,83CC,83DC,26C36,26D6B,26CD5,452B
  2F9A8=84F1,84F3,8516,273CA,8564,26F2C,455D,4561,26FB1,270D2,456B,8650,865C
  2F9B5=8667,8669,86A9,8688,870E,86E2,8779,8728,876B,8786,45D7,87E1,8801
  2F9C2=45F9,8860,8863,27667,88D7,88DE,4635,88FA,34BB,278AE,27966,46BE,46C7
  2F9CF=8AA0,8AED,8B8A,8C55,27CA8,8CAB,8CC1,8D1B,8D77,27F2F,20804,8DCB,8DBC
  2F9DC=8DF0,208DE,8ED4,8F38,285D2,285ED,9094,90F1,9111,2872E,911B,9238,92D7
  2F9E9=92D8,927C,93F9,9415,28BFA,958B,4995,95B7,28D77,49E6,96C3,5DB2,9723
  2F9F6=29145,2921A,4A6E,4A76,97E0,2940A,4AB2,29496,980B,980B,9829,295B6
  2FA02=98E2,4B33,9929,99A7,99C2,99FE,4BCE,29B30,9B12,9C40,9CFD,4CCE,4CED
  2FA0F=9D67,2A0CE,4CF8,2A105,2A20E,2A291,9EBB,4D56,9EF9,9EFE,9F05,9F0F,9F16 2FA1C=9F3B,2A600
  30000v134B 31350v212A E0100iF0"

end SchemaFormat.Domain
