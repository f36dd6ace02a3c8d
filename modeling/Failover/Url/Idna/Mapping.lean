import Failover.Text.Runs

/-! How the characters of a domain name are read: letters lose their case, forms of a character for
the sake of old encodings go to the character itself, some are left out, and some are refused. -/
namespace Failover.Idna

/-- What becomes of the characters of a run. -/
inductive Action where
  | keep
  | refuse
  | leaveOut
  /-- Capital and small letter in turn. -/
  | pairs
  /-- The characters from `target` on, in the same order. -/
  | shift (target : Nat)
  | spell (codes : List Nat)
  deriving DecidableEq, Repr

/-- A run: `k` kept, `r` refused, `i` left out, `p` in pairs and `m` moved, each with a count; any
other word is one character, spelled as the characters that stand between points. -/
def Action.run : List Char → Nat × Action
  | 'k' :: n => (Runs.number n, .keep)
  | 'r' :: n => (Runs.number n, .refuse)
  | 'i' :: n => (Runs.number n, .leaveOut)
  | 'p' :: n => (Runs.number n, .pairs)
  | 'm' :: w =>
    match w.splitOn '.' with
    | [n, target] => (Runs.number n, .shift (Runs.number target))
    | _ => (0, .refuse)
  | w => (1, .spell ((w.splitOn '.').map Runs.number))

/-- From U+0080 on. What stands behind the last run is refused. -/
def mappingTable : String := "
r20 20 k7 20.308 k1 61 k2 i1 k1 20.304 k2 m2.32 20.301 3BC k2 20.327 31 6F k1 31.2044.34
31.2044.32 33.2044.34 k1 m17.E0 k1 m7.F8 k21 p30 69.307 k1 69.6A 69.6A 135 k1 137 k2 p6 6C.B7
6C.B7 p8 2BC.6E p2E FF p6 73 k1 253 p4 254 188 k1 m2.256 18C k2 1DD 259 25B 192 k1 260 263 k1
269 268 199 k3 26F 272 k1 275 p6 280 1A8 k1 283 k2 1AD k1 288 1B0 k1 m2.28A p4 292 1B9 k3 1BD k7
64.17E 64.17E 64.17E 6C.6A 6C.6A 6C.6A 6E.6A 6E.6A 6E.6A pE 1DC k2 p10 1EF k2 64.7A 64.7A 64.7A
1F5 k1 195 1BF p28 19E k1 p10 233 k7 2C65 23C k1 19A 2C66 k2 242 k1 180 289 28C p8 24F k61 68
266 6A 72 279 27B 281 77 79 k1F 20.306 20.307 20.30A 20.328 20.303 20.30B k2 263 6C 73 78 295
k5B m2.300 k1 313 308.301 3B9 k9 i1 k20 p4 2B9 k1 377 k1 r2 20.3B9 k3 3B 3F3 r4 20.301
20.308.301 3AC B7 m3.3AD r1 3CC r1 m2.3CD k1 m11.3B1 r1 m9.3C3 k23 3D7 3B2 3B8 3C5 3CD 3CB 3C6
3C0 k1 p18 3BA 3C1 3C3 k1 3B8 3B5 k1 3F8 k1 3C3 3FB k2 m3.37B m10.450 m20.430 k30 p20 481 k9 p36
4CF pC 4CE k2 p60 r1 m26.561 r2 k2E 565.582 k3 r2 k3 r1 k37 r8 k1B r4 k6 r11 k16 r1 k58 627.674
648.674 6C7.674 64A.674 k64 r1 k30 r2 k3B r2 k65 rE k3B r2 k31 r2 kF r1 k1C r2 k1 r1 kB r5 k20
r7 k4B r1 k75 915.93C 916.93C 917.93C 91C.93C 921.93C 922.93C 92B.93C 92F.93C k24 r1 k8 r2 k2 r2
k16 r1 k7 r1 k1 r3 k4 r2 k9 r2 k2 r2 k4 r8 k1 r4 9A1.9BC 9A2.9BC r1 9AF.9BC k4 r2 k19 r2 k3 r1
k6 r4 k2 r2 k16 r1 k7 r1 k1 A32.A3C r1 k1 A38.A3C r1 k2 r2 k1 r1 k5 r4 k2 r2 k3 r3 k1 r7 A16.A3C
A17.A3C A1C.A3C k1 r1 A2B.A3C r7 k11 rA k3 r1 k9 r1 k3 r1 k16 r1 k7 r1 k2 r1 k5 r2 kA r1 k3 r1
k3 r2 k1 rF k4 r2 kC r7 k7 r1 k3 r1 k8 r2 k2 r2 k16 r1 k7 r1 k2 r1 k5 r2 k9 r2 k2 r2 k3 r7 k3 r4
B21.B3C B22.B3C r1 k5 r2 k12 rA k2 r1 k6 r3 k3 r1 k4 r3 k2 r1 k1 r1 k2 r3 k2 r3 k3 r3 kC r4 k5
r3 k3 r1 k4 r2 k1 r6 k1 rE k15 r5 kD r1 k3 r1 k17 r1 k10 r2 k9 r1 k3 r1 k4 r7 k2 r1 k3 r1 k2 r2
k4 r2 kA r7 k16 r1 k3 r1 k17 r1 kA r1 k5 r2 k9 r1 k3 r1 k4 r7 k2 r5 k3 r1 k4 r2 kA r1 k3 rC kD
r1 k3 r1 k33 r1 k3 r1 k6 r4 k10 r2 k1A r1 k3 r1 k12 r3 k18 r1 k9 r1 k1 r2 k7 r3 k1 r4 k6 r1 k1
r1 k8 r6 kA r2 k3 rC k32 E4D.E32 k7 r4 k1D r25 k2 r1 k1 r1 k5 r1 k18 r1 k1 r1 kC ECD.EB2 kA r2
k5 r1 k1 r1 k7 r1 kA r2 EAB.E99 EAB.EA1 k2 r20 kC F0B k36 F42.FB7 k4 r1 k4 F4C.FB7 k4 F51.FB7 k4
F56.FB7 k4 F5B.FB7 kC F40.FB5 k3 r4 k2 F71.F72 k1 F71.F74 FB2.F80 FB2.F71.F80 FB3.F80
FB3.F71.F80 k7 F71.F80 k11 F92.FB7 k4 r1 k4 F9C.FB7 k4 FA1.FB7 k4 FA6.FB7 k4 FAB.FB7 kC F90.FB5
k3 r1 kF r1 kD r25 kA0 m26.2D00 r1 2D27 r5 2D2D r2 k2C 10DC k62 i2 kE8 r1 k4 r2 k7 r1 k1 r1 k4
r2 k29 r1 k4 r2 k21 r1 k4 r2 k7 r1 k1 r1 k4 r2 kF r1 k39 r1 k4 r2 k43 r2 k20 r3 k1A r6 k56 r2
m6.13F0 r2 k280 r1 k1C r3 k59 r7 k16 r9 k18 r9 k14 rC kD r1 k3 r1 k2 rC k34 i2 k28 r2 kA r6 kA
r6 kB i5 kA r6 k59 r7 k2B r5 k46 rA k1F r1 kC r4 kC r4 k1 r3 k2A r2 k5 rB k2C r4 k1A r6 kB r3
k3E r2 k41 r1 k1D r2 kB r6 kA r6 kE r2 k2E r2 kC r14 k4D r1 kA6 r8 k3C r3 kF r3 k33 432 434 43E
m2.441 442 44A 463 A64B 1C8A k1 r5 m2B.10D0 r2 m3.10FD k8 r8 k2B r5 k2C 61 E6 62 k1 m2.64 1DD
m8.67 k1 6F 223 70 72 m2.74 77 61 m2.250 1D02 62 m2.64 259 m2.25B 67 k1 6B 6D 14B 6F 254 m2.1D16
70 m2.74 1D1D 26F 76 1D25 m3.3B2 m2.3C6 69 72 m2.75 m2.3B2 3C1 m2.3C6 kD 43D k22 252 63 255 F0
25C 66 25F 261 265 m3.268 1D7B 29D 26D 1D85 29F 271 270 m4.272 278 m2.282 1AB m2.289 1D1C m2.28B
7A m3.290 3B8 k40 p94 1E95 k5 61.2BE 1E61 k2 DF k1 p5E 1EFF k9 m8.1F00 k6 r2 m6.1F10 r2 k8
m8.1F20 k8 m8.1F30 k6 r2 m6.1F40 r2 k8 r1 1F51 r1 1F53 r1 1F55 r1 1F57 k8 m8.1F60 k1 3AC k1 3AD
k1 3AE k1 3AF k1 3CC k1 3CD k1 3CE r2 1F00.3B9 1F01.3B9 1F02.3B9 1F03.3B9 1F04.3B9 1F05.3B9
1F06.3B9 1F07.3B9 1F00.3B9 1F01.3B9 1F02.3B9 1F03.3B9 1F04.3B9 1F05.3B9 1F06.3B9 1F07.3B9
1F20.3B9 1F21.3B9 1F22.3B9 1F23.3B9 1F24.3B9 1F25.3B9 1F26.3B9 1F27.3B9 1F20.3B9 1F21.3B9
1F22.3B9 1F23.3B9 1F24.3B9 1F25.3B9 1F26.3B9 1F27.3B9 1F60.3B9 1F61.3B9 1F62.3B9 1F63.3B9
1F64.3B9 1F65.3B9 1F66.3B9 1F67.3B9 1F60.3B9 1F61.3B9 1F62.3B9 1F63.3B9 1F64.3B9 1F65.3B9
1F66.3B9 1F67.3B9 k2 1F70.3B9 3B1.3B9 3AC.3B9 r1 k1 1FB6.3B9 m2.1FB0 1F70 3AC 3B1.3B9 20.313 3B9
20.313 20.342 20.308.342 1F74.3B9 3B7.3B9 3AE.3B9 r1 k1 1FC6.3B9 1F72 3AD 1F74 3AE 3B7.3B9
20.313.300 20.313.301 20.313.342 k3 390 r2 k2 m2.1FD0 1F76 3AF r1 20.314.300 20.314.301
20.314.342 k3 3B0 k4 m2.1FE0 1F7A 3CD 1FE5 20.308.300 20.308.301 60 r2 1F7C.3B9 3C9.3B9 3CE.3B9
r1 k1 1FF6.3B9 1F78 3CC 1F7C 3CE 3C9.3B9 20.301 20.314 r1 20 20 20 20 20 20 20 20 20 20 20 i1 k2
r2 k1 2010 k5 20.333 kC r3 k1 r7 20 k3 2032.2032 2032.2032.2032 k1 2035.2035 2035.2035.2035 k4
21.21 k1 20.305 k8 3F.3F 3F.21 21.3F kD 2032.2032.2032.2032 k7 20 i5 r5 i6 30 69 r2 m6.34 2B
2212 3D m2.28 6E mA.30 2B 2212 3D m2.28 r1 61 65 6F 78 259 68 m4.6B 70 m2.73 r3 k8 72.73 k19 rE
k21 rF 61.2F.63 61.2F.73 63 B0.63 k1 63.2F.6F 63.2F.75 25B k1 B0.66 m2.67 68 68 68 127 69 69 6C
6C k1 6E 6E.6F k2 m3.70 72 72 k2 73.6D 74.65.6C 74.6D k1 7A k1 3C9 k1 7A k1 6B E5 m2.62 k1 65
m2.65 214E 6D 6F m4.5D0 69 k1 66.61.78 3C0 3B3 3B3 3C0 2211 k4 64 m2.64 m2.69 k6 31.2044.37
31.2044.39 31.2044.31.30 31.2044.33 32.2044.33 31.2044.35 32.2044.35 33.2044.35 34.2044.35
31.2044.36 35.2044.36 31.2044.38 33.2044.38 35.2044.38 37.2044.38 31.2044 69 69.69 69.69.69
69.76 76 76.69 76.69.69 76.69.69.69 69.78 78 78.69 78.69.69 6C m2.63 6D 69 69.69 69.69.69 69.76
76 76.69 76.69.69 76.69.69.69 69.78 78 78.69 78.69.69 6C m2.63 6D k3 2184 k5 30.2044.33 k2 r4
k9C 222B.222B 222B.222B.222B k1 222E.222E 222E.222E.222E kF8 m2.3008 kFF r16 kB r15 m9.31 31.30
31.31 31.32 31.33 31.34 31.35 31.36 31.37 31.38 31.39 32.30 28.31.29 28.32.29 28.33.29 28.34.29
28.35.29 28.36.29 28.37.29 28.38.29 28.39.29 28.31.30.29 28.31.31.29 28.31.32.29 28.31.33.29
28.31.34.29 28.31.35.29 28.31.36.29 28.31.37.29 28.31.38.29 28.31.39.29 28.32.30.29 r14 28.61.29
28.62.29 28.63.29 28.64.29 28.65.29 28.66.29 28.67.29 28.68.29 28.69.29 28.6A.29 28.6B.29
28.6C.29 28.6D.29 28.6E.29 28.6F.29 28.70.29 28.71.29 28.72.29 28.73.29 28.74.29 28.75.29
28.76.29 28.77.29 28.78.29 28.79.29 28.7A.29 m1A.61 m1A.61 30 k521 222B.222B.222B.222B k67
3A.3A.3D 3D.3D 3D.3D.3D k65 2ADD.338 k97 r2 k8A m30.2C30 k30 2C61 k1 26B 1D7D 27D k2 p6 251 271
250 252 k1 2C73 k2 2C76 k6 6A 76 m2.23F p62 2CE3 k8 2CEC k1 2CEE k4 2CF3 k1 r5 k2D r1 k1 r5 k1
r2 k38 r7 2D61 k1 rE k18 r9 k7 r1 k7 r1 k7 r1 k7 r1 k7 r1 k7 r1 k7 r1 k7 r1 k7E r22 k1A r1 k4
6BCD k53 9F9F rC 4E00 4E28 4E36 4E3F 4E59 4E85 4E8C 4EA0 4EBA 513F 5165 516B 5182 5196 51AB 51E0
51F5 5200 529B 52F9 5315 531A 5338 5341 535C 5369 5382 53B6 53C8 53E3 56D7 571F 58EB 5902 590A
5915 5927 5973 5B50 5B80 5BF8 5C0F 5C22 5C38 5C6E 5C71 5DDB 5DE5 5DF1 5DFE 5E72 5E7A 5E7F 5EF4
5EFE 5F0B 5F13 5F50 5F61 5F73 5FC3 6208 6236 624B 652F 6534 6587 6597 65A4 65B9 65E0 65E5 66F0
6708 6728 6B20 6B62 6B79 6BB3 6BCB 6BD4 6BDB 6C0F 6C14 6C34 706B 722A 7236 723B 723F 7247 7259
725B 72AC 7384 7389 74DC 74E6 7518 751F 7528 7530 758B 7592 7676 767D 76AE 76BF 76EE 77DB 77E2
77F3 793A 79B8 79BE 7A74 7ACB 7AF9 7C73 7CF8 7F36 7F51 7F8A 7FBD 8001 800C 8012 8033 807F 8089
81E3 81EA 81F3 81FC 820C 821B 821F 826E 8272 8278 864D 866B 8840 884C 8863 897E 898B 89D2 8A00
8C37 8C46 8C55 8C78 8C9D 8D64 8D70 8DB3 8EAB 8ECA 8F9B 8FB0 8FB5 9091 9149 91C6 91CC 91D1 9577
9580 961C 96B6 96B9 96E8 9751 975E 9762 9769 97CB 97ED 97F3 9801 98A8 98DB 98DF 9996 9999 99AC
9AA8 9AD8 9ADF 9B25 9B2F 9B32 9B3C 9B5A 9CE5 9E75 9E7F 9EA5 9EBB 9EC3 9ECD 9ED1 9EF9 9EFD 9F0E
9F13 9F20 9F3B 9F4A 9F52 9F8D 9F9C 9FA0 r2A 20 k1 2E k33 3012 k1 5341 m2.5344 k5 r1 k56 r2 k2
20.3099 20.309A k2 3088.308A k5F 30B3.30C8 r5 k2B r1 m2.1100 11AA 1102 m2.11AC m3.1103 m6.11B0
111A m3.1106 1121 mA.1109 m15.1161 i1 m2.1114 m2.11C7 11CC 11CE 11D3 11D7 11D9 111C 11DD 11DF
m2.111D 1120 m2.1122 1127 1129 m5.112B 1132 1136 1140 1147 114C m2.11F1 m3.1157 m2.1184 1188
m2.1191 1194 119E 11A1 r1 k2 4E00 4E8C 4E09 56DB 4E0A 4E2D 4E0B 7532 4E59 4E19 4E01 5929 5730
4EBA k46 rA k10 28.1100.29 28.1102.29 28.1103.29 28.1105.29 28.1106.29 28.1107.29 28.1109.29
28.110B.29 28.110C.29 28.110E.29 28.110F.29 28.1110.29 28.1111.29 28.1112.29 28.AC00.29
28.B098.29 28.B2E4.29 28.B77C.29 28.B9C8.29 28.BC14.29 28.C0AC.29 28.C544.29 28.C790.29
28.CC28.29 28.CE74.29 28.D0C0.29 28.D30C.29 28.D558.29 28.C8FC.29 28.C624.C804.29
28.C624.D6C4.29 r1 28.4E00.29 28.4E8C.29 28.4E09.29 28.56DB.29 28.4E94.29 28.516D.29 28.4E03.29
28.516B.29 28.4E5D.29 28.5341.29 28.6708.29 28.706B.29 28.6C34.29 28.6728.29 28.91D1.29
28.571F.29 28.65E5.29 28.682A.29 28.6709.29 28.793E.29 28.540D.29 28.7279.29 28.8CA1.29
28.795D.29 28.52B4.29 28.4EE3.29 28.547C.29 28.5B66.29 28.76E3.29 28.4F01.29 28.8CC7.29
28.5354.29 28.796D.29 28.4F11.29 28.81EA.29 28.81F3.29 554F 5E7C 6587 7B8F k8 70.74.65 32.31
32.32 32.33 32.34 32.35 32.36 32.37 32.38 32.39 33.30 33.31 33.32 33.33 33.34 33.35 1100 m2.1102
m3.1105 1109 m2.110B m5.110E AC00 B098 B2E4 B77C B9C8 BC14 C0AC C544 C790 CC28 CE74 D0C0 D30C
D558 CC38.ACE0 C8FC.C758 C6B0 k1 4E00 4E8C 4E09 56DB 4E94 516D 4E03 516B 4E5D 5341 6708 706B
6C34 6728 91D1 571F 65E5 682A 6709 793E 540D 7279 8CA1 795D 52B4 79D8 7537 5973 9069 512A 5370
6CE8 9805 4F11 5199 6B63 4E0A 4E2D 4E0B 5DE6 53F3 533B 5B97 5B66 76E3 4F01 8CC7 5354 591C 33.36
33.37 33.38 33.39 34.30 34.31 34.32 34.33 34.34 34.35 34.36 34.37 34.38 34.39 35.30 31.6708
32.6708 33.6708 34.6708 35.6708 36.6708 37.6708 38.6708 39.6708 31.30.6708 31.31.6708 31.32.6708
68.67 65.72.67 65.76 6C.74.64 30A2 30A4 30A6 30A8 m2.30AA 30AD 30AF 30B1 30B3 30B5 30B7 30B9
30BB 30BD 30BF 30C1 30C4 30C6 30C8 m6.30CA 30D2 30D5 30D8 30DB m5.30DE 30E4 30E6 m6.30E8 m4.30EF
4EE4.548C 30A2.30D1.30FC.30C8 30A2.30EB.30D5.30A1 30A2.30F3.30DA.30A2 30A2.30FC.30EB
30A4.30CB.30F3.30B0 30A4.30F3.30C1 30A6.30A9.30F3 30A8.30B9.30AF.30FC.30C9 30A8.30FC.30AB.30FC
30AA.30F3.30B9 30AA.30FC.30E0 30AB.30A4.30EA 30AB.30E9.30C3.30C8 30AB.30ED.30EA.30FC
30AC.30ED.30F3 30AC.30F3.30DE 30AE.30AC 30AE.30CB.30FC 30AD.30E5.30EA.30FC 30AE.30EB.30C0.30FC
30AD.30ED 30AD.30ED.30B0.30E9.30E0 30AD.30ED.30E1.30FC.30C8.30EB 30AD.30ED.30EF.30C3.30C8
30B0.30E9.30E0 30B0.30E9.30E0.30C8.30F3 30AF.30EB.30BC.30A4.30ED 30AF.30ED.30FC.30CD
30B1.30FC.30B9 30B3.30EB.30CA 30B3.30FC.30DD 30B5.30A4.30AF.30EB 30B5.30F3.30C1.30FC.30E0
30B7.30EA.30F3.30B0 30BB.30F3.30C1 30BB.30F3.30C8 30C0.30FC.30B9 30C7.30B7 30C9.30EB 30C8.30F3
30CA.30CE 30CE.30C3.30C8 30CF.30A4.30C4 30D1.30FC.30BB.30F3.30C8 30D1.30FC.30C4
30D0.30FC.30EC.30EB 30D4.30A2.30B9.30C8.30EB 30D4.30AF.30EB 30D4.30B3 30D3.30EB
30D5.30A1.30E9.30C3.30C9 30D5.30A3.30FC.30C8 30D6.30C3.30B7.30A7.30EB 30D5.30E9.30F3
30D8.30AF.30BF.30FC.30EB 30DA.30BD 30DA.30CB.30D2 30D8.30EB.30C4 30DA.30F3.30B9 30DA.30FC.30B8
30D9.30FC.30BF 30DD.30A4.30F3.30C8 30DC.30EB.30C8 30DB.30F3 30DD.30F3.30C9 30DB.30FC.30EB
30DB.30FC.30F3 30DE.30A4.30AF.30ED 30DE.30A4.30EB 30DE.30C3.30CF 30DE.30EB.30AF
30DE.30F3.30B7.30E7.30F3 30DF.30AF.30ED.30F3 30DF.30EA 30DF.30EA.30D0.30FC.30EB 30E1.30AC
30E1.30AC.30C8.30F3 30E1.30FC.30C8.30EB 30E4.30FC.30C9 30E4.30FC.30EB 30E6.30A2.30F3
30EA.30C3.30C8.30EB 30EA.30E9 30EB.30D4.30FC 30EB.30FC.30D6.30EB 30EC.30E0
30EC.30F3.30C8.30B2.30F3 30EF.30C3.30C8 30.70B9 31.70B9 32.70B9 33.70B9 34.70B9 35.70B9 36.70B9
37.70B9 38.70B9 39.70B9 31.30.70B9 31.31.70B9 31.32.70B9 31.33.70B9 31.34.70B9 31.35.70B9
31.36.70B9 31.37.70B9 31.38.70B9 31.39.70B9 32.30.70B9 32.31.70B9 32.32.70B9 32.33.70B9
32.34.70B9 68.70.61 64.61 61.75 62.61.72 6F.76 70.63 64.6D 64.6D.32 64.6D.33 69.75 5E73.6210
662D.548C 5927.6B63 660E.6CBB 682A.5F0F.4F1A.793E 70.61 6E.61 3BC.61 6D.61 6B.61 6B.62 6D.62
67.62 63.61.6C 6B.63.61.6C 70.66 6E.66 3BC.66 3BC.67 6D.67 6B.67 68.7A 6B.68.7A 6D.68.7A
67.68.7A 74.68.7A 3BC.6C 6D.6C 64.6C 6B.6C 66.6D 6E.6D 3BC.6D 6D.6D 63.6D 6B.6D 6D.6D.32
63.6D.32 6D.32 6B.6D.32 6D.6D.33 63.6D.33 6D.33 6B.6D.33 6D.2215.73 6D.2215.73.32 70.61 6B.70.61
6D.70.61 67.70.61 72.61.64 72.61.64.2215.73 72.61.64.2215.73.32 70.73 6E.73 3BC.73 6D.73 70.76
6E.76 3BC.76 6D.76 6B.76 6D.76 70.77 6E.77 3BC.77 6D.77 6B.77 6D.77 6B.3C9 6D.3C9 r1 62.71 63.63
63.64 63.2215.6B.67 r1 64.62 67.79 68.61 68.70 69.6E 6B.6B 6B.6D 6B.74 6C.6D 6C.6E 6C.6F.67
6C.78 6D.62 6D.69.6C 6D.6F.6C 70.68 r1 70.70.6D 70.72 73.72 73.76 77.62 76.2215.6D 61.2215.6D
31.65E5 32.65E5 33.65E5 34.65E5 35.65E5 36.65E5 37.65E5 38.65E5 39.65E5 31.30.65E5 31.31.65E5
31.32.65E5 31.33.65E5 31.34.65E5 31.35.65E5 31.36.65E5 31.37.65E5 31.38.65E5 31.39.65E5
32.30.65E5 32.31.65E5 32.32.65E5 32.33.65E5 32.34.65E5 32.35.65E5 32.36.65E5 32.37.65E5
32.38.65E5 32.39.65E5 33.30.65E5 33.31.65E5 67.61.6C k708D r3 k37 r9 k15C r14 p2C A66D k13 p1C
44A 44C k5A r8 k22 pC A72F k3 p3E A76F k8 p4 1D79 p8 A787 k4 A78C k1 265 k2 A791 k1 A793 k3 p14
266 25C 261 26C 26A k1 29E 287 29D AB53 p10 A794 282 1D8E p4 264 p10 19B r14 73 63 66 71 A7F6 k2
127 153 k33 r3 kA r6 k38 r8 k46 r8 kC r6 k74 rB k1E r3 k4E r1 kB r4 k21 r1 k37 r9 kE r2 kA r2
k67 r18 k1C rA k6 r2 k6 r2 k6 r9 k7 r1 k7 r1 k2C A727 AB37 26B AB52 k9 28D k2 r4 m50.13A0 k2E r2
kA r6 k2BA4 rC k17 r4 k31 r2104 8C48 66F4 8ECA 8CC8 6ED1 4E32 53E5 9F9C 9F9C 5951 91D1 5587 5948
61F6 7669 7F85 863F 87BA 88F8 908F 6A02 6D1B 70D9 73DE 843D 916A 99F1 4E82 5375 6B04 721B 862D
9E1E 5D50 6FEB 85CD 8964 62C9 81D8 881F 5ECA 6717 6D6A 72FC 90CE 4F86 51B7 52DE 64C4 6AD3 7210
76E7 8001 8606 865C 8DEF 9732 9B6F 9DFA 788C 797F 7DA0 83C9 9304 9E7F 8AD6 58DF 5F04 7C60 807E
7262 78CA 8CC2 96F7 58D8 5C62 6A13 6DDA 6F0F 7D2F 7E37 964B 52D2 808B 51DC 51CC 7A1C 7DBE 83F1
9675 8B80 62CF 6A02 8AFE 4E39 5BE7 6012 7387 7570 5317 78FB 4FBF 5FA9 4E0D 6CCC 6578 7D22 53C3
585E 7701 8449 8AAA 6BBA 8FB0 6C88 62FE 82E5 63A0 7565 4EAE 5169 51C9 6881 7CE7 826F 8AD2 91CF
52F5 5442 5973 5EEC 65C5 6FFE 792A 95AD 9A6A 9E97 9ECE 529B 66C6 6B77 8F62 5E74 6190 6200 649A
6F23 7149 7489 79CA 7DF4 806F 8F26 84EE 9023 934A 5217 52A3 54BD 70C8 88C2 8AAA 5EC9 5FF5 637B
6BAE 7C3E 7375 4EE4 56F9 5BE7 5DBA 601C 73B2 7469 7F9A 8046 9234 96F6 9748 9818 4F8B 79AE 91B4
96B8 60E1 4E86 50DA 5BEE 5C3F 6599 6A02 71CE 7642 84FC 907C 9F8D 6688 962E 5289 677B 67F3 6D41
6E9C 7409 7559 786B 7D10 985E 516D 622E 9678 502B 5D19 6DEA 8F2A 5F8B 6144 6817 7387 9686 5229
540F 5C65 6613 674E 68A8 6CE5 7406 75E2 7F79 88CF 88E1 91CC 96E2 533F 6EBA 541D 71D0 7498 85FA
96A3 9C57 9E9F 6797 6DCB 81E8 7ACB 7B20 7C92 72C0 7099 8B58 4EC0 8336 523A 5207 5EA6 62D3 7CD6
5B85 6D1E 66B4 8F3B 884C 964D 898B 5ED3 5140 55C0 k2 585A k1 6674 k2 51DE 732A 76CA 793C 795E
7965 798F 9756 7CBE 7FBD k1 8612 k1 8AF8 k2 9038 90FD k3 98EF 98FC 9928 9DB4 90DE 96B7 4FAE 50E7
514D 52C9 52E4 5351 559D 5606 5668 5840 58A8 5C64 5C6E 6094 6168 618E 61F2 654F 65E2 6691 6885
6D77 6E1A 6F22 716E 722B 7422 7891 793E 7949 7948 7950 7956 795D m2.798D 7A40 7A81 7BC0 7DF4
7E09 7E41 7F72 8005 81ED 8279 8279 8457 8910 8996 8B01 8B39 8CD3 8D08 8FB6 9038 96E3 97FF 983B
6075 242EE 8218 r2 4E26 51B5 5168 4F80 5145 5180 52C7 52FA 559D 5555 5599 55E2 585A 58B3 5944
5954 5A62 5B28 5ED2 5ED9 5F69 5FAD 60D8 614E 6108 618E 6160 61F2 6234 63C4 641C 6452 6556 6674
6717 671B 6756 6B79 6BBA 6D41 6EDB 6ECB 6F22 701E 716E 77A7 7235 72AF 732A 7471 7506 753B 761D
761F 76CA 76DB 76F4 774A 7740 78CC 7AB1 7BC0 7C7B 7D5B 7DF4 7F3E 8005 8352 83EF 8779 8941 8986
8996 8ABF 8AF8 8ACB 8B01 8AFE 8AED 8B39 8B8A 8D08 8F38 9072 9199 9276 967C 96E3 9756 97DB 97FF
980B 983B 9B12 9F9C 2284A 22844 233D5 3B9D 4018 4039 25249 25CD0 27ED3 9F43 9F8E r26 66.66 66.69
66.6C 66.66.69 66.66.6C 73.74 73.74 rC 574.576 574.565 574.56B 57E.576 574.56D r5 5D9.5B4 k1
5F2.5B7 5E2 5D0 m2.5D3 m3.5DB 5E8 5EA 2B 5E9.5C1 5E9.5C2 5E9.5BC.5C1 5E9.5BC.5C2 5D0.5B7 5D0.5B8
5D0.5BC 5D1.5BC 5D2.5BC 5D3.5BC 5D4.5BC 5D5.5BC 5D6.5BC r1 5D8.5BC 5D9.5BC 5DA.5BC 5DB.5BC
5DC.5BC r1 5DE.5BC r1 5E0.5BC 5E1.5BC r1 5E3.5BC 5E4.5BC r1 5E6.5BC 5E7.5BC 5E8.5BC 5E9.5BC
5EA.5BC 5D5.5B9 5D1.5BF 5DB.5BF 5E4.5BF 5D0.5DC 671 671 67B 67B 67B 67B 67E 67E 67E 67E 680 680
680 680 67A 67A 67A 67A 67F 67F 67F 67F 679 679 679 679 6A4 6A4 6A4 6A4 6A6 6A6 6A6 6A6 684 684
684 684 683 683 683 683 686 686 686 m2.686 687 687 687 68D 68D 68C 68C 68E 68E 688 688 698 698
691 691 6A9 6A9 6A9 6A9 6AF 6AF 6AF 6AF 6B3 6B3 6B3 6B3 6B1 6B1 6B1 6B1 6BA m2.6BA 6BB 6BB 6BB
6C0 m2.6C0 6C1 6C1 6C1 6BE 6BE 6BE 6BE 6D2 m2.6D2 6D3 k21 6AD 6AD 6AD 6AD 6C7 6C7 6C6 6C6 6C8
6C8 6C7.674 6CB 6CB 6C5 6C5 6C9 6C9 6D0 6D0 6D0 6D0 649 649 626.627 626.627 626.6D5 626.6D5
626.648 626.648 626.6C7 626.6C7 626.6C6 626.6C6 626.6C8 626.6C8 626.6D0 626.6D0 626.6D0 626.649
626.649 626.649 6CC 6CC 6CC 6CC 626.62C 626.62D 626.645 626.649 626.64A 628.62C 628.62D 628.62E
628.645 628.649 628.64A 62A.62C 62A.62D 62A.62E 62A.645 62A.649 62A.64A 62B.62C 62B.645 62B.649
62B.64A 62C.62D 62C.645 62D.62C 62D.645 62E.62C 62E.62D 62E.645 633.62C 633.62D 633.62E 633.645
635.62D 635.645 636.62C 636.62D 636.62E 636.645 637.62D 637.645 638.645 639.62C 639.645 63A.62C
63A.645 641.62C 641.62D 641.62E 641.645 641.649 641.64A 642.62D 642.645 642.649 642.64A 643.627
643.62C 643.62D 643.62E 643.644 643.645 643.649 643.64A 644.62C 644.62D 644.62E 644.645 644.649
644.64A 645.62C 645.62D 645.62E 645.645 645.649 645.64A 646.62C 646.62D 646.62E 646.645 646.649
646.64A 647.62C 647.645 647.649 647.64A 64A.62C 64A.62D 64A.62E 64A.645 64A.649 64A.64A 630.670
631.670 649.670 20.64C.651 20.64D.651 20.64E.651 20.64F.651 20.650.651 20.651.670 626.631
626.632 626.645 626.646 626.649 626.64A 628.631 628.632 628.645 628.646 628.649 628.64A 62A.631
62A.632 62A.645 62A.646 62A.649 62A.64A 62B.631 62B.632 62B.645 62B.646 62B.649 62B.64A 641.649
641.64A 642.649 642.64A 643.627 643.644 643.645 643.649 643.64A 644.645 644.649 644.64A 645.627
645.645 646.631 646.632 646.645 646.646 646.649 646.64A 649.670 64A.631 64A.632 64A.645 64A.646
64A.649 64A.64A 626.62C 626.62D 626.62E 626.645 626.647 628.62C 628.62D 628.62E 628.645 628.647
62A.62C 62A.62D 62A.62E 62A.645 62A.647 62B.645 62C.62D 62C.645 62D.62C 62D.645 62E.62C 62E.645
633.62C 633.62D 633.62E 633.645 635.62D 635.62E 635.645 636.62C 636.62D 636.62E 636.645 637.62D
638.645 639.62C 639.645 63A.62C 63A.645 641.62C 641.62D 641.62E 641.645 642.62D 642.645 643.62C
643.62D 643.62E 643.644 643.645 644.62C 644.62D 644.62E 644.645 644.647 645.62C 645.62D 645.62E
645.645 646.62C 646.62D 646.62E 646.645 646.647 647.62C 647.645 647.670 64A.62C 64A.62D 64A.62E
64A.645 64A.647 626.645 626.647 628.645 628.647 62A.645 62A.647 62B.645 62B.647 633.645 633.647
634.645 634.647 643.644 643.645 644.645 646.645 646.647 64A.645 64A.647 640.64E.651 640.64F.651
640.650.651 637.649 637.64A 639.649 639.64A 63A.649 63A.64A 633.649 633.64A 634.649 634.64A
62D.649 62D.64A 62C.649 62C.64A 62E.649 62E.64A 635.649 635.64A 636.649 636.64A 634.62C 634.62D
634.62E 634.645 634.631 633.631 635.631 636.631 637.649 637.64A 639.649 639.64A 63A.649 63A.64A
633.649 633.64A 634.649 634.64A 62D.649 62D.64A 62C.649 62C.64A 62E.649 62E.64A 635.649 635.64A
636.649 636.64A 634.62C 634.62D 634.62E 634.645 634.631 633.631 635.631 636.631 634.62C 634.62D
634.62E 634.645 633.647 634.647 637.645 633.62C 633.62D 633.62E 634.62C 634.62D 634.62E 637.645
638.645 627.64B 627.64B k12 62A.62C.645 62A.62D.62C 62A.62D.62C 62A.62D.645 62A.62E.645
62A.645.62C 62A.645.62D 62A.645.62E 62C.645.62D 62C.645.62D 62D.645.64A 62D.645.649 633.62D.62C
633.62C.62D 633.62C.649 633.645.62D 633.645.62D 633.645.62C 633.645.645 633.645.645 635.62D.62D
635.62D.62D 635.645.645 634.62D.645 634.62D.645 634.62C.64A 634.645.62E 634.645.62E 634.645.645
634.645.645 636.62D.649 636.62E.645 636.62E.645 637.645.62D 637.645.62D 637.645.645 637.645.64A
639.62C.645 639.645.645 639.645.645 639.645.649 63A.645.645 63A.645.64A 63A.645.649 641.62E.645
641.62E.645 642.645.62D 642.645.645 644.62D.645 644.62D.64A 644.62D.649 644.62C.62C 644.62C.62C
644.62E.645 644.62E.645 644.645.62D 644.645.62D 645.62D.62C 645.62D.645 645.62D.64A 645.62C.62D
645.62C.645 645.62E.62C 645.62E.645 k2 645.62C.62E 647.645.62C 647.645.645 646.62D.645
646.62D.649 646.62C.645 646.62C.645 646.62C.649 646.645.64A 646.645.649 64A.645.645 64A.645.645
628.62E.64A 62A.62C.64A 62A.62C.649 62A.62E.64A 62A.62E.649 62A.645.64A 62A.645.649 62C.645.64A
62C.62D.649 62C.645.649 633.62E.649 635.62D.64A 634.62D.64A 636.62D.64A 644.62C.64A 644.645.64A
64A.62D.64A 64A.62C.64A 64A.645.64A 645.645.64A 642.645.64A 646.62D.64A 642.645.62D 644.62D.645
639.645.64A 643.645.64A 646.62C.62D 645.62E.64A 644.62C.645 643.645.645 644.62C.645 646.62C.62D
62C.62D.64A 62D.62C.64A 645.62C.64A 641.645.64A 628.62D.64A 643.645.645 639.62C.645 635.645.645
633.62E.64A 646.62C.64A k8 r20 635.644.6D2 642.644.6D2 627.644.644.647 627.643.628.631
645.62D.645.62F 635.644.639.645 631.633.648.644 639.644.64A.647 648.633.644.645 635.644.649
635.644.649.20.627.644.644.647.20.639.644.64A.647.20.648.633.644.645
62C.644.20.62C.644.627.644.647 631.6CC.627.644 k3 i10 2C 3001 r1 m2.3A 21 3F m2.3016 r7 k10 r1
2014 2013 5F 5F m2.28 7B 7D m2.3014 m2.3010 m2.300A m2.3008 m4.300C k2 5B 5D 20.305 20.305
20.305 20.305 5F 5F 5F 2C 3001 r2 3B 3A 3F 21 2014 m2.28 7B 7D m2.3014 23 26 m2.2A 2D 3C 3E 3D
r1 5C m2.24 40 r4 20.64B 640.64B 20.64C k1 20.64D r1 20.64E 640.64E 20.64F 640.64F 20.650
640.650 20.651 640.651 20.652 640.652 m2.621 m2.622 m2.623 m2.624 m2.625 626 626 m2.626 m2.627
628 628 m2.628 m2.629 62A 62A m2.62A 62B 62B m2.62B 62C 62C m2.62C 62D 62D m2.62D 62E 62E m2.62E
m2.62F m2.630 m2.631 m2.632 633 633 m2.633 634 634 m2.634 635 635 m2.635 636 636 m2.636 637 637
m2.637 638 638 m2.638 639 639 m2.639 63A 63A 63A 641 641 641 m2.641 642 642 m2.642 643 643
m2.643 644 644 m2.644 645 645 m2.645 646 646 m2.646 647 647 m2.647 m2.648 m2.649 64A 64A 64A
644.622 644.622 644.623 644.623 644.625 644.625 644.627 644.627 r2 i1 r1 m20.21 m1A.61 m24.5B
m2.2985 2E m2.300C 3001 30FB 30F2 30A1 30A3 30A5 30A7 30A9 30E3 30E5 30E7 30C3 30FC 30A2 30A4
30A6 30A8 m2.30AA 30AD 30AF 30B1 30B3 30B5 30B7 30B9 30BB 30BD 30BF 30C1 30C4 30C6 30C8 m6.30CA
30D2 30D5 30D8 30DB m5.30DE 30E4 30E6 m6.30E8 30EF 30F3 m2.3099 i1 m2.1100 11AA 1102 m2.11AC
m3.1103 m6.11B0 111A m3.1106 1121 mA.1109 r3 m6.1161 r2 m6.1167 r2 m6.116D r2 m3.1173 r3 m2.A2
AC 20.304 A6 A5 20A9 r1 2502 m4.2190 25A0 25CB r11 kC r1 k1A r1 k13 r1 k2 r1 kF r2 kE r22 k7B r5
k3 r4 k2D r3 k58 r1 kD r3 k1 r2F k2E r82 k1D r3 k31 rF k1C r4 k24 r9 k1E r5 k2B r5 k1E r1 k25 r4
kE r2A m28.10428 k76 r2 kA r6 m24.104D8 r4 k24 r4 k28 r8 k34 rB k1 mB.10597 r1 mF.105A3 r1
m7.105B3 r1 m2.105BB r1 kB r1 kF r1 k7 r1 k2 r3 k34 rC k137 r9 k16 rA k8 r18 k1 m2.2D0 E6 299
253 r1 2A3 AB66 2A5 2A4 m2.256 1D91 258 25E 2A9 264 262 260 29B 127 29C 267 284 m2.2AA 26C 1DF04
A78E 26E 1DF05 28E 1DF06 F8 m2.276 71 27A 1DF08 m2.27D 280 2A8 2A6 AB67 2A7 288 2C71 r1 28F
m2.2A1 298 m3.1C0 1DF0A 1DF1E r45 k6 r2 k1 r1 k2C r1 k2 r3 k1 r2 k17 r1 k48 r8 k9 r30 k13 r1 k2
r5 k21 r3 k1B r5 k1B r26 k38 r4 k14 r2 k32 r1 k2 r5 k8 r1 k3 r1 k1D r2 k3 r4 kA r7 k9 r7 k40 r20
k27 r4 kC r9 k36 r3 k1D r2 k1B r5 k1A r7 k4 rC k7 r50 k49 r37 m33.10CC0 rD k33 r7 k2E r8 kA r6
k10 m16.10D70 r3 k1D r8 k2 rD0 k1F r1 k2A r1 k3 r2 k2 r10 k6 r8 k9 r21 k2E r8 k2A r16 k1A r26
k1C r14 k17 r9 k4E r4 k24 r9 k3E r1 k5 rD k19 r7 kA r6 k35 r1 k12 r8 k27 r9 k60 r1 k14 rB k12 r1
k2F r3E k7 r1 k1 r1 k4 r1 kF r1 kB r6 k3B r5 kA r6 k4 r1 k8 r2 k2 r2 k16 r1 k7 r1 k2 r1 k5 r1 kA
r2 k2 r2 k3 r2 k1 r6 k1 r5 k7 r2 k7 r3 k5 rB kA r1 k1 r2 k1 r1 k26 r1 kA r1 k1 r2 k1 r1 k4 r1 kA
r1 k2 r8 k2 r1D k5C r1 k5 r1E k48 r8 kA rA6 k36 r2 k26 r22 k45 rB kA r6 kD r13 k3A r6 kA r6 k14
r1C k1B r2 kF r4 k17 rB9 k3C r64 m20.118C0 k33 rC k8 r2 k1 r2 k8 r1 k2 r1 k1E r1 k2 r2 kC r9 kA
r46 k8 r2 k2E r2 kB r1B k48 r8 k53 rD k49 r7 kA r56 k8 r58 k22 rE kA r6 k9 r1 k2D r1 kE rA k1D
r3 k20 r2 k16 r1 kE r49 k7 r1 k2 r1 k2C r3 k1 r1 k2 r1 k9 r8 kA r6 k6 r1 k2 r1 k25 r1 k2 r1 k6
r7 kA r6 k2C r4 kA rF6 k19 r7 k11 r1 k29 r3 k1D r55 k1 rF k32 rD k39B r66 k6F r1 k5 rB kC4 rA4C
k63 rD k430 r10 k16 rA kF9B r5 k247 r1AB9 k3A r6C6 k239 r7 k1F r1 kA r4 k51 r1 kA r6 k1E r2 k6
rA k46 rA kA r1 k7 r1 k15 r5 k13 r1B0 k3A rC6 m20.16E60 k3B r5 m19.16EBB r2 k19 r2C k4B r4 k39
r7 k11 r40 k5 rB k7 r9 k1CD6 r29 k20 r61 k73 r21FD k4 r1 k7 r1 k2 r1 k123 rF k1 r1D k3 r2 k1 rE
k4 r8 k18C r904 k6B r5 kD r3 k9 r7 kA r2 k4 i4 rF5C kD6 m1A.61 mA.30 k3 r3 k1B4 r6 k17 rF k11 rF
k2E r2 k17 r9 k74 r3C kF6 rA k27 r2 k35 1D157.1D165 1D158.1D165 1D158.1D165.1D16E
1D158.1D165.1D16F 1D158.1D165.1D170 1D158.1D165.1D171 1D158.1D165.1D172 kE i8 k40 1D1B9.1D165
1D1BA.1D165 1D1B9.1D165.1D16E 1D1BA.1D165.1D16E 1D1B9.1D165.1D16F 1D1BA.1D165.1D16F k2A r15 k46
r7A k14 rC k14 rC k57 r9 k19 r87 m1A.61 m1A.61 m1A.61 m7.61 r1 m12.69 m1A.61 m1A.61 61 r1 m2.63
r2 67 r2 m2.6A r2 m4.6E r1 m8.73 m4.61 r1 66 r1 m7.68 r1 mB.70 m1A.61 m1A.61 m2.61 r1 m4.64 r2
m8.6A r1 m7.73 r1 m1A.61 m2.61 r1 m4.64 r1 m5.69 r1 6F r3 m7.73 r1 m1A.61 m1A.61 m1A.61 m1A.61
m1A.61 m1A.61 m1A.61 m1A.61 m1A.61 m1A.61 m1A.61 m1A.61 m1A.61 131 237 r2 m11.3B1 3B8 m7.3C3
2207 m11.3B1 3C3 m7.3C3 2202 3B5 3B8 3BA 3C6 3C1 3C0 m11.3B1 3B8 m7.3C3 2207 m11.3B1 3C3 m7.3C3
2202 3B5 3B8 3BA 3C6 3C1 3C0 m11.3B1 3B8 m7.3C3 2207 m11.3B1 3C3 m7.3C3 2202 3B5 3B8 3BA 3C6 3C1
3C0 m11.3B1 3B8 m7.3C3 2207 m11.3B1 3C3 m7.3C3 2202 3B5 3B8 3BA 3C6 3C1 3C0 m11.3B1 3B8 m7.3C3
2207 m11.3B1 3C3 m7.3C3 2202 3B5 3B8 3BA 3C6 3C1 3C0 3DD 3DD r2 mA.30 mA.30 mA.30 mA.30 mA.30
k28C rF k5 r1 kF r450 k1F r6 k6 rD5 k7 r1 k11 r2 k7 r1 k2 r1 k5 r5 m9.430 m3.43A mB.43E 44B
m2.44D A689 4D9 456 458 4E9 4AF 4CF m9.430 m2.43A m2.43E 441 m6.443 m2.44A 491 456 455 45F 4AB
A651 4B1 r21 k1 r70 k2D r3 kE r2 kA r4 k2 r140 k1F r11 k3A r5 k1 r1D0 k2A rD6 k2B r4 k1 rC0 k1F
r1 k16 r8 k2 rE0 k7 r1 k4 r1 k2 r1 kF r1 kC5 r2 k10 r29 m22.1E922 k2A r4 kA r4 k2 r311 k44 r4C
k3D rC2 m2.627 62C 62F r1 648 632 62D 637 64A m4.643 633 639 641 635 642 631 634 m2.62A 62E 630
636 638 63A 66E 6BA 6A1 66F r1 628 62C r1 647 r2 62D r1 64A m4.643 633 639 641 635 642 r1 634
m2.62A 62E r1 636 r1 63A r6 62C r4 62D r1 64A r1 644 r1 646 633 639 r1 635 642 r1 634 r2 62E r1
636 r1 63A r1 6BA r1 66F r1 628 62C r1 647 r2 62D 637 64A 643 r1 m2.645 633 639 641 635 642 r1
634 m2.62A 62E r1 636 638 63A 66E r1 6A1 r1 m2.627 62C 62F m2.647 632 62D 637 64A r1 m3.644 633
639 641 635 642 631 634 m2.62A 62E 630 636 638 63A r5 628 62C 62F r1 648 632 62D 637 64A r1
m3.644 633 639 641 635 642 631 634 m2.62A 62E 630 636 638 63A r34 k2 r10E k2C r4 k64 rC kF r2 kF
r1 kF r1 k25 rB 30.2C 31.2C 32.2C 33.2C 34.2C 35.2C 36.2C 37.2C 38.2C 39.2C k5 28.61.29 28.62.29
28.63.29 28.64.29 28.65.29 28.66.29 28.67.29 28.68.29 28.69.29 28.6A.29 28.6B.29 28.6C.29
28.6D.29 28.6E.29 28.6F.29 28.70.29 28.71.29 28.72.29 28.73.29 28.74.29 28.75.29 28.76.29
28.77.29 28.78.29 28.79.29 28.7A.29 3014.73.3015 63 72 63.64 77.7A k1 m1A.61 68.76 6D.76 73.64
73.73 70.70.76 77.63 k1A 6D.63 6D.64 6D.72 k23 64.6A k1D r38 k1A 307B.304B 30B3.30B3 30B5 rD
624B 5B57 53CC 30C7 4E8C 591A 89E3 5929 4EA4 6620 7121 6599 524D 5F8C 518D 65B0 521D 7D42 751F
8CA9 58F0 5439 6F14 6295 6355 4E00 4E09 904A 5DE6 4E2D 53F3 6307 8D70 6253 7981 7A7A 5408 6E80
6709 6708 7533 5272 55B6 914D r4 3014.672C.3015 3014.4E09.3015 3014.4E8C.3015 3014.5B89.3015
3014.70B9.3015 3014.6253.3015 3014.76D7.3015 3014.52DD.3015 3014.6557.3015 r7 5F97 53EF rE k6
r9A k3D9 r3 k11 r3 kD r3 kDA r6 kC r4 k1 rF kC r4 k38 r8 kA r6 k28 r8 k1E r2 kC r4 k2 rE k9 r27
k158 r8 kE r2 kD r3 kB r3 k39 r1 k1 r4 k10 r2 kC r4 kA r7 k93 r1 k5C mA.30 k1 r405 kA6E0 r20
k111E r2 k168E r2 k1D31 rF k26E r9A2 4E3D 4E38 4E41 20122 4F60 4FAE 4FBB 5002 507A 5099 50E7
50CF 349E 2063A 514D 5154 5164 5177 2051C 34B9 5167 518D 2054B 5197 51A4 4ECC 51AC 51B5 291DF
51F5 5203 34DF 523B 5246 5272 5277 3515 52C7 52C9 52E4 52FA m2.5305 5317 5349 5351 535A 5373
537D 537F 537F 537F 20A2C 7070 53CA 53DF 20B63 53EB 53F1 5406 549E 5438 5448 5468 54A2 54F6 5510
5553 5563 5584 5584 5599 55AB 55B3 55C2 5716 5606 5717 5651 5674 5207 58EE 57CE 57F4 580D 578B
5832 5831 58AC 214E4 58F2 58F7 5906 591A 5922 5962 216A8 216EA 59EC 5A1B 5A27 59D8 5A66 36EE
36FC 5B08 5B3E 5B3E 219C8 5BC3 5BD8 5BE7 5BF3 21B18 5BFF 5C06 5F53 5C22 3781 5C60 5C6E 5CC0 5C8D
21DE4 5D43 21DE6 5D6E 5D6B 5D7C m2.5DE1 382F 5DFD 5E28 5E3D 5E69 3862 22183 387C 5EB0 5EB3 5EB6
5ECA 2A392 5EFE 22331 22331 8201 5F22 5F22 38C7 232B8 261DA 5F62 5F6B 38E3 5F9A 5FCD 5FD7 5FF9
6081 393A 391C 6094 226D4 60C7 6148 614C 614E 614C 617A 618E 61B2 61A4 61AF 61DE 61F2 61F6 6210
621B 625D 62B1 62D4 6350 22B0C 633D 62FC 6368 6383 63E4 22BF1 6422 63C5 63A9 3A2E 6469 647E 649D
6477 3A6C 654F 656C 2300A 65E3 66F8 6649 3B19 6691 3B08 3AE4 5192 5195 6700 669C 80AD 43D9 6717
671B 6721 675E 6753 233C3 3B49 67FA 6785 6852 6885 2346D 688E 681F 6914 3B9D 6942 69A3 69EA 6AA8
236A3 6ADB 3C18 6B21 238A7 6B54 3C4E 6B72 6B9F m2.6BBA 23A8D 21D0B 23AFA 6C4E 23CBC 6CBF 6CCD
6C67 6D16 6D3E 6D77 6D41 6D69 6D78 6D85 23D1E 6D34 6E2F 6E6E 3D33 6ECB 6EC7 23ED1 6DF9 6F6E
23F5E 23F8E 6FC6 7039 701E 701B 3D96 704A 707D 7077 70AD 20525 7145 24263 719C 243AB 7228 7235
7250 24608 7280 7295 24735 24814 737A 738B 3EAC 73A5 3EB8 3EB8 7447 745C 7471 7485 74CA 3F1B
7524 24C36 753E 24C92 7570 2219F 7610 24FA1 24FB8 25044 3FFC 4008 76F4 250F3 250F2 25119 25133
m2.771E 771F 774A 4039 778B 4046 4096 2541D 784E 788C 78CC 40E3 25626 7956 2569A 256C5 798F 79EB
412F 7A40 7A4A 7A4F 2597C 25AA7 25AA7 7AEE 4202 25BAB 7BC6 7BC9 4227 25C80 7CD2 42A0 7CE8 7CE3
7D00 25F86 7D63 4301 7DC7 7E02 7E45 4334 26228 26247 4359 262D9 7F7A 2633E 7F95 7FFA 8005 264DA
26523 8060 265A8 8070 2335F 43D5 80B2 8103 440B 813E 5AB5 267A7 267B5 23393 2339C 8201 8204 8F9E
446B 8291 828B 829D 52B3 82B1 82B3 82BD 82E6 26B3C 82E5 831D 8363 83AD 8323 83BD 83E7 8457 8353
83CA 83CC 83DC 26C36 26D6B 26CD5 452B 84F1 84F3 8516 273CA 8564 26F2C 455D 4561 26FB1 270D2 456B
8650 865C 8667 8669 86A9 8688 870E 86E2 8779 8728 876B 8786 45D7 87E1 8801 45F9 8860 8863 27667
88D7 88DE 4635 88FA 34BB 278AE 27966 46BE 46C7 8AA0 8AED 8B8A 8C55 27CA8 8CAB 8CC1 8D1B 8D77
27F2F 20804 8DCB 8DBC 8DF0 208DE 8ED4 8F38 285D2 285ED 9094 90F1 9111 2872E 911B 9238 m2.92D7
927C 93F9 9415 28BFA 958B 4995 95B7 28D77 49E6 96C3 5DB2 9723 29145 2921A 4A6E 4A76 97E0 2940A
4AB2 29496 980B 980B 9829 295B6 98E2 4B33 9929 99A7 99C2 99FE 4BCE 29B30 9B12 9C40 9CFD 4CCE
4CED 9D67 2A0CE 4CF8 2A105 2A20E 2A291 9EBB 4D56 9EF9 9EFE 9F05 9F0F 9F16 9F3B 2A600 r5E2 k134B
r5 k212A rACC86 iF0
"

def mapping : List (Nat × Action) := (Runs.words mappingTable).map Action.run

/-- What a character is read as; `none` if no name may hold it. -/
def read? (c : Char) : Option (List Char) :=
  if c.toNat < 128 then some [c.toLower]
  else match Runs.find? mapping (c.toNat - 128) with
    | some (_, .keep) => some [c]
    | some (_, .leaveOut) => some []
    | some (k, .pairs) => some [if k % 2 = 0 then Char.ofNat (c.toNat + 1) else c]
    | some (k, .shift target) => some [Char.ofNat (target + k)]
    | some (_, .spell codes) => some (codes.map Char.ofNat)
    | some (_, .refuse) | none => none

/-- What a text is read as. -/
def readAll? (cs : List Char) : Option (List Char) := (cs.mapM read?).map List.flatten

theorem read?_ascii {c : Char} (h : c.toNat < 128) : read? c = some [c.toLower] := by
  simp [read?, h]

/-- A text in ASCII only loses its case. -/
theorem readAll?_ascii {cs : List Char} (h : ∀ c ∈ cs, c.toNat < 128) :
    readAll? cs = some (cs.map Char.toLower) := by
  have key : cs.mapM read? = some (cs.map fun c => [c.toLower]) := by
    induction cs with
    | nil => rfl
    | cons c cs ih => simp [read?_ascii (h c (by simp)), ih fun d hd => h d (by simp [hd])]
  rw [readAll?, key, Option.map_some, ← List.flatMap_def, List.map_eq_flatMap]

end Failover.Idna
