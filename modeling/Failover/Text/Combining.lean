import Failover.Text.Runs

/-! Characters that combine with the one in front: which ones are marks, and the class by which the
marks on one character are ordered. -/
namespace Failover.Combining

/-- From U+0080 on: so many characters that are no marks, so many that are, and so on in turn. -/
def marksTable : String := "
280 70 113 7 107 2D 1 1 1 2 1 2 1 1 48 B 30 15 10 1 65 7 2 6 2 2 1 4 23 1 1E 1B 5B B 3A 9 9 1 18
4 1 9 1 3 1 5 2B 3 3B 9 2A 18 1 21 36 3 1 12 1 7 A 2 1D 3 38 1 1 7 2 2 2 3 9 1 A 2 1A 1 2 3 38 1
1 5 4 2 2 3 3 1 1E 2 3 1 B 3 38 1 1 8 1 3 1 3 14 2 16 6 1 3 38 1 1 7 2 2 2 3 7 3 A 2 1E 1 3B 5 3
3 1 4 9 1 28 5 37 1 1 7 1 3 1 4 7 2 B 2 1D 3 38 1 1 7 1 3 1 4 7 2 B 2 F 1 C 4 37 2 1 7 1 3 1 4 9
1 A 2 1D 3 46 1 4 6 1 1 1 8 12 2 3D 1 2 7 C 8 62 1 2 9 B 7 49 2 1B 1 1 1 1 1 4 2 31 14 1 2 5 B 1
24 9 1 64 14 17 4 4 3 1 3 2 7 3 4 D C 1 1 A 4 2BF 3 3B2 4 1C 3 1D 2 1E 2 40 20 9 1 2D 3 1 1 75 2
22 1 76 C 4 C DB 5 39 A 1 1D 2 1 30 2E 2 C 14 5 2F 11 26 9 C 3 1E D 38 E 30 14 98 3 1 15 4 1 6 1
2 3 C6 40 2D0 21 BFE 3 8D 1 60 20 22A 6 69 2 75D4 4 1 A 20 2 50 2 110 1 3 1 4 1 17 5 4 1 53 2 32
12 1A 12 D 1 26 8 19 D 2C 4 2F E 24 1 43 E C 1 8 2 2D 3 32 1 1 3 2 2 5 2 1 1 29 5 5 2 EC 8 1 2
4F30 1 2E1 10 10 10 3CD 1 E2 1 95 5 686 3 1 2 5 4 28 3 4 1 A5 2 23D 4 41 5 13D 2 4D 6 46 B 31 4
7A 3 35 F 29 1 2 2 A 4 2D B 7 1 3D 3 24 E 10 2 2C 1 C 3 30 E 8 4 1 2 5C C 6 1 2 1 9D C 15 4 37 2
1 7 2 2 2 3 9 1 A 2 2 7 3 5 43 9 1 1 2 1 1 4 1 5 1 1 E 2 52 12 17 1 51 14 EB 7 2 9 1B 2 52 11 6A
D 65 F 100 F F5 6 1 2 2 4 1 1 1 2 8D 7 2 7 3 1 1C A 28 7 1 4 8 1 9 B 2E 10 C6 8 C7 8 1 8 52 16 1
E 7A 6 3 1 1 2 1 7 1 1 42 5 1 2 1 5 15B 4 9 2 1 1 30 7 3 5 17 1 14E5 1 6 F 2CC8 12 9C0 5 3B 7
418 1 1 37 7 4 51 1 B 2 4CAB 2 1261 2E 2 17 21E 5 3 6 8 8 2 7 1E 4 94 3 7BB 37 4 32 8 1 E 1 16 5
1 F 550 7 1 11 2 7 1 2 1 5 64 1 A0 7 177 1 3D 4 1FC 4 FE 2 F3 1 2 1 7 2 5 1 1DA 7 6D 7 C17B5 F0
"

/-- Runs of characters that are marks, and of those that are not. -/
def marks : List (Nat × Bool) :=
  (Runs.words marksTable).zipIdx.map fun (w, place) => (Runs.number w, place % 2 = 1)

/-- Whether the character is a mark on the one in front. -/
def isMark (c : Char) : Bool :=
  128 ≤ c.toNat && Runs.valueAt false marks (c.toNat - 128)

/-- From U+0080 on: so many characters, and behind a point their class if it is not zero. -/
def classTable : String := "
280 15.E6 1.E8 4.DC 1.E8 1.D8 5.DC 2.CA 4.DC 2.CA B.DC 5.1 4.DC 8.E6 1.F0 1.E6 3.DC 3.E6 2.DC 1
3.E6 4.DC 1.E6 1.E8 2.DC 1.E6 1.E9 2.EA 1.E9 2.EA 1.E9 D.E6 113 5.E6 109 1.DC 4.E6 1.DC 3.E6
1.DE 1.DC 6.E6 6.DC 2.E6 1.DC 2.E6 1.DE 1.E4 1.E6 1.A 1.B 1.C 1.D 1.E 1.F 1.10 1.11 1.12 2.13
1.14 1.15 1.16 1 1.17 1 1.18 1.19 1 1.E6 1.DC 1 1.12 48 8.E6 1.1E 1.1F 1.20 30 1.1B 1.1C 1.1D
1.1E 1.1F 1.20 1.21 1.22 2.E6 2.DC 5.E6 1.DC 2.E6 1.DC 10 1.23 65 7.E6 2 4.E6 1.DC 1.E6 2 2.E6 1
1.DC 2.E6 1.DC 23 1.24 1E 1.E6 1.DC 2.E6 1.DC 2.E6 3.DC 1.E6 2.DC 1.E6 1.DC 3.E6 1.DC 1.E6 1.DC
1.E6 1.DC 1.E6 1.DC 2.E6 A0 7.E6 1.DC 1.E6 9 1.DC 18 4.E6 1 9.E6 1 3.E6 1 5.E6 2B 3.DC 3B 2.E6
3.DC 4.E6 2A 5.E6 5.DC E.E6 1 1.DC 2.E6 1.DC 2.E6 1.DC 3.E6 3.DC 1.1B 1.1C 1.1D 3.E6 1.DC 2.E6
2.DC 5.E6 3C 1.7 10 1.9 3 1.E6 1.DC 2.E6 67 1.7 10 1.9 30 1.E6 3D 1.7 10 1.9 6E 1.7 10 1.9 6E
1.7 10 1.9 7F 1.9 6E 1.7 10 1.9 7 1.54 1.5B 65 1.7 10 1.9 6D 2.9 10 1.9 7C 1.9 6D 2.67 1.9 D
4.6B 6C 2.76 1.9 D 4.7A 4C 2.DC 1B 1.DC 1 1.DC 1 1.D8 37 1.81 1.82 1 1.84 5 4.82 2 1.82 1 2.E6
1.9 1 2.E6 3E 1.DC 70 1.7 1 2.9 52 1.DC 2CF 3.E6 3B4 2.9 1E 1.9 9D 1.9 A 1.E6 CB 1.E4 8F 1.DE
1.E6 1.DC DB 1.E6 1.DC 47 1.9 14 8.E6 2 1.DC 30 5.E6 6.DC 2.E6 1.DC 1 2.DC 2.E6 2.DC 5.E6 1.DC
12.E6 1.DC 2 6.E6 1.DC 4.E6 1.EA 48 1.7 F 1.9 26 1.E6 1.DC 7.E6 36 2.9 3A 1.7 B 2.9 43 1.7 98
3.E6 1 1.1 5.DC 2.E6 4.DC 1.E6 1 7.1 4 1.DC 6 1.E6 3 2.E6 C6 2.E6 1.DC 7.E6 1.DC 2.E6 1.EA 1.D6
1.DC 1.CA 25.E6 1.E8 2.E4 1.DC 1.DA 1.E6 1.E9 1.DC 1.E6 1.DC 2D0 2.E6 2.1 4.E6 3.1 2.E6 4 1.E6 3
2.1 1.E6 1.DC 1.E6 2.1 4.DC 1.E6 BFE 3.E6 8D 1.9 60 20.E6 22A 1.DA 1.E4 1.E8 1.DE 2.E0 69 2.8
75D4 1.E6 4 A.E6 20 2.E6 50 2.E6 114 1.9 25 1.9 97 1.9 1B 12.E6 39 3.DC 25 1.9 5F 1.7 C 1.9 EF
1.E6 1 2.E6 1.DC 2 2.E6 5 2.E6 1 1.E6 34 1.9 F6 1.9 4F30 1.1A 301 7.E6 7.DC 2.E6 3CD 1.DC E2
1.DC 95 5.E6 692 1.DC 1 1.E6 28 1.E6 1.1 1.DC 4 1.9 A5 1.E6 1.DC 23D 4.E6 41 5.E6 13D 2.E6 4D
2.DC 1 3.DC 46 2.DC 3.E6 1.DC 1.E6 4.DC 31 1.E6 1.DC 1.E6 1.DC C0 1.9 29 1.9 E 1.9 39 1.9 1.7 45
3.E6 30 2.9 3E 1.7 4C 1.9 9 1.7 6A 1.9 1.7 B2 1.7 1.9 50 2.7 10 1.9 18 7.E6 3 5.E6 59 3.9 71 1.9
3 1.7 17 1.E6 63 1.9 1.7 FB 1.9 1.7 7E 1.9 76 1.9 1.7 73 1.9 10D 1.9 1.7 102 2.9 4 1.7 9C 1.9 53
1.9 12 1.9 51 1.9 1A5 1.9 102 1.7 1 2.9 51 1.9 1A9 2.9 41EC 1.9 9C0 5.1 3B 7.E6 4B9 2.6 4CAC 1.1
14C6 2.D8 3.1 3 1.E2 5.D8 8 8.DC 2 5.E6 2.DC 1E 4.E6 94 3.E6 DBB 7.E6 1 11.E6 2 7.E6 1 2.E6 1
5.E6 64 1.E6 A0 7.E6 177 1.E6 3D 4.E6 1FC 2.E8 1.DC 1.E6 FE 1.E6 1.DC F3 1.E6 2 1.E6 7 2.E6 5
1.E6 1DA 7.DC 6D 6.E6 1.7
"

/-- A run of characters of one class. -/
def classRun (w : List Char) : Nat × Nat :=
  match w.splitOn '.' with
  | [n, k] => (Runs.number n, Runs.number k)
  | _ => (Runs.number w, 0)

def classes : List (Nat × Nat) := (Runs.words classTable).map classRun

/-- The class of a character; zero for one that is no mark or keeps its place. -/
def classOf (c : Char) : Nat :=
  if c.toNat < 128 then 0 else Runs.valueAt 0 classes (c.toNat - 128)

/-- The class of the signs that join consonants. -/
def virama : Nat := 9

end Failover.Combining
