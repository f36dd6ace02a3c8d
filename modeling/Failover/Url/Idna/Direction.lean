import Failover.Text.Runs

/-! Names in scripts that are written from the right. Where a name has such a label, each of its
labels keeps to one direction: its first character sets it, and digits stand where they cannot be
read in two ways. -/
namespace Failover.Idna

/-- How a character behaves between the two directions. -/
inductive Direction where
  | left
  | right
  | arabicDigit
  | europeanDigit
  /-- A mark on the character in front. -/
  | mark
  /-- Any other character, which takes the direction around it. -/
  | neutral
  deriving DecidableEq, Repr

/-- A run of one direction. -/
def Direction.run : List Char → Nat × Direction
  | 'r' :: n => (Runs.number n, .right)
  | 'a' :: n => (Runs.number n, .arabicDigit)
  | 'e' :: n => (Runs.number n, .europeanDigit)
  | 'n' :: n => (Runs.number n, .mark)
  | 'o' :: n => (Runs.number n, .neutral)
  | w => (Runs.number (w.drop 1), .left)

/-- From U+0080 on: `l` left, `r` right, `a` and `e` digits, `n` marks, `o` others, with counts.
Only what a name may hold is told apart. What stands behind the last run is written from the left.
-/
def directionTable : String := "
l21 o3E l18 o1 l1C1 o2 l7 oE l2 o1C l1 o11 n70 l5 o2 l7F o2 l8B n7 l100 o7 n2D r1 n1 r1 n2 r1 n2
r1 n9 r36 o2 r1 o2 r1 o1 r1 o2 nB r30 n15 aA o1 a2 r3 n1 r65 n8 o1 n6 r2 n2 o1 n4 r2 eA r17 n1
r1E n1D r59 nB r3A n9 r2 o4 r3 n1 r18 n4 r1 n9 r1 n3 r1 n7 r29 n5 r3A n8 r2A n39 l37 n1 l1 n1 l4
n8 l4 n1 l3 nF l2 n2 l1D n1 l3A n1 l4 n6 l6 n1 l14 n4 lC o2 l7 o1 l2 n5 l39 n2 l3 n1B l14 n2 l3
n1 lB n2 l39 n1 l4 n8 l4 n3 l12 n4 lB o8 l1 n8 l3A n1 l2 n1 l1 n6 l6 nA lB n4 l1C n1 l3D n1 lC
n3 l23 oD n1 l3 n1 l37 n1 l1 n3 l5 n12 lA n4 l12 o7 l2 n1 l3A n1 lF n9 lD n4 l1A n2 l39 n2 l4 n5
l7 n1 l14 n4 l1B n1 l48 n5 l3 n6 l59 n1 l2 nB o1 l7 n8 l62 n1 l2 n9 lB n8 l48 n2 l1B n1 l1 n1 l1
n1 o4 l33 nE l1 n5 l1 n2 l5 n31 l8 n1 l66 n4 l1 n6 l1 n2 l2 n2 l19 n2 l4 n3 l10 n4 lD n1 l2 n2
l6 n1 lF n1 l2BF n3 l30 o10 l60 o1 l29A o5 l72 n3 l1D n2 l1E nE l12 nE l37 n7 l8 n1 l2 nB l7 o1
l1 n3 l10 o20 l75 n2 l22 n1 l76 n3 l4 n2 l9 n1 l6 n7 o6 l98 o22 l17 n2 l2 n3 l38 n1 l1 n9 l1 n1
l2 n8 l6 nD l30 n54 l30 n1 l1 n5 l1 n1 l5 n1 l28 n9 lC n2 l20 n4 l2 n2 l1 n3 l38 n1 l1 n2 l3 n1
l1 n3 l3A n8 l2 n5 l95 n3 l1 nD l1 n7 l4 n1 l6 n1 l3 n2 lC6 n40 l20C oC4 n34 o4A l3C o1AC l45
o1A l1 o316 l1 o153 l100 o330 lB5 o7 l3 n4 l6 o7 l7F n1 l60 n20 o205 l3 o19 l9 n4 l2 o1 l6 o4 l2
o4 l58 n4 l3 o1 l5A o1 lC4 o30 l1BD0 o40 l5690 o40 l13D o3 l5F n4 o1 nA o2 l1E n2 l50 n2 lE o22
l66 o1 l79 n1 l3 n1 l4 n1 l19 n2 l1 o4 n4 l8 o8 l34 oC l44 nA l12 n12 lD n1 l26 n8 l19 nB l2E n3
l30 n1 l2 n4 l2 n2 l27 n1 l43 n6 l2 n2 l2 nB l3 n1 l8 n1 l2F n1 l33 n1 l1 n3 l2 n2 l5 n2 l1 n1
l2A n2 l8 nB l69 o56 l25 n1 l2 n1 l4 n3 l4F2E n94 r18C oE2 n25 o2E r18D l101 o1 l3E o4D l3 o40
l2D n83 l60 n1 e1F l76 nA l480 r11F o1 rE1 nF r28 n8 rA5 n6 r4E o7 r1E4 nC a150 r2B n2 r50 n3
r46 nB r31 n4 r7A l1 n1 l36 nF lB o14 lA n1 l2 n2 lA n3 l31 n4 l2 n2 l7 nE l30 n3 l24 n5 l1 n9
l3D n1 lC n2 l34 n9 lA n4 l2 n1 l5F n3 l2 n1 l1 n2 l6 n1 l2 n3F l5F n1 l3 nD l10 n2 l39 n2 l3 n1
l25 n9A l38 n8 l2 n3 l1 n1 l17 n1 l54 n6 l1 n1 l4 n2 l1 n2 lEE n6 l4 n2 l1 n2 l1B n24 l33 n8 l2
n1 l1 n2 l1F o20 l2B n1 l1 n1 l2 n6 l1 n1 l65 n3 l2 n4 l1 n9 lFF n9 l1 n2 l100 n2 l1 n1 l4 n1
l90 n8 l4 n1 l20 n6 l2 n2 l28 n6 l2 n4 l8 n9 l1 n6 l2 n3 l2E nD l1 n2 l196 nE l54 n17 l1 n7 l1
n2 l1 n4B l31 n15 l1 n9 l40 n3 l2 n1 l1 n1 l15B n2 lB n2 l34 n8 l2 n1 l1 n1 l92 o2A l1441 n1 l6
nFB9 l26F0 n5 l3B n7 l418 n1 l3F n4 l4F o1 l1 nC l4CAD n2 l1261 n50 l217 n3 l11 n8 l2 n7 l1E n4
l3B o59 n3 o7B l40 o60 l6A0 n37 l4 n32 l8 n1 lE n1 l16 n465 l100 n100 l30 n7 l177 n12 l2C n4 lF
o1D1 l1C n4 l310 rD0 n52 r22 n7 r5A5 o260 l1D o3 l3D o39 l7A oDA0
"

def directions : List (Nat × Direction) := (Runs.words directionTable).map Direction.run

def Direction.of (c : Char) : Direction :=
  if c.toNat < 128 then
    if c.isDigit then .europeanDigit else if c.isAlpha then .left else .neutral
  else Runs.valueAt .left directions (c.toNat - 128)

/-- Whether a character makes its name one of those that the rule is for. -/
def Direction.fromRight : Direction → Bool
  | .right | .arabicDigit => true
  | _ => false

/-- Whether a label of these directions keeps to one of them. -/
def Direction.keeps (ds : List Direction) : Bool :=
  let last := (ds.reverse.dropWhile (· == .mark)).head?
  match ds.head? with
  | none => true
  | some .left =>
    ds.all (!·.fromRight) && (last == some .left || last == some .europeanDigit)
  | some .right =>
    !ds.contains .left && !(ds.contains .arabicDigit && ds.contains .europeanDigit)
      && (last == some .right || last == some .arabicDigit || last == some .europeanDigit)
  | _ => false

/-- Whether the labels may stand in one name. -/
def directed (labels : List (List Char)) : Bool :=
  let ds := labels.map (·.map Direction.of)
  !ds.any (·.any Direction.fromRight) || ds.all Direction.keeps

end Failover.Idna
