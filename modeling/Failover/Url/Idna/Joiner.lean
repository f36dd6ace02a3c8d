import Failover.Text.Combining

/-! The two joiners, which have no shape of their own. A name may hold one behind a sign that joins
consonants; the one that parts letters may also stand between two letters that would join. -/
namespace Failover.Idna

/-- On which sides a character joins the next one. -/
inductive Join where
  | none
  | left
  | right
  | both
  /-- A mark that the letters around it join across. -/
  | transparent
  deriving DecidableEq, Repr

/-- A run of characters that join alike. -/
def Join.run : List Char → Nat × Join
  | 't' :: n => (Runs.number n, .transparent)
  | 'l' :: n => (Runs.number n, .left)
  | 'r' :: n => (Runs.number n, .right)
  | 'd' :: n => (Runs.number n, .both)
  | w => (Runs.number (w.drop 1), .none)

/-- From U+0080 on: `n` not at all, `l` and `r` on one side, `d` on both, `t` transparent, with
counts. -/
def joinTable : String := "
n2D t1 n252 t70 n113 t7 n107 t2D n1 t1 n1 t2 n1 t2 n1 t1 n48 tB n1 t1 n3 d1 n1 r4 d1 r1 d1 r1 d5
r4 dD n1 d7 r1 d2 t15 nE d2 t1 r3 n1 r3 d10 r12 d26 r1 d2 r9 d1 r1 d1 r1 d2 r2 n1 r1 t7 n2 t6 n2
t2 n1 t4 r2 nA d3 n2 d1 nF t1 r1 t1 d3 r5 d4 r1 d9 r1 d1 r1 d1 r1 d2 r1 t1B n2 r1 dB r3 dF r2 d4
r1 d1 r2 d3 r2 d6 n26 tB n19 d21 t9 n9 t1 n18 t4 n1 t9 n1 t3 n1 t5 n12 r1 d5 r2 d1 r1 dA r1 d1
r3 t3 n4 d1 n1 d4 n1 r1 d1 r2 n5 r13 n3 d1 n2 d5 r1 d1 n7 t9 dA r3 n1 r1 d2 r2 d6 r1 dF n1 t18
n1 t20 n37 t1 n1 t1 n4 t8 n4 t1 n3 t7 nA t2 n1D t1 n3A t1 n4 t4 n8 t1 n14 t2 n1A t1 n2 t2 n39 t1
n4 t2 n4 t2 n2 t3 n3 t1 n1E t2 n3 t1 nB t2 n39 t1 n4 t5 n1 t2 n4 t1 n14 t2 n16 t6 n1 t1 n3A t1
n2 t1 n1 t4 n8 t1 n7 t2 nB t2 n1E t1 n3D t1 nC t1 n32 t1 n3 t1 n37 t1 n1 t3 n5 t3 n1 t4 n7 t2 nB
t2 n1D t1 n3A t1 n2 t1 n6 t1 n5 t2 n14 t2 n1C t2 n39 t2 n4 t4 n8 t1 n14 t2 n1D t1 n48 t1 n7 t3
n1 t1 n5A t1 n2 t7 nC t8 n62 t1 n2 t9 nB t7 n49 t2 n1B t1 n1 t1 n1 t1 n37 tE n1 t5 n1 t2 n5 tB
n1 t24 n9 t1 n66 t4 n1 t6 n1 t2 n2 t2 n19 t2 n4 t3 n10 t4 nD t1 n2 t2 n6 t1 nF t1 n2BF t3 n3B2
t3 n1D t2 n1E t2 n1E t2 n40 t2 n1 t7 n8 t1 n2 tB n9 t1 n29 d1 n3 t3 n1 t1 n10 d59 nC t2 d22 t1
d1 n75 t3 n4 t2 n9 t1 n6 t3 nDB t2 n2 t1 n3A t1 n1 t7 n1 t1 n1 t1 n2 t8 n6 tA n2 t1 n30 t2E n2
tC n14 t4 n30 t1 n1 t5 n1 t1 n5 t1 n28 t9 nC t2 n20 t4 n2 t2 n1 t3 n38 t1 n1 t2 n3 t1 n1 t3 n3A
t8 n2 t2 n98 t3 n1 tD n1 t7 n4 t1 n6 t1 n3 t2 nC6 t40 n20B t1 n2 t2 n1A t5 n31 t5 n5 t6 n60 t21
nBFE t3 n8D t1 n60 t20 n22A t4 n6B t2 n75D4 t4 n1 tA n20 t2 n50 t2 n110 t1 n3 t1 n4 t1 n19 t2 n5
t1 n13 d32 l1 n51 t2 n1A t12 nD t1 n26 t8 n19 tB n2E t3 n30 t1 n2 t4 n2 t2 n27 t1 n43 t6 n2 t2
n2 t2 nC t1 n8 t1 n2F t1 n33 t1 n1 t3 n2 t2 n5 t2 n1 t1 n2A t2 n8 t1 nEE t1 n2 t1 n4 t1 n4F30 t1
n2E1 t10 n10 t10 nCF t1 nF9 t3 n201 t1 nE2 t1 n95 t5 n686 t3 n1 t2 n5 t4 n28 t3 n4 t1 n80 d5 r1
n1 r1 n1 r2 n2 l1 r5 d4 l1 d5 r1 d3 r1 n2 r1 t2 n4 d4 r1 n90 d1 r1 d1 r3 d3 r1 d2 r1 d1 r2 d1 r1
n17 r4 d2 n151 l1 d21 r1 d1 t4 n41 t5 n13D t2 n15 r1 d2 n1 d2 n32 t6 n30 d3 r1 d11 n1 tB d3 r1
n1B d4 r2 dC t4 n2A d1 n1 d2 r3 n1 d1 r2 d2 r1 d2 n1 d1 r2 d1 n4 r1 d1 l1 n35 t1 n36 tF n29 t1
n2 t2 nA t3 n31 t4 n2 t2 n7 t1 n3D t3 n24 t5 n1 t8 n3E t1 nC t2 n34 t9 nA t4 n2 t1 n5F t3 n2 t1
n1 t2 n6 t1 n2 t1 n9D t1 n3 t8 n15 t2 n39 t2 n3 t1 n25 t7 n3 t5 n46 t6 nD t1 n1 t1 n1 t1 nE t2
n55 t8 n2 t3 n1 t1 n17 t1 n54 t6 n1 t1 n4 t2 n1 t2 nEE t4 n6 t2 n1 t2 n1B t2 n55 t8 n2 t1 n1 t2
n6A t1 n1 t1 n2 t6 n1 t1 n65 t1 n1 t1 n2 t4 n1 t5 n103 t9 n1 t2 n100 t2 n1 t1 n4 t1 n90 t4 n2 t2
n4 t1 n20 tA n28 t6 n2 t4 n8 t1 n9 t6 n2 t3 n2E tD n1 t2 nC6 t1 n1 t3 n1 t1 nC9 t7 n1 t6 n1 t1
n52 t16 n2 t7 n1 t2 n1 t2 n7A t6 n3 t1 n1 t2 n1 t7 n1 t1 n48 t2 n3 t1 n1 t1 n15B t2 nB t2 n34 t5
n5 t1 n1 t1 n17 t1 n14D5 t11 n6 tF n2CC8 tC n3 t3 n9C0 t5 n3B t7 n418 t1 n3F t4 n51 t1 n4CB8 t2
n1 t4 n125C t2E n2 t17 n220 t3 n9 t10 n2 t7 n1E t4 n94 t3 n7BB t37 n4 t32 n8 t1 nE t1 n16 t5 n1
tF n550 t7 n1 t11 n2 t7 n1 t2 n1 t5 n64 t1 nA0 t7 n177 t1 n3D t4 n1FC t4 nFE t2 nF3 t1 n2 t1 n7
t2 n5 t1 n1DA t7 n29 d44 t8 nC16B5 t1 n1E t60 n80 tF0
"

def joins : List (Nat × Join) := (Runs.words joinTable).map Join.run

def Join.of (c : Char) : Join :=
  if c.toNat < 128 then .none else Runs.valueAt .none joins (c.toNat - 128)

/-- How the nearest character joins that is not transparent. -/
def Join.nearest (cs : List Char) : Join :=
  ((cs.map Join.of).find? (· != .transparent)).getD .none

/-- Whether a joiner may stand behind `before`, nearest first, and in front of `after`. -/
def joinerFits (c : Char) (before after : List Char) : Bool :=
  let behindVirama := (before.head?.map Combining.classOf) == some Combining.virama
  let reaches := Join.nearest before == .left || Join.nearest before == .both
  let reached := Join.nearest after == .right || Join.nearest after == .both
  behindVirama || (c == '\u200C' && reaches && reached)

/-- Whether each joiner of a text may stand where it does; `before` is what stands in front of the
text, nearest first. -/
def joinersFit (before : List Char) : List Char → Bool
  | [] => true
  | c :: cs =>
    (!(c == '\u200C' || c == '\u200D') || joinerFits c before cs) && joinersFit (c :: before) cs

end Failover.Idna
