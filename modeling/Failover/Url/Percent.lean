import Failover.Text.Numeral

/-! Percent-encoding: which characters each component of a URL writes as escapes, and the escapes
themselves. A character outside ASCII is always written as the escapes of its UTF-8 bytes. -/
namespace Failover.Percent

/-- Control characters of ASCII. -/
def isControl (c : Char) : Bool := c.toNat < 32 || c.toNat == 127

def inFragment (c : Char) : Bool := isControl c || " \"<>`".toList.contains c

def inPath (c : Char) : Bool := inFragment c || "#?\x7b\x7d".toList.contains c

def inUserinfo (c : Char) : Bool := inPath c || "/:;=@[\\]^|".toList.contains c

def inQuery (c : Char) : Bool := isControl c || " \"#<>".toList.contains c

/-- The query of a network scheme also escapes the apostrophe. -/
def inNetworkQuery (c : Char) : Bool := inQuery c || c == '\''

/-- One byte as an escape. -/
def escape (b : UInt8) : List Char :=
  ['%', Numeral.upperHex (b.toNat / 16), Numeral.upperHex (b.toNat % 16)]

/-- One character, escaped if it is in the set or not in ASCII. -/
def encodeChar (set : Char → Bool) (c : Char) : List Char :=
  if c.toNat < 128 && !set c then [c] else (String.utf8EncodeChar c).flatMap escape

def encode (set : Char → Bool) (cs : List Char) : List Char := cs.flatMap (encodeChar set)

/-- The bytes of an escaped text after those read before, last one first. An escape that is not
followed by two digits stands for itself. -/
def decodeOnto (read : List UInt8) : List UInt8 → List UInt8
  | [] => read
  | [b] => b :: read
  | [b, c] => c :: b :: read
  | b :: h :: l :: rest =>
    match Numeral.digit? (Char.ofNat h.toNat), Numeral.digit? (Char.ofNat l.toNat) with
    | some hi, some lo =>
      if b = 37 then decodeOnto (UInt8.ofNat (hi * 16 + lo) :: read) rest
      else decodeOnto (b :: read) (h :: l :: rest)
    | _, _ => decodeOnto (b :: read) (h :: l :: rest)

/-- The bytes that an escaped text stands for. -/
def decode (bs : List UInt8) : List UInt8 := (decodeOnto [] bs).reverse

/-- A character that is in ASCII and outside the set is left as it is. -/
theorem encodeChar_of_plain {set : Char → Bool} {c : Char} (hc : c.toNat < 128)
    (hs : set c = false) : encodeChar set c = [c] := by
  simp [encodeChar, hc, hs]

/-- A text of plain characters is left as it is. -/
theorem encode_of_plain {set : Char → Bool} {cs : List Char}
    (h : ∀ c ∈ cs, c.toNat < 128 ∧ set c = false) : encode set cs = cs := by
  induction cs with
  | nil => rfl
  | cons c cs ih =>
    have hc := h c (by simp)
    have hr := ih fun d hd => h d (by simp [hd])
    simp only [encode, List.flatMap_cons] at hr ⊢
    rw [hr, encodeChar_of_plain hc.1 hc.2]
    rfl

end Failover.Percent
