/-! Bytes as text. Strict reading refuses bytes that are no UTF-8; lenient reading puts one
replacement character for each longest piece that begins a character but does not finish it. -/
namespace Failover.Utf8

/-- The character that stands for bytes that are no text. -/
def replacement : Char := '\uFFFD'

/-- A first byte of several: how many follow, the range of the next one, and its own payload. -/
structure Lead where
  following : Nat
  low : UInt8
  high : UInt8
  payload : Nat

/-- What a byte above 127 begins, if it can begin a character. -/
def lead? (b : UInt8) : Option Lead :=
  if 0xC2 ≤ b ∧ b ≤ 0xDF then some ⟨1, 0x80, 0xBF, b.toNat - 0xC0⟩
  else if b = 0xE0 then some ⟨2, 0xA0, 0xBF, 0⟩
  else if b = 0xED then some ⟨2, 0x80, 0x9F, 0xD⟩
  else if 0xE1 ≤ b ∧ b ≤ 0xEF then some ⟨2, 0x80, 0xBF, b.toNat - 0xE0⟩
  else if b = 0xF0 then some ⟨3, 0x90, 0xBF, 0⟩
  else if 0xF1 ≤ b ∧ b ≤ 0xF3 then some ⟨3, 0x80, 0xBF, b.toNat - 0xF0⟩
  else if b = 0xF4 then some ⟨3, 0x80, 0x8F, 4⟩
  else none

/-- The character finished by `following` bytes, the next one between `low` and `high`, on top of
the payload so far, or the replacement, with the bytes left. -/
def finish (low high : UInt8) (payload : Nat) : Nat → List UInt8 → Char × List UInt8
  | 0, bs => (Char.ofNat payload, bs)
  | _ + 1, [] => (replacement, [])
  | n + 1, b :: bs =>
    if low ≤ b ∧ b ≤ high then finish 0x80 0xBF (payload * 64 + (b.toNat - 0x80)) n bs
    else (replacement, b :: bs)

theorem length_finish_le (low high : UInt8) (payload n : Nat) (bs : List UInt8) :
    (finish low high payload n bs).2.length ≤ bs.length := by
  induction n generalizing low high payload bs with
  | zero => simp [finish]
  | succ n ih =>
    cases bs with
    | nil => simp [finish]
    | cons b bs =>
      simp only [finish]
      split
      · exact Nat.le_succ_of_le (ih ..)
      · exact Nat.le_refl _

/-- The next character and the bytes after it. -/
def next (b : UInt8) (bs : List UInt8) : Char × List UInt8 :=
  if b < 0x80 then (Char.ofNat b.toNat, bs)
  else match lead? b with
    | some l => finish l.low l.high l.payload l.following bs
    | none => (replacement, bs)

theorem length_next_le (b : UInt8) (bs : List UInt8) : (next b bs).2.length ≤ bs.length := by
  unfold next
  split
  · exact Nat.le_refl _
  · split
    · exact length_finish_le ..
    · exact Nat.le_refl _

/-- The characters of `bs` after those read before, last one first. -/
def lenientOnto (read : List Char) (bs : List UInt8) : List Char :=
  match bs with
  | [] => read
  | b :: rest =>
    have := length_next_le b rest
    lenientOnto ((next b rest).1 :: read) (next b rest).2
termination_by bs.length
decreasing_by simp only [List.length_cons]; omega

/-- The text of any bytes, what is no UTF-8 replaced. -/
def lenient (bs : List UInt8) : String := String.ofList (lenientOnto [] bs).reverse

/-- The text of bytes that are UTF-8. -/
def strict? (bs : List UInt8) : Option String := String.fromUTF8? ⟨bs.toArray⟩

/-- The bytes of a text. -/
def encode (s : String) : List UInt8 := s.toUTF8.data.toList

/-- The bytes of a text are read as that text. -/
theorem strict?_encode (s : String) : strict? (encode s) = some s := by
  have h : (ByteArray.mk s.toUTF8.data.toList.toArray) = s.toByteArray := by simp
  rw [strict?, encode, h, String.fromUTF8?, dif_pos s.isValidUTF8]
  rfl

end Failover.Utf8
