/-! Punycode: a label of any characters written with letters, digits and hyphens. The ASCII
characters stand in front; the others follow in ascending order as gaps, each gap a number in base
36 whose digits end at a threshold that adapts to the gaps seen so far. -/
namespace Failover.Punycode

/-- The digit of a value below 36: a letter, then a figure. -/
def digit (d : Nat) : Char :=
  if d < 26 then Char.ofNat ('a'.toNat + d) else Char.ofNat ('0'.toNat + (d - 26))

def digit? (c : Char) : Option Nat :=
  if 'a' ≤ c ∧ c ≤ 'z' then some (c.toNat - 'a'.toNat)
  else if 'A' ≤ c ∧ c ≤ 'Z' then some (c.toNat - 'A'.toNat)
  else if '0' ≤ c ∧ c ≤ '9' then some (c.toNat - '0'.toNat + 26)
  else none

/-- The digits below this value end a gap at place `place`. -/
def threshold (place bias : Nat) : Nat :=
  if place ≤ bias then 1 else if bias + 26 ≤ place then 26 else place - bias

theorem threshold_pos (place bias : Nat) : 1 ≤ threshold place bias := by
  unfold threshold; split
  · omega
  · split <;> omega

theorem threshold_le (place bias : Nat) : threshold place bias ≤ 26 := by
  unfold threshold; split
  · omega
  · split <;> omega

/-- The bias for a gap of this size once it has been shrunk below the middle of the range. -/
def settle (size bias : Nat) : Nat :=
  if 455 < size then settle (size / 35) (bias + 36) else bias + 36 * size / (size + 38)
termination_by size
decreasing_by omega

/-- The bias after a gap, with so many characters placed; the first gap counts less. -/
def adapt (gap placed : Nat) (first : Bool) : Nat :=
  let size := if first then gap / 700 else gap / 2
  settle (size + size / placed) 0

/-- A gap in digits from place `place` on. -/
def digits (gap place bias : Nat) : List Char :=
  let t := threshold place bias
  if gap < t then [digit gap]
  else digit (t + (gap - t) % (36 - t)) :: digits ((gap - t) / (36 - t)) (place + 36) bias
termination_by gap
decreasing_by
  have h₁ := threshold_pos place bias
  have h₂ := threshold_le place bias
  have h₃ : (gap - threshold place bias) / (36 - threshold place bias) ≤
    gap - threshold place bias := Nat.div_le_self _ _
  omega

/-- How far an encoder has come: the characters written, the gap since the last one written, the
bias and the digits so far. -/
structure Writer where
  written : Nat
  gap : Nat
  bias : Nat
  text : List Char

/-- Passes one character of the label while those equal to `c` are being written. -/
def Writer.pass (basic : Nat) (c : Nat) (w : Writer) (d : Nat) : Writer :=
  if d < c then { w with gap := w.gap + 1 }
  else if d = c then
    { written := w.written + 1
      gap := 0
      bias := adapt w.gap (w.written + 1) (w.written == basic)
      text := w.text ++ digits w.gap 36 w.bias }
  else w

/-- The characters from 128 on, each once, in ascending order. -/
def outside (cs : List Nat) : List Nat :=
  ((cs.filter (128 ≤ ·)).mergeSort (· ≤ ·)).eraseDups

/-- The label in letters, digits and hyphens. -/
def encode (label : List Char) : List Char :=
  let codes := label.map Char.toNat
  let basic := label.filter (·.toNat < 128)
  let start : Writer := ⟨basic.length, 0, 72, []⟩
  let (_, done) := (outside codes).foldl (fun (next, w) c =>
    let w := { w with gap := w.gap + (c - next) * (w.written + 1) }
    let w := codes.foldl (Writer.pass basic.length c) w
    (c + 1, { w with gap := w.gap + 1 })) (128, start)
  (if basic.isEmpty then [] else basic ++ ['-']) ++ done.text

/-- How far a decoder has come: the label so far, the next character to place and where, the bias;
and of the gap being read its start, weight and place. -/
structure Reader where
  label : List Nat
  code : Nat
  position : Nat
  bias : Nat
  start : Nat
  weight : Nat
  place : Nat

def Reader.begin (label : List Nat) (code position bias : Nat) : Reader :=
  ⟨label, code, position, bias, position, 1, 36⟩

/-- Reads one digit; the one below its threshold ends the gap and places a character. -/
def Reader.take (r : Reader) (c : Char) : Option Reader := do
  let d ← digit? c
  let position := r.position + d * r.weight
  if 4294967296 ≤ position then none
  let t := threshold r.place r.bias
  if t ≤ d then
    some { r with position, weight := r.weight * (36 - t), place := r.place + 36 }
  else
    let count := r.label.length + 1
    let code := r.code + position / count
    let position := position % count
    if 0x10FFFF < code ∨ (0xD800 ≤ code ∧ code ≤ 0xDFFF) then none
    some (.begin (r.label.insertIdx position code) code (position + 1)
      (adapt (r.position + d * r.weight - r.start) count (r.start == 0)))

/-- The label that a text of letters, digits and hyphens stands for. Its ASCII characters stand in
front of the last hyphen, if there are any. -/
def decode? (text : List Char) : Option (List Char) := do
  let (basic, rest) := match text.reverse.dropWhile (· != '-') with
    | [] | [_] => ([], text)
    | _ :: front => (front.reverse, (text.reverse.takeWhile (· != '-')).reverse)
  let r ← rest.foldlM Reader.take (Reader.begin (basic.map Char.toNat) 128 0 72)
  if r.weight = 1 then some (r.label.map Char.ofNat) else none

end Failover.Punycode
