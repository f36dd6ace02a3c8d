import Failover.Proofs.Text.Numeral
import Failover.Url.Ipv4

/-!
# IPv4 addresses that are read back

An address that has been read fits four bytes, and its text is read as the same address.
-/

namespace Failover.Ipv4

/-! ## Numbers -/

/-- A number in decimal has no leading zero, so that it is read in base ten. -/
theorem number?_decimal (n : Nat) : number? (Numeral.decimal n).toList = some n := by
  by_cases zero : n = 0
  · rw [zero]
    rfl
  · have head : (Numeral.decimal n).toList.head? ≠ some '0' :=
      fun h => zero (Numeral.head_decimal h)
    rw [number?.eq_def]
    split
    · rename_i none
      rw [Numeral.toList_decimal] at none
      exact absurd none Nat.toDigits_ne_nil
    · rename_i e
      rw [e] at head
      exact absurd rfl head
    · rename_i e
      rw [e] at head
      exact absurd rfl head
    · rw [Numeral.toList_decimal]
      exact Numeral.read?_toDigits (by omega) (by omega) n

theorem mapM_number?_decimal (ns : List Nat) :
    (ns.map fun n => (Numeral.decimal n).toList).mapM number? = some ns := by
  induction ns with
  | nil => rfl
  | cons n rest ih => simp [number?_decimal, ih]

/-! ## The text of an address -/

/-- The bytes of an address, the highest first. -/
def bytes (address : Nat) : List Nat :=
  [address / 16777216 % 256, address / 65536 % 256, address / 256 % 256, address % 256]

theorem toList_text (address : Nat) :
    (text address).toList =
      ['.'].intercalate ((bytes address).map fun b => (Numeral.decimal b).toList) := by
  rw [text, String.toList_intercalate]
  simp [bytes]

/-- The characters of an IPv4 address. -/
theorem mem_text {address : Nat} {c : Char} (h : c ∈ (text address).toList) :
    c.isDigit = true ∨ c = '.' := by
  rw [toList_text] at h
  rcases Numeral.mem_intercalate h with h | ⟨part, hp, h⟩
  · exact .inr h
  · obtain ⟨b, _, rfl⟩ := List.mem_map.mp hp
    exact .inl (Numeral.isDigit_of_mem_decimal h)

theorem splitOn_text (address : Nat) :
    (text address).toList.splitOn '.' =
      (bytes address).map fun b => (Numeral.decimal b).toList := by
  rw [toList_text, List.splitOn_intercalate]
  · intro label hl dot
    obtain ⟨b, _, rfl⟩ := List.mem_map.mp hl
    exact absurd (Numeral.isDigit_of_mem_decimal dot) (by decide)
  · exact List.cons_ne_nil _ _

theorem labels_text (address : Nat) :
    labels (text address).toList = (bytes address).map fun b => (Numeral.decimal b).toList := by
  rw [labels, splitOn_text]
  refine if_neg fun h => ?_
  have last : (Numeral.decimal (address % 256)).toList = [] := Option.some.inj h
  rw [Numeral.toList_decimal] at last
  exact Nat.toDigits_ne_nil last

/-- The last label of a name says whether the name has to be an address. -/
theorem endsInNumber_of_getLast? {cs last : List Char} (h : (labels cs).getLast? = some last)
    (some' : last ≠ []) :
    endsInNumber cs = (last.all (Numeral.isDigit 10) || (number? last).isSome) := by
  rw [endsInNumber, h]
  cases last with
  | nil => exact absurd rfl some'
  | cons c rest => rfl

/-- The text of an address has to be one. -/
theorem endsInNumber_text (address : Nat) : endsInNumber (text address).toList = true := by
  have last : (labels (text address).toList).getLast? =
      some (Numeral.decimal (address % 256)).toList := by
    rw [labels_text]
    rfl
  have some' : (Numeral.decimal (address % 256)).toList ≠ [] := by
    rw [Numeral.toList_decimal]
    exact Nat.toDigits_ne_nil
  rw [endsInNumber_of_getLast? last some', number?_decimal]
  simp

/-- All numbers but the last are bytes, and the last fills the places that they leave. -/
theorem assemble?_concat (front : List Nat) (last : Nat) :
    assemble? (front ++ [last]) =
      if 4 ≤ front.length ∨ front.any (255 < ·) ∨ 256 ^ (4 - front.length) ≤ last then none
      else some (front.foldl (· * 256 + ·) 0 * 256 ^ (4 - front.length) + last) := by
  simp only [assemble?, List.reverse_append, List.reverse_singleton, List.singleton_append,
    List.reverse_reverse]
  rfl

theorem assemble?_bytes {address : Nat} (h : address < 4294967296) :
    assemble? (bytes address) = some address := by
  have whole : bytes address =
      [address / 16777216 % 256, address / 65536 % 256, address / 256 % 256] ++
        [address % 256] := rfl
  rw [whole, assemble?_concat, if_neg]
  · simp only [List.foldl_cons, List.foldl_nil, List.length_cons, List.length_nil]
    congr 1
    omega
  · simp only [List.length_cons, List.length_nil, List.any_cons, List.any_nil, Bool.or_false,
      Bool.or_eq_true, decide_eq_true_eq]
    omega

/-- The text of an address is read as that address. -/
theorem read?_text {address : Nat} (h : address < 4294967296) :
    read? (text address).toList = some address := by
  rw [read?, labels_text, mapM_number?_decimal]
  exact assemble?_bytes h

/-! ## What is read -/

theorem foldl_bytes_lt {ns : List Nat} (h : ∀ n ∈ ns, n ≤ 255) (front : Nat) :
    ns.foldl (· * 256 + ·) front < (front + 1) * 256 ^ ns.length := by
  induction ns generalizing front with
  | nil => simp
  | cons n rest ih =>
    have first := h n List.mem_cons_self
    have later := ih (fun m hm => h m (List.mem_cons_of_mem n hm)) (front * 256 + n)
    refine Nat.lt_of_lt_of_le later ?_
    rw [List.length_cons, Nat.pow_succ, Nat.mul_comm (256 ^ _) 256, ← Nat.mul_assoc]
    exact Nat.mul_le_mul_right _ (by omega)

/-- An address that has been read fits four bytes. -/
theorem lt_of_read? {cs : List Char} {address : Nat} (h : read? cs = some address) :
    address < 4294967296 := by
  obtain ⟨numbers, _, h⟩ := Option.bind_eq_some_iff.mp h
  rcases List.eq_nil_or_concat numbers with rfl | ⟨front, last, rfl⟩
  · cases h
  · rw [List.concat_eq_append, assemble?_concat] at h
    split at h
    · cases h
    · rename_i fits
      obtain ⟨short, fits⟩ := not_or.mp fits
      obtain ⟨small, room⟩ := not_or.mp fits
      cases h
      have bytes : ∀ n ∈ front, n ≤ 255 := by
        intro n hn
        refine Nat.le_of_not_lt fun large => small ?_
        exact List.any_eq_true.mpr ⟨n, hn, decide_eq_true large⟩
      have places : 256 ^ front.length * 256 ^ (4 - front.length) = 4294967296 := by
        rw [← Nat.pow_add, Nat.add_sub_cancel' (Nat.le_of_lt (Nat.lt_of_not_le short))]
      have upper := Nat.mul_le_mul_right (256 ^ (4 - front.length)) (foldl_bytes_lt bytes 0)
      rw [Nat.zero_add, Nat.one_mul, places, Nat.succ_mul] at upper
      omega

end Failover.Ipv4
