import Failover.Text.Numeral
import Mathlib.Data.List.Induction
import Mathlib.Tactic.IntervalCases

/-!
# Numerals that are read back

The digits of a number, in any base up to sixteen, are read as that number.
-/

namespace Failover.Numeral

/-! ## Digits -/

theorem digit?_digitChar {n : Nat} (h : n < 16) : digit? n.digitChar = some n := by
  interval_cases n <;> rfl

theorem isDigit_digitChar {base n : Nat} (hb : base ≤ 16) (h : n < base) :
    isDigit base n.digitChar = true := by
  rw [isDigit, digit?_digitChar (by omega)]
  exact decide_eq_true h

/-- Every character that a number is written with is a digit. -/
theorem isDigit_of_mem_toDigits {base n : Nat} {c : Char} (hb : 1 < base) (hb' : base ≤ 16)
    (hc : c ∈ Nat.toDigits base n) : isDigit base c = true := by
  induction n using Nat.strongRecOn with
  | ind n ih =>
    rw [Nat.toDigits_eq_if hb] at hc
    split at hc
    · rename_i small
      rw [List.mem_singleton.mp hc]
      exact isDigit_digitChar hb' small
    · rcases List.mem_append.mp hc with front | last
      · exact ih (n / base) (Nat.div_lt_self (by omega) hb) front
      · rw [List.mem_singleton.mp last]
        exact isDigit_digitChar hb' (Nat.mod_lt n (by omega))

/-- A number is the value of its digits. -/
theorem value_toDigits {base : Nat} (hb : 1 < base) (hb' : base ≤ 16) (n : Nat) :
    value base (Nat.toDigits base n) = n := by
  induction n using Nat.strongRecOn with
  | ind n ih =>
    rw [Nat.toDigits_eq_if hb]
    split
    · rename_i small
      show 0 * base + (digit? n.digitChar).getD 0 = n
      rw [digit?_digitChar (by omega), Nat.zero_mul, Nat.zero_add]
      rfl
    · have last : n % base < 16 := Nat.lt_of_lt_of_le (Nat.mod_lt n (by omega)) hb'
      rw [value_concat, ih (n / base) (Nat.div_lt_self (by omega) hb), digit?_digitChar last]
      exact Nat.div_add_mod' n base

theorem read?_toDigits {base : Nat} (hb : 1 < base) (hb' : base ≤ 16) (n : Nat) :
    read? base (Nat.toDigits base n) = some n := by
  have digits : (Nat.toDigits base n).all (isDigit base) = true :=
    List.all_eq_true.mpr fun c hc => isDigit_of_mem_toDigits hb hb' hc
  have some' : (Nat.toDigits base n).isEmpty = false := by simp
  rw [read?, some', digits, value_toDigits hb hb']
  rfl

/-- A number of so many digits lies below the power of the base. -/
theorem value_lt {base : Nat} {cs : List Char} (h : cs.all (isDigit base) = true) :
    value base cs < base ^ cs.length := by
  induction cs using List.reverseRecOn with
  | nil => exact Nat.one_pos
  | append_singleton front c ih =>
    rw [List.all_append, Bool.and_eq_true] at h
    have last : (digit? c).getD 0 < base := by
      have digit := List.all_eq_true.mp h.2 c List.mem_cons_self
      rw [isDigit] at digit
      split at digit
      · rename_i d hd
        rw [hd]
        exact of_decide_eq_true digit
      · cases digit
    have front_lt := ih h.1
    rw [value_concat, List.length_append, List.length_singleton, Nat.pow_succ]
    calc value base front * base + (digit? c).getD 0
        < value base front * base + base := by omega
      _ = (value base front + 1) * base := (Nat.succ_mul _ _).symm
      _ ≤ base ^ front.length * base := Nat.mul_le_mul_right _ front_lt

theorem lt_of_read? {base n : Nat} {cs : List Char} (h : read? base cs = some n) :
    n < base ^ cs.length := by
  rw [read?] at h
  split at h
  · rename_i digits
    cases h
    simp only [Bool.and_eq_true] at digits
    exact value_lt digits.2
  · cases h

/-- The digits of base ten. -/
def tenDigits : List Char := "0123456789".toList

/-- The digits of all bases. -/
def allDigits : List Char := tenDigits ++ "abcdefABCDEF".toList

/-- A character within bounds is in a list that holds all within them. -/
theorem mem_of_between {c : Char} {cs : List Char} (low high : Nat)
    (all : ∀ n, low ≤ n → n ≤ high → Char.ofNat n ∈ cs) (h : low ≤ c.toNat ∧ c.toNat ≤ high) :
    c ∈ cs := by
  rw [← Char.ofNat_toNat c]
  exact all c.toNat h.1 h.2

theorem mem_tenDigits {c : Char} (h : c.isDigit = true) : c ∈ tenDigits := by
  refine mem_of_between 48 57 ?_ (Char.isDigit_iff_toNat.mp h)
  intro n hl hh
  interval_cases n <;> decide

theorem mem_allDigits {base : Nat} {c : Char} (h : isDigit base c = true) : c ∈ allDigits := by
  rw [isDigit, digit?] at h
  split at h
  · rename_i d hd
    split at hd
    · rename_i decimal
      exact List.mem_append_left _ (mem_tenDigits (Char.isDigit_iff_toNat.mpr decimal))
    · split at hd
      · rename_i small
        refine mem_of_between 97 102 ?_ small
        intro n hl hh
        interval_cases n <;> decide
      · split at hd
        · rename_i capital
          refine mem_of_between 65 70 ?_ capital
          intro n hl hh
          interval_cases n <;> decide
        · cases hd
  · cases h

/-! ## Decimal and hexadecimal -/

theorem toList_decimal (n : Nat) : (decimal n).toList = Nat.toDigits 10 n := by
  rw [decimal, Nat.toString_eq_ofList_toDigits, String.toList_ofList]

theorem toList_hexadecimal (n : Nat) : (hexadecimal n).toList = Nat.toDigits 16 n := by
  rw [hexadecimal, String.toList_ofList]

/-- The characters of a decimal number. -/
theorem isDigit_of_mem_decimal {n : Nat} {c : Char} (hc : c ∈ (decimal n).toList) :
    c.isDigit = true := by
  rw [toList_decimal] at hc
  exact Nat.isDigit_of_mem_toDigits (by omega) (by omega) hc

/-- A decimal number begins with a zero only if it is zero. -/
theorem head_decimal {n : Nat} (h : (decimal n).toList.head? = some '0') : n = 0 := by
  rw [toList_decimal] at h
  induction n using Nat.strongRecOn with
  | ind n ih =>
    rw [Nat.toDigits_eq_if (by omega)] at h
    split at h
    · rename_i small
      interval_cases n <;> first | rfl | cases h
    · rw [List.head?_append, List.head?_eq_some_head Nat.toDigits_ne_nil, Option.some_or,
        ← List.head?_eq_some_head] at h
      have front := ih (n / 10) (by omega) h
      omega

/-! ## Numbers in a row -/

/-- What stands in a row is a separator or stands in one of the parts. -/
theorem mem_intercalate {sep c : Char} {parts : List (List Char)}
    (h : c ∈ [sep].intercalate parts) : c = sep ∨ ∃ part ∈ parts, c ∈ part := by
  induction parts with
  | nil => cases h
  | cons part rest ih =>
    cases rest with
    | nil =>
      rw [List.intercalate_singleton] at h
      exact .inr ⟨part, List.mem_cons_self, h⟩
    | cons next rest =>
      rw [List.intercalate_cons_cons] at h
      rcases List.mem_append.mp h with h | h
      · rcases List.mem_append.mp h with h | h
        · exact .inr ⟨part, List.mem_cons_self, h⟩
        · exact .inl (List.mem_singleton.mp h)
      · rcases ih h with h | ⟨other, ho, h⟩
        · exact .inl h
        · exact .inr ⟨other, List.mem_cons_of_mem part ho, h⟩

end Failover.Numeral
