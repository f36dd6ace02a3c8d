import Failover.Text.Utf8
import Failover.Url.Percent
import Mathlib.Data.List.Basic
import Mathlib.Tactic.IntervalCases

/-!
# What percent-encoding writes

An encoded text is plain: every character of it is in ASCII and outside the set, so that to encode
it again changes nothing. Decoding changes nothing either where there is no percent sign.
-/

namespace Failover.Percent

/-! ## Encoding -/

/-- A text that is written as it is. -/
def IsPlain (set : Char → Bool) (cs : List Char) : Prop := ∀ c ∈ cs, c.toNat < 128 ∧ set c = false

/-- The characters of escapes. -/
def escapeChars : List Char := "%0123456789ABCDEF".toList

section Encoding

variable {set : Char → Bool} {cs : List Char} {c d : Char}

theorem IsPlain.encode_eq (h : IsPlain set cs) : encode set cs = cs := encode_of_plain h

/-- A component that is written as it is does not change. -/
theorem map_encode {component : Option (List Char)}
    (h : ∀ cs, component = some cs → IsPlain set cs) : component.map (encode set) = component := by
  cases component with
  | none => rfl
  | some cs => rw [Option.map_some, (h cs rfl).encode_eq]

theorem IsPlain.nil : IsPlain set [] := nofun

theorem IsPlain.not_mem (h : IsPlain set cs) (escaped : set d = true) : d ∉ cs := by
  intro hd
  rw [(h d hd).2] at escaped
  cases escaped

/-- What is written as itself can be seen, if blanks and control characters are escaped. -/
theorem lt_of_unescaped (control : ∀ c, isControl c = true → set c = true) (blank : set ' ' = true)
    (h : set c = false) : 32 < c.toNat := by
  have other : isControl c = false := by
    refine Bool.eq_false_iff.mpr fun low => ?_
    rw [control c low] at h
    cases h
  have below : ¬c.toNat < 32 := by
    rw [isControl, Bool.or_eq_false_iff, decide_eq_false_iff_not] at other
    exact other.1
  have apart : c.toNat ≠ 32 := by
    intro e
    rw [show c = ' ' from Char.toNat_inj.mp e, blank] at h
    cases h
  omega

theorem inFragment_of_isControl (h : isControl c = true) : inFragment c = true := by
  simp [inFragment, h]

theorem inPath_of_isControl (h : isControl c = true) : inPath c = true := by
  simp [inPath, inFragment_of_isControl h]

theorem inNetworkQuery_of_isControl (h : isControl c = true) : inNetworkQuery c = true := by
  simp [inNetworkQuery, inQuery, h]

theorem upperHex_mem {n : Nat} (h : n < 16) : Numeral.upperHex n ∈ escapeChars := by
  interval_cases n <;> decide

theorem mem_escapeChars_of_mem_escape {b : UInt8} (h : d ∈ escape b) : d ∈ escapeChars := by
  have small := b.toNat_lt
  rcases List.mem_cons.mp h with rfl | h
  · decide
  rcases List.mem_cons.mp h with rfl | h
  · exact upperHex_mem (by omega)
  · rw [List.mem_singleton.mp h]
    exact upperHex_mem (by omega)

/-- A character is written as itself or by the characters of escapes. -/
theorem mem_encodeChar (h : d ∈ encodeChar set c) :
    (d = c ∧ c.toNat < 128 ∧ set c = false) ∨ d ∈ escapeChars := by
  rw [encodeChar] at h
  split at h
  · rename_i plain
    simp only [Bool.and_eq_true, decide_eq_true_eq, Bool.not_eq_true'] at plain
    exact .inl ⟨List.mem_singleton.mp h, plain⟩
  · obtain ⟨b, _, hb⟩ := List.mem_flatMap.mp h
    exact .inr (mem_escapeChars_of_mem_escape hb)

/-- A character that is no part of an escape is in the written text only if it was in the text. -/
theorem mem_of_mem_encode (h : d ∈ encode set cs) (hd : d ∉ escapeChars) : d ∈ cs := by
  obtain ⟨c, hc, h⟩ := List.mem_flatMap.mp h
  rcases mem_encodeChar h with ⟨rfl, _⟩ | escaped
  · exact hc
  · exact absurd escaped hd

/-- A written text is plain, if escapes are. -/
theorem isPlain_encode (escapes : escapeChars.all (!set ·) = true) (cs : List Char) :
    IsPlain set (encode set cs) := by
  intro d h
  obtain ⟨c, _, h⟩ := List.mem_flatMap.mp h
  rcases mem_encodeChar h with ⟨rfl, plain⟩ | escaped
  · exact plain
  · have ascii : ∀ d ∈ escapeChars, d.toNat < 128 := List.forall_iff_forall_mem.mp (by decide)
    have plain := List.all_eq_true.mp escapes d escaped
    exact ⟨ascii d escaped, by simpa using plain⟩

theorem encode_ne_nil (h : cs ≠ []) : encode set cs ≠ [] := by
  cases cs with
  | nil => exact absurd rfl h
  | cons c rest =>
    have first : encodeChar set c ≠ [] := by
      rw [encodeChar]
      split
      · exact List.cons_ne_nil _ _
      · cases hc : String.utf8EncodeChar c with
        | nil => exact absurd hc String.utf8EncodeChar_ne_nil
        | cons b bs => simp [escape]
    simp [encode, first]

/-! ## Dots -/

/-- Whether each percent sign begins the escape of a dot. -/
def escapesDots : List Char → Bool
  | '%' :: h :: l :: rest => h == '2' && (l == 'e' || l == 'E') && escapesDots rest
  | '%' :: _ => false
  | _ :: rest => escapesDots rest
  | [] => true

/-- A character in ASCII is one byte, and any other begins with a byte that is none of those. -/
theorem exists_first_byte (c : Char) :
    ∃ b bs, String.utf8EncodeChar c = b :: bs ∧ (b.toNat = c.toNat ∨ 192 ≤ b.toNat) := by
  rw [String.utf8EncodeChar]
  by_cases one : c.val.toNat ≤ 0x7f
  · rw [if_pos one]
    refine ⟨_, _, rfl, .inl ?_⟩
    rw [UInt8.toNat_ofNat']
    exact Nat.mod_eq_of_lt (by omega)
  · rw [if_neg one]
    split
    · refine ⟨_, _, rfl, .inr ?_⟩
      rw [UInt8.toNat_ofNat']
      omega
    · split
      · refine ⟨_, _, rfl, .inr ?_⟩
        rw [UInt8.toNat_ofNat']
        omega
      · refine ⟨_, _, rfl, .inr ?_⟩
        rw [UInt8.toNat_ofNat']
        omega

/-- The escape of a byte is that of a dot only if the byte is a dot. -/
theorem escape_dot {b : UInt8} (h : Numeral.upperHex (b.toNat / 16) = '2')
    (l : Numeral.upperHex (b.toNat % 16) = 'e' ∨ Numeral.upperHex (b.toNat % 16) = 'E') :
    b.toNat = 46 := by
  have two : ∀ n < 16, Numeral.upperHex n = '2' → n = 2 := by decide
  have fourteen : ∀ n < 16, Numeral.upperHex n = 'e' ∨ Numeral.upperHex n = 'E' → n = 14 := by
    decide
  have small := b.toNat_lt
  have high := two _ (by omega) h
  have low := fourteen _ (by omega) l
  omega

theorem escapesDots_cons (hc : c ≠ '%') : escapesDots (c :: cs) = escapesDots cs := by
  rw [escapesDots.eq_def]
  split
  · rename_i e
    cases e
    exact absurd rfl hc
  · rename_i e
    cases e
    exact absurd rfl hc
  · rename_i e
    cases e
    rfl
  · rename_i e
    cases e

/-- A percent sign that stands in front of no escape of a dot fails the check. -/
theorem escapesDots_percent (h : escapesDots ('%' :: cs) = true) :
    ∃ l rest, cs = '2' :: l :: rest ∧ (l = 'e' ∨ l = 'E') ∧ escapesDots rest = true := by
  match cs with
  | [] => cases h
  | [_] => cases h
  | h' :: l :: rest =>
    simp only [escapesDots, Bool.and_eq_true, beq_iff_eq, Bool.or_eq_true] at h
    obtain ⟨⟨rfl, hl⟩, tail⟩ := h
    exact ⟨l, rest, rfl, hl, tail⟩

theorem escapesDots_tail (h : escapesDots (c :: cs) = true) : escapesDots cs = true := by
  by_cases hc : c = '%'
  · subst hc
    obtain ⟨l, rest, rfl, hl, tail⟩ := escapesDots_percent h
    rw [escapesDots_cons (by simp), escapesDots_cons]
    · exact tail
    · rcases hl with rfl | rfl <;> decide
  · rwa [escapesDots_cons hc] at h

/-- A text that holds no escapes but those of dots once it is written was written as it is, if dots
are not escaped. -/
theorem encode_of_escapesDots (dots : set '.' = false) (h : escapesDots (encode set cs) = true) :
    encode set cs = cs := by
  induction cs with
  | nil => rfl
  | cons c rest ih =>
    have parts : encode set (c :: rest) = encodeChar set c ++ encode set rest := rfl
    rw [parts] at h ⊢
    by_cases plain : (c.toNat < 128 && !set c) = true
    · have first : encodeChar set c = [c] := if_pos plain
      rw [first, List.singleton_append] at h ⊢
      rw [ih (escapesDots_tail h)]
    · have first : encodeChar set c = (String.utf8EncodeChar c).flatMap escape := if_neg plain
      obtain ⟨b, bs, bytes, value⟩ := exists_first_byte c
      rw [first, bytes] at h
      obtain ⟨l, tail, e, hl, _⟩ := escapesDots_percent h
      -- the byte is that of a dot, which is written as it is
      have dot : b.toNat = 46 := by
        injection e with high e
        injection e with low e
        exact escape_dot high (by rw [low]; exact hl)
      have hc : c = '.' := by
        rw [dot] at value
        rcases value with one | many
        · exact Char.toNat_inj.mp one.symm
        · omega
      subst hc
      rw [dots] at plain
      exact absurd rfl plain

end Encoding

/-! ## Decoding -/

/-- Nothing is decoded where there is no percent sign. -/
theorem decodeOnto_eq {bs : List UInt8} (h : 37 ∉ bs) (read : List UInt8) :
    decodeOnto read bs = bs.reverse ++ read := by
  induction bs generalizing read with
  | nil => rfl
  | cons b rest ih =>
    have hb : b ≠ 37 := fun e => h (e ▸ List.mem_cons_self)
    have step : decodeOnto read (b :: rest) = decodeOnto (b :: read) rest := by
      match rest with
      | [] => rfl
      | [_] => rfl
      | h :: l :: rest =>
        rw [decodeOnto.eq_def]
        simp only [if_neg hb]
        split <;> rfl
    rw [step, ih (fun e => h (List.mem_cons_of_mem _ e))]
    simp

theorem decode_eq {bs : List UInt8} (h : 37 ∉ bs) : decode bs = bs := by
  rw [decode, decodeOnto_eq h, List.append_nil, List.reverse_reverse]

/-- The bytes of a text in ASCII, one for each character. -/
theorem encode_ofList {cs : List Char} (ascii : ∀ c ∈ cs, c.toNat < 128) :
    Utf8.encode (String.ofList cs) = cs.map fun c => UInt8.ofNat c.toNat := by
  show (String.ofList cs).toByteArray.data.toList = _
  rw [String.toByteArray_ofList, List.utf8Encode, List.toList_data_toByteArray]
  induction cs with
  | nil => rfl
  | cons c rest ih =>
    have one : String.utf8EncodeChar c = [UInt8.ofNat c.toNat] :=
      if_pos (Nat.le_of_lt_succ (ascii c List.mem_cons_self))
    rw [List.flatMap_cons, one, ih fun d hd => ascii d (List.mem_cons_of_mem c hd)]
    rfl

theorem decode_encode {cs : List Char} (ascii : ∀ c ∈ cs, c.toNat < 128) (h : '%' ∉ cs) :
    decode (Utf8.encode (String.ofList cs)) = Utf8.encode (String.ofList cs) := by
  refine decode_eq fun mem => ?_
  rw [encode_ofList ascii] at mem
  obtain ⟨c, hc, e⟩ := List.mem_map.mp mem
  have small := ascii c hc
  have value : c.toNat = 37 := by
    have bytes : c.toNat % 2 ^ 8 = 37 := by
      rw [← UInt8.toNat_ofNat', e]
      rfl
    rwa [Nat.mod_eq_of_lt (by omega)] at bytes
  refine h ?_
  rw [← show c = '%' from Char.toNat_inj.mp value]
  exact hc

end Failover.Percent
