import Failover.Proofs.Url.Ipv4
import Failover.Proofs.Url.Ipv6
import Failover.Proofs.Url.Percent
import Failover.Url.Host

/-!
# Hosts that are read back

A host that has been read under a network scheme is a domain name, or an address that fits its
kind. Its text is read as the same host, and holds no character that would end it early.
-/

namespace Failover

/-! ## Names in digits -/

/-- Labels in ASCII keep to one direction. -/
theorem Idna.directed_of_ascii {labels : List (List Char)}
    (ascii : ∀ label ∈ labels, ∀ c ∈ label, c.toNat < 128) : directed labels = true := by
  have left : ∀ c : Char, c.toNat < 128 → (Direction.of c).fromRight = false := by
    intro c hc
    rw [Direction.of, if_pos hc]
    split
    · rfl
    · split <;> rfl
  rw [directed, Bool.or_eq_true, Bool.not_eq_true']
  refine .inl (Bool.eq_false_iff.mpr fun h => ?_)
  obtain ⟨ds, hd, h⟩ := List.any_eq_true.mp h
  obtain ⟨label, hl, rfl⟩ := List.mem_map.mp hd
  obtain ⟨d, hd, h⟩ := List.any_eq_true.mp h
  obtain ⟨c, hc, rfl⟩ := List.mem_map.mp hd
  rw [left c (ascii label hl c hc)] at h
  cases h

theorem Domain.all_isPlain {name : List Char} (h : isName name = true) :
    name.all isPlain = true := by
  rw [isName, Bool.and_eq_true] at h
  exact h.1

/-- A label of digits stands for itself. -/
theorem Domain.label?_decimal (n : Nat) :
    label? (Numeral.decimal n).toList = some (Numeral.decimal n).toList := by
  refine if_neg fun marked => ?_
  obtain ⟨rest, e⟩ := List.isPrefixOf_iff_prefix.mp marked
  have digit : 'x'.isDigit = true := by
    refine Numeral.isDigit_of_mem_decimal (n := n) ?_
    rw [← e]
    exact List.mem_append_left rest List.mem_cons_self
  cases digit

/-- The text of an address is a domain name. -/
theorem Ipv4.isName_text (address : Nat) : Domain.isName (text address).toList = true := by
  have plain : ∀ c ∈ (text address).toList, Domain.isPlain c = true := by
    intro c hc
    have digits : ∀ d ∈ Numeral.tenDigits, Domain.isPlain d = true :=
      List.forall_iff_forall_mem.mp (by decide)
    rcases mem_text hc with digit | rfl
    · exact digits c (Numeral.mem_tenDigits digit)
    · rfl
  have labels : ∀ ns : List Nat, (ns.map fun n => (Numeral.decimal n).toList).mapM Domain.label? =
      some (ns.map fun n => (Numeral.decimal n).toList) := by
    intro ns
    induction ns with
    | nil => rfl
    | cons n rest ih => simp [Domain.label?_decimal, ih]
  have directed : Idna.directed ((bytes address).map fun b => (Numeral.decimal b).toList) := by
    refine Idna.directed_of_ascii ?_
    intro label hl c hc
    obtain ⟨b, _, rfl⟩ := List.mem_map.mp hl
    have digit := Char.isDigit_iff_toNat.mp (Numeral.isDigit_of_mem_decimal hc)
    exact Nat.lt_of_le_of_lt digit.2 (by decide)
  rw [Domain.isName, splitOn_text, labels, Option.any_some, directed, Bool.and_true]
  exact List.all_eq_true.mpr plain

theorem Ipv4.text_ne_nil (address : Nat) : (text address).toList ≠ [] := by
  intro none
  have parts := congrArg List.length (splitOn_text address)
  rw [none, List.length_map] at parts
  cases parts

/-! ## Written hosts -/

namespace Host

/-- A host as it is kept under a network scheme. -/
inductive IsWritten : Host → Prop
  | domain {name : List Char} (isName : Domain.isName name = true) (some' : name ≠ [])
      (numberless : Ipv4.endsInNumber name = false) : IsWritten (.domain name)
  | ipv4 {address : Nat} (fits : address < 4294967296) : IsWritten (.ipv4 address)
  | ipv6 {groups : List Nat} (isAddress : Ipv6.IsAddress groups) : IsWritten (.ipv6 groups)

/-- What is read under a network scheme is kept. -/
theorem isWritten_of_network {cs : List Char} {h : Host} (read : network cs = .ok h) :
    IsWritten h := by
  rw [network] at read
  split at read
  · rw [bracketed] at read
    split at read
    · split at read
      · rename_i groups e
        cases read
        exact .ipv6 (Ipv6.isAddress_of_read? e)
      · cases read
    · cases read
  · split at read
    · cases read
    · cases read
    · rename_i name some' e
      split at read
      · split at read
        · rename_i address e
          cases read
          exact .ipv4 (Ipv4.lt_of_read? e)
        · cases read
      · rename_i numberless
        cases read
        exact .domain (Domain.isName_of_toAscii? e) some' (Bool.eq_false_iff.mpr numberless)

/-- A name is read as what it stands for, without a change. -/
theorem network_of_isName {name : List Char} (isName : Domain.isName name = true)
    (some' : name ≠ []) :
    network name =
      if Ipv4.endsInNumber name then
        match Ipv4.read? name with
        | some address => .ok (.ipv4 address)
        | none => .error .badIpv4
      else .ok (.domain name) := by
  have plain := Domain.all_isPlain isName
  have bracketless : name.head? ≠ some '[' := by
    intro h
    have bracket := List.all_eq_true.mp plain '[' (List.mem_of_mem_head? h)
    cases bracket
  have unescaped : '%' ∉ name := by
    intro h
    have percent := List.all_eq_true.mp plain '%' h
    cases percent
  have ascii : ∀ c ∈ name, c.toNat < 128 := fun c hc =>
    of_decide_eq_true (List.all_eq_true.mp (Domain.ascii_of_plain plain) c hc)
  rw [network, if_neg bracketless, Percent.decode_encode ascii unescaped,
    Domain.toAscii?_of_isName isName]
  cases name with
  | nil => exact absurd rfl some'
  | cons c rest => rfl

/-- The characters that end an authority or are no part of a URL. -/
def isOuter (c : Char) : Bool := c.toNat ≤ 32 || "#?/\\".toList.contains c

theorem isOuter_of_visible {c : Char} (visible : 32 < c.toNat) (h : c ∉ "#?/\\".toList) :
    isOuter c = false := by
  rw [isOuter, Bool.or_eq_false_iff, decide_eq_false_iff_not, List.contains_eq_mem,
    decide_eq_false_iff_not]
  exact ⟨by omega, h⟩

theorem isOuter_of_plain {c : Char} (h : Domain.isPlain c = true) : isOuter c = false := by
  have visible : 32 < c.toNat := by
    refine @Percent.lt_of_unescaped (fun c => !Domain.isPlain c) c (fun d low => ?_) rfl
      (by simp [h])
    simp [Domain.isPlain, Domain.isForbidden, low]
  refine isOuter_of_visible visible fun mark => ?_
  have plain : ∀ d ∈ "#?/\\".toList, Domain.isPlain d = false :=
    List.forall_iff_forall_mem.mp (by decide)
  rw [plain c mark] at h
  cases h

/-- What holds of plain characters and of those of IPv6 addresses holds of those of hosts. -/
theorem IsWritten.forall_mem_chars {h : Host} (written : IsWritten h) {p : Char → Prop}
    (plain : ∀ c, Domain.isPlain c = true → p c) (address : ∀ c ∈ '[' :: ']' :: ':' ::
      Numeral.allDigits, p c) : ∀ c ∈ h.chars, p c := by
  intro c hc
  cases written with
  | domain isName some' numberless =>
    exact plain c (List.all_eq_true.mp (Domain.all_isPlain isName) c hc)
  | @ipv4 address fits =>
    exact plain c (List.all_eq_true.mp (Domain.all_isPlain (Ipv4.isName_text address)) c hc)
  | @ipv6 groups isAddress =>
    refine address c ?_
    rcases List.mem_append.mp hc with front | last
    · rcases List.mem_cons.mp front with rfl | inner
      · exact List.mem_cons_self
      · rcases Ipv6.mem_text inner with digit | rfl
        · simp [Numeral.mem_allDigits digit]
        · simp
    · rw [List.mem_singleton.mp last]
      simp

/-- No character of a host ends its authority. -/
theorem IsWritten.isOuter_eq {h : Host} (written : IsWritten h) :
    ∀ c ∈ h.chars, isOuter c = false :=
  written.forall_mem_chars (fun _ => isOuter_of_plain)
    (List.forall_iff_forall_mem.mp (by decide))

theorem IsWritten.at_not_mem {h : Host} (written : IsWritten h) : '@' ∉ h.chars := by
  have other : ∀ c ∈ h.chars, c ≠ '@' := by
    refine written.forall_mem_chars ?_ (List.forall_iff_forall_mem.mp (by decide))
    rintro c plain rfl
    cases plain
  exact fun hc => other '@' hc rfl

theorem IsWritten.chars_ne_nil {h : Host} (written : IsWritten h) : h.chars ≠ [] := by
  cases written with
  | domain isName some' numberless => exact some'
  | ipv4 fits => exact Ipv4.text_ne_nil _
  | ipv6 isAddress => exact List.cons_ne_nil _ _

/-- The text of a host is read as that host. -/
theorem IsWritten.network_chars {h : Host} (written : IsWritten h) : network h.chars = .ok h := by
  cases written with
  | @domain name isName some' numberless =>
    rw [chars, network_of_isName isName some', numberless]
    rfl
  | @ipv4 address fits =>
    rw [chars, network_of_isName (Ipv4.isName_text address) (Ipv4.text_ne_nil address),
      Ipv4.endsInNumber_text, Ipv4.read?_text fits]
    rfl
  | @ipv6 groups isAddress =>
    have closed : ('[' :: (Ipv6.text groups).toList ++ [']']).getLast? = some ']' :=
      List.getLast?_concat
    have inner : (('[' :: (Ipv6.text groups).toList ++ [']']).drop 1).dropLast =
        (Ipv6.text groups).toList := List.dropLast_concat
    have opened : ('[' :: (Ipv6.text groups).toList ++ [']']).head? = some '[' := rfl
    rw [chars, network, if_pos opened, bracketed, if_pos closed, inner,
      Ipv6.read?_text isAddress]

end Host

end Failover
