import Failover.Proofs.Text.Numeral
import Failover.Url.Ipv6

/-!
# IPv6 addresses that are read back

An address that has been read is eight groups of sixteen bits. Its text leaves out at most one run
of zeros, which reading puts in again.
-/

namespace Failover.Ipv6

/-- Eight groups of sixteen bits. -/
structure IsAddress (groups : List Nat) : Prop where
  length : groups.length = 8
  small : ∀ g ∈ groups, g < 65536

/-! ## Groups -/

/-- A group in hexadecimal. -/
def digits (g : Nat) : List Char := Nat.toDigits 16 g

/-- Groups with colons between them. -/
def joined (gs : List Nat) : List Char := [':'].intercalate (gs.map digits)

theorem colon_not_mem_digits (g : Nat) : ':' ∉ digits g := by
  intro h
  exact absurd (Numeral.isDigit_of_mem_toDigits (by omega) (by omega) h) (by decide)

theorem dot_not_mem_digits (g : Nat) : '.' ∉ digits g := by
  intro h
  exact absurd (Numeral.isDigit_of_mem_toDigits (by omega) (by omega) h) (by decide)

theorem group?_digits {g : Nat} (h : g < 65536) : group? (digits g) = some g := by
  have short : (digits g).length ≤ 4 := (Nat.length_toDigits_le_iff (by omega) (by omega)).mpr h
  rw [group?, if_pos short]
  exact Numeral.read?_toDigits (by omega) (by omega) g

theorem mapM_group?_digits {gs : List Nat} (h : ∀ g ∈ gs, g < 65536) :
    (gs.map digits).mapM group? = some gs := by
  induction gs with
  | nil => rfl
  | cons g rest ih =>
    have first := group?_digits (h g List.mem_cons_self)
    have later := ih fun d hd => h d (List.mem_cons_of_mem g hd)
    simp [first, later]

theorem splitOn_joined {gs : List Nat} (h : gs ≠ []) : (joined gs).splitOn ':' = gs.map digits := by
  rw [joined, List.splitOn_intercalate]
  · intro part hp
    obtain ⟨g, _, rfl⟩ := List.mem_map.mp hp
    exact colon_not_mem_digits g
  · simpa using h

theorem joined_cons (g : Nat) {gs : List Nat} (h : gs ≠ []) :
    joined (g :: gs) = digits g ++ ':' :: joined gs := by
  cases gs with
  | nil => exact absurd rfl h
  | cons d rest =>
    rw [joined, List.map_cons, List.map_cons, List.intercalate_cons_cons, ← List.map_cons]
    simp [joined]

theorem joined_ne_nil {gs : List Nat} (h : gs ≠ []) : joined gs ≠ [] := by
  intro e
  have parts := splitOn_joined h
  rw [e] at parts
  cases gs with
  | nil => exact absurd rfl h
  | cons g rest =>
    injection parts with first _
    exact Nat.toDigits_ne_nil first.symm

/-- The text of groups is read as these groups, wherever an IPv4 address might stand. -/
theorem groups?_joined {gs : List Nat} (h : ∀ g ∈ gs, g < 65536) (tail : Bool) :
    groups? tail (joined gs) = some gs := by
  cases gs with
  | nil => rfl
  | cons g rest =>
    have some' : (joined (g :: rest)).isEmpty = false :=
      List.isEmpty_eq_false_iff.mpr (joined_ne_nil (List.cons_ne_nil _ _))
    have parts := splitOn_joined (List.cons_ne_nil g rest)
    have dotless : ((((g :: rest).map digits).getLast?.getD []).contains '.') = false := by
      rw [List.getLast?_eq_some_getLast (by simp)]
      refine Bool.eq_false_iff.mpr fun dot => ?_
      obtain ⟨last, _, e⟩ := List.mem_map.mp
        (List.getLast_mem (show (g :: rest).map digits ≠ [] from List.cons_ne_nil _ _))
      rw [Option.getD_some, ← e] at dot
      exact dot_not_mem_digits last (List.contains_iff_mem.mp dot)
    simp only [groups?, some', parts, dotless, Bool.and_false, Bool.false_eq_true, if_false]
    exact mapM_group?_digits h

theorem exists_joined_eq_cons {gs : List Nat} (h : gs ≠ []) :
    ∃ c rest, joined gs = c :: rest ∧ c ≠ ':' := by
  obtain ⟨g, gs, rfl⟩ := List.exists_cons_of_ne_nil h
  have some' : digits g ≠ [] := Nat.toDigits_ne_nil
  obtain ⟨c, more, first⟩ := List.exists_cons_of_ne_nil some'
  have hc : c ≠ ':' := fun e => colon_not_mem_digits g (by rw [first, e]; exact List.mem_cons_self)
  cases gs with
  | nil => exact ⟨c, more, List.intercalate_singleton.trans first, hc⟩
  | cons d rest =>
    rw [joined_cons g (List.cons_ne_nil d rest), first]
    exact ⟨c, _, rfl, hc⟩

/-! ## Two colons -/

/-- A character that is no colon is passed over. -/
theorem splitDouble_cons {c : Char} (h : c ≠ ':') (before rest : List Char) :
    splitDouble before (c :: rest) = splitDouble (c :: before) rest := by
  rw [splitDouble.eq_def]
  split
  · rename_i e
    cases e
    exact absurd rfl h
  · rename_i e
    cases e
    rfl
  · rename_i e
    cases e

/-- One colon is passed over. -/
theorem splitDouble_colon {c : Char} (h : c ≠ ':') (before rest : List Char) :
    splitDouble before (':' :: c :: rest) = splitDouble (':' :: before) (c :: rest) := by
  rw [splitDouble.eq_def]
  split
  · rename_i e
    cases e
    exact absurd rfl h
  · rename_i e
    cases e
    rfl
  · rename_i e
    cases e

theorem splitDouble_append {front : List Char} (h : ':' ∉ front) (before rest : List Char) :
    splitDouble before (front ++ rest) = splitDouble (front.reverse ++ before) rest := by
  induction front generalizing before with
  | nil => rfl
  | cons c tail ih =>
    have hc : c ≠ ':' := fun e => h (e ▸ List.mem_cons_self)
    rw [List.cons_append, splitDouble_cons hc, ih fun e => h (List.mem_cons_of_mem c e)]
    simp

/-- Groups with single colons between them are passed over. -/
theorem splitDouble_joined (gs : List Nat) (before rest : List Char) :
    splitDouble before (joined gs ++ rest) = splitDouble ((joined gs).reverse ++ before) rest := by
  induction gs generalizing before with
  | nil => rfl
  | cons g tail ih =>
    cases tail with
    | nil =>
      have one : joined [g] = digits g := List.intercalate_singleton
      rw [one, splitDouble_append (colon_not_mem_digits g)]
    | cons d more =>
      obtain ⟨c, later, e, hc⟩ := exists_joined_eq_cons (List.cons_ne_nil d more)
      have colon : splitDouble ((digits g).reverse ++ before) (':' :: joined (d :: more) ++ rest) =
          splitDouble (':' :: ((digits g).reverse ++ before)) (joined (d :: more) ++ rest) := by
        rw [e]
        exact splitDouble_colon hc _ _
      rw [joined_cons g (List.cons_ne_nil d more), List.append_assoc,
        splitDouble_append (colon_not_mem_digits g), colon, ih]
      simp

theorem splitDouble_joined_none (gs : List Nat) : splitDouble [] (joined gs) = none := by
  have passed := splitDouble_joined gs [] []
  rw [List.append_nil] at passed
  rw [passed]
  rfl

theorem splitDouble_joined_some (front back : List Nat) :
    splitDouble [] (joined front ++ ':' :: ':' :: joined back) =
      some (joined front, joined back) := by
  rw [splitDouble_joined]
  show some (((joined front).reverse ++ []).reverse, _) = _
  rw [List.append_nil, List.reverse_reverse]

/-! ## The run that is left out -/

/-- A run of zeros that may be left out. -/
structure IsGap (groups : List Nat) (start count : Nat) : Prop where
  two_le : 2 ≤ count
  zeros_eq : count = zeros (groups.drop start)

theorem gap?_isGap {groups : List Nat} {start count : Nat} (h : gap? groups = some (start, count)) :
    IsGap groups start count := by
  have each : ∀ (runs : List (Nat × Nat)) (best : Option (Nat × Nat)),
      (∀ run ∈ runs, run.2 = zeros (groups.drop run.1)) →
      (∀ run, best = some run → IsGap groups run.1 run.2) →
      ∀ run, runs.foldl (fun best run =>
        if 2 ≤ run.2 ∧ (best.map (·.2)).getD 1 < run.2 then some run else best) best = some run →
        IsGap groups run.1 run.2 := by
    -- the induction is on the runs that are still to be compared with the best one so far
    intro runs
    induction runs with
    | nil => exact fun best _ hb => hb
    | cons run rest ih =>
      intro best hr hb
      refine ih _ (fun r hm => hr r (List.mem_cons_of_mem run hm)) ?_
      intro r hr'
      simp only at hr'
      split at hr'
      · rename_i longer
        cases hr'
        exact ⟨longer.1, hr run List.mem_cons_self⟩
      · exact hb r hr'
  refine each _ none ?_ (fun _ e => nomatch e) (start, count) h
  intro run hr
  obtain ⟨i, _, rfl⟩ := List.mem_map.mp hr
  rfl

/-- The groups are what stands before the run, the run, and what stands after it. -/
theorem IsGap.groups_eq {groups : List Nat} {start count : Nat} (h : IsGap groups start count) :
    groups = groups.take start ++ List.replicate count 0 ++ groups.drop (start + count) := by
  have run : (groups.drop start).take count = List.replicate count 0 := by
    rw [h.zeros_eq, zeros]
    have taken := List.takeWhile_prefix (l := groups.drop start) (· == 0)
    rw [← List.prefix_iff_eq_take.mp taken]
    refine List.eq_replicate_iff.mpr ⟨rfl, fun g hg => ?_⟩
    exact beq_iff_eq.mp (List.all_eq_true.mp List.all_takeWhile g hg)
  have rest : (groups.drop start).drop count = groups.drop (start + count) := List.drop_drop
  rw [List.append_assoc, ← run, ← rest, List.take_append_drop, List.take_append_drop]

/-! ## The text of an address -/

theorem toList_intercalate (gs : List Nat) :
    (":".intercalate (gs.map Numeral.hexadecimal)).toList = joined gs := by
  rw [String.toList_intercalate, joined, List.map_map]
  congr 1
  exact List.map_congr_left fun g _ => Numeral.toList_hexadecimal g

theorem toList_text (groups : List Nat) :
    (text groups).toList =
      match gap? groups with
      | none => joined groups
      | some (start, count) =>
        joined (groups.take start) ++ ':' :: ':' :: joined (groups.drop (start + count)) := by
  rw [text]
  cases gap? groups with
  | none => exact toList_intercalate groups
  | some run =>
    obtain ⟨start, count⟩ := run
    show (":".intercalate ((groups.take start).map Numeral.hexadecimal) ++ "::" ++
      ":".intercalate ((groups.drop (start + count)).map Numeral.hexadecimal)).toList = _
    rw [String.toList_append, String.toList_append, toList_intercalate, toList_intercalate]
    simp

theorem mem_joined {gs : List Nat} {c : Char} (h : c ∈ joined gs) :
    Numeral.isDigit 16 c = true ∨ c = ':' := by
  rcases Numeral.mem_intercalate h with h | ⟨part, hp, h⟩
  · exact .inr h
  · obtain ⟨g, _, rfl⟩ := List.mem_map.mp hp
    exact .inl (Numeral.isDigit_of_mem_toDigits (by omega) (by omega) h)

/-- The characters of an address. -/
theorem mem_text {groups : List Nat} {c : Char} (h : c ∈ (text groups).toList) :
    Numeral.isDigit 16 c = true ∨ c = ':' := by
  rw [toList_text] at h
  split at h
  · exact mem_joined h
  · rcases List.mem_append.mp h with front | h
    · exact mem_joined front
    · rcases List.mem_cons.mp h with colon | h
      · exact .inr colon
      · rcases List.mem_cons.mp h with colon | back
        · exact .inr colon
        · exact mem_joined back

/-- The text of an address is read as that address. -/
theorem read?_text {groups : List Nat} (h : IsAddress groups) :
    read? (text groups).toList = some groups := by
  rw [toList_text]
  cases gap : gap? groups with
  | none =>
    simp only
    rw [read?, splitDouble_joined_none]
    simp [groups?_joined h.small, h.length]
  | some run =>
    obtain ⟨start, count⟩ := run
    have isGap := gap?_isGap gap
    have whole := isGap.groups_eq
    have length := congrArg List.length whole
    rw [h.length, List.length_append, List.length_append, List.length_replicate] at length
    have two := isGap.two_le
    -- as many zeros are filled in as were left out, since there are eight groups in all
    have gone : 8 - (groups.take start).length - (groups.drop (start + count)).length = count := by
      omega
    have front : groups? false (joined (groups.take start)) = some (groups.take start) :=
      groups?_joined (fun g hg => h.small g (List.mem_of_mem_take hg)) false
    have back : groups? true (joined (groups.drop (start + count))) =
        some (groups.drop (start + count)) :=
      groups?_joined (fun g hg => h.small g (List.mem_of_mem_drop hg)) true
    simp only
    rw [read?, splitDouble_joined_some]
    simp only [front, back, Option.bind_eq_bind, Option.bind_some]
    rw [if_pos (by omega), gone, ← whole]

/-! ## What is read -/

/-- Each result comes from one of the parts. -/
theorem exists_of_mem_mapM {f : List Char → Option Nat} {parts : List (List Char)} {ns : List Nat}
    (h : parts.mapM f = some ns) : ∀ n ∈ ns, ∃ part, f part = some n := by
  induction parts generalizing ns with
  | nil =>
    cases h
    exact nofun
  | cons part rest ih =>
    rw [List.mapM_cons] at h
    obtain ⟨first, hf, h⟩ := Option.bind_eq_some_iff.mp h
    obtain ⟨others, ho, h⟩ := Option.bind_eq_some_iff.mp h
    cases h
    intro n hn
    rcases List.mem_cons.mp hn with rfl | later
    · exact ⟨part, hf⟩
    · exact ih ho n later

theorem group?_lt {cs : List Char} {g : Nat} (h : group? cs = some g) : g < 65536 := by
  rw [group?] at h
  split at h
  · rename_i short
    exact Nat.lt_of_lt_of_le (Numeral.lt_of_read? h) (Nat.pow_le_pow_right (by omega) short)
  · cases h

theorem byte?_le {cs : List Char} {b : Nat} (h : byte? cs = some b) : b ≤ 255 := by
  rw [byte?] at h
  split at h
  · cases h
  · obtain ⟨n, _, h⟩ := Option.bind_eq_some_iff.mp h
    split at h
    · rename_i small
      cases h
      exact small
    · cases h

theorem embedded?_lt {cs : List Char} {gs : List Nat} (h : embedded? cs = some gs) :
    ∀ g ∈ gs, g < 65536 := by
  obtain ⟨numbers, read, h⟩ := Option.bind_eq_some_iff.mp h
  have small : ∀ b ∈ numbers, b ≤ 255 := by
    intro b hb
    obtain ⟨part, e⟩ := exists_of_mem_mapM read b hb
    exact byte?_le e
  split at h
  · rename_i a b c d
    cases h
    have ha := small a (by simp)
    have hb := small b (by simp)
    have hc := small c (by simp)
    have hd := small d (by simp)
    intro g hg
    rcases List.mem_cons.mp hg with rfl | hg
    · omega
    · rw [List.mem_singleton.mp hg]
      omega
  · cases h

theorem groups?_lt {tail : Bool} {cs : List Char} {gs : List Nat} (h : groups? tail cs = some gs) :
    ∀ g ∈ gs, g < 65536 := by
  have plain : ∀ {parts : List (List Char)} {gs : List Nat}, parts.mapM group? = some gs →
      ∀ g ∈ gs, g < 65536 := by
    intro parts gs read g hg
    obtain ⟨part, e⟩ := exists_of_mem_mapM read g hg
    exact group?_lt e
  rw [groups?] at h
  split at h
  · cases h
    exact nofun
  · simp only at h
    split at h
    · obtain ⟨front, hf, h⟩ := Option.bind_eq_some_iff.mp h
      obtain ⟨back, hb, h⟩ := Option.bind_eq_some_iff.mp h
      cases h
      intro g hg
      rcases List.mem_append.mp hg with early | late
      · exact plain hf g early
      · exact embedded?_lt hb g late
    · exact plain h

/-- What has been read is eight groups of sixteen bits. -/
theorem isAddress_of_read? {cs : List Char} {groups : List Nat} (h : read? cs = some groups) :
    IsAddress groups := by
  rw [read?] at h
  split at h
  · obtain ⟨all, read, h⟩ := Option.bind_eq_some_iff.mp h
    split at h
    · rename_i eight
      cases h
      exact ⟨eight, groups?_lt read⟩
    · cases h
  · obtain ⟨front, hf, h⟩ := Option.bind_eq_some_iff.mp h
    obtain ⟨back, hb, h⟩ := Option.bind_eq_some_iff.mp h
    split at h
    · rename_i fits
      cases h
      constructor
      · simp only [List.length_append, List.length_replicate]
        omega
      · intro g hg
        rcases List.mem_append.mp hg with hg | late
        · rcases List.mem_append.mp hg with early | zero
          · exact groups?_lt hf g early
          · rw [List.eq_of_mem_replicate zero]
            decide
        · exact groups?_lt hb g late
    · cases h

end Failover.Ipv6
