import Failover.Proofs.Url.Percent
import Failover.Url.Path

/-!
# Paths that are read back

A path that has been read under a network scheme consists of segments that would be kept as they
are. The text of such segments is read as the same segments.
-/

namespace Failover.Path

/-! ## Lower case -/

/-- Capital letters are moved, all other characters stay. -/
theorem toNat_toLower (c : Char) :
    c.toLower.toNat = if 65 ≤ c.toNat ∧ c.toNat ≤ 90 then c.toNat + 32 else c.toNat := by
  unfold Char.toLower
  split
  · rename_i capital
    have bounds : 65 ≤ c.toNat ∧ c.toNat ≤ 90 := capital
    rw [if_pos bounds]
    show (c.val + 32).toNat = _
    rw [UInt32.toNat_add]
    show (c.toNat + 32) % 4294967296 = _
    omega
  · rename_i other
    have bounds : ¬(65 ≤ c.toNat ∧ c.toNat ≤ 90) := other
    rw [if_neg bounds]

/-- What is no small letter was one character before it was put into lower case. -/
theorem eq_of_toLower_eq {c d : Char} (h : c.toLower = d) (hd : d.toNat < 97) : c = d := by
  have value := congrArg Char.toNat h
  rw [toNat_toLower] at value
  refine Char.toNat_inj.mp ?_
  split at value <;> omega

theorem eq_or_eq_of_toLower_e {c : Char} (h : c.toLower = 'e') : c = 'e' ∨ c = 'E' := by
  have value := congrArg Char.toNat h
  rw [toNat_toLower] at value
  change _ = 101 at value
  split at value
  · exact .inr (Char.toNat_inj.mp (show c.toNat = 69 by omega))
  · exact .inl (Char.toNat_inj.mp value)

/-! ## Dot segments -/

/-- Letters of either case escape a dot. -/
theorem escapesDots_of_lower {cs : List Char} (h : Percent.escapesDots (lower cs) = true) :
    Percent.escapesDots cs = true := by
  induction cs with
  | nil => rfl
  | cons c rest ih =>
    have tail : Percent.escapesDots rest = true := ih (Percent.escapesDots_tail h)
    by_cases hc : c = '%'
    · subst hc
      have lowered : Percent.escapesDots ('%' :: lower rest) = true := h
      obtain ⟨m, more, e, hm, _⟩ := Percent.escapesDots_percent lowered
      match rest, e with
      | high :: low :: rest, e =>
        injection e with two e
        injection e with letter _
        have two : high = '2' := eq_of_toLower_eq two (by decide)
        have letter : low = 'e' ∨ low = 'E' := by
          rcases hm with rfl | rfl
          · exact eq_or_eq_of_toLower_e letter
          · exact .inr (eq_of_toLower_eq letter (by decide))
        have rest' := Percent.escapesDots_tail (Percent.escapesDots_tail tail)
        simp [Percent.escapesDots, two, letter, rest']
    · rw [Percent.escapesDots_cons hc]
      exact tail

theorem escapesDots_of_isDot {segment : List Char} (h : isDot segment = true) :
    Percent.escapesDots segment = true := by
  refine escapesDots_of_lower ?_
  have spelled : ∀ s ∈ [".".toList, "%2e".toList], Percent.escapesDots s = true := by decide
  exact spelled _ (List.contains_iff_mem.mp h)

theorem escapesDots_of_isDoubleDot {segment : List Char} (h : isDoubleDot segment = true) :
    Percent.escapesDots segment = true := by
  refine escapesDots_of_lower ?_
  have spelled : ∀ s ∈ ["..".toList, ".%2e".toList, "%2e.".toList, "%2e%2e".toList],
      Percent.escapesDots s = true := by decide
  exact spelled _ (List.contains_iff_mem.mp h)

/-- To write a segment makes no dot segment of it. -/
theorem isDot_encode {segment : List Char} (h : isDot segment = false) :
    isDot (Percent.encode Percent.inPath segment) = false := by
  cases dot : isDot (Percent.encode Percent.inPath segment) with
  | false => rfl
  | true =>
    rw [Percent.encode_of_escapesDots (by decide) (escapesDots_of_isDot dot)] at dot
    rw [← dot, h]

theorem isDoubleDot_encode {segment : List Char} (h : isDoubleDot segment = false) :
    isDoubleDot (Percent.encode Percent.inPath segment) = false := by
  cases dot : isDoubleDot (Percent.encode Percent.inPath segment) with
  | false => rfl
  | true =>
    rw [Percent.encode_of_escapesDots (by decide) (escapesDots_of_isDoubleDot dot)] at dot
    rw [← dot, h]

/-! ## Kept segments -/

/-- A segment that a path under a network scheme keeps as it is. -/
structure IsKept (segment : List Char) : Prop where
  plain : Percent.IsPlain Percent.inPath segment
  unbroken : ∀ c ∈ segment, SchemeKind.network.isSlash c = false
  dot : isDot segment = false
  doubleDot : isDoubleDot segment = false

theorem IsKept.empty : IsKept [] := ⟨.nil, nofun, rfl, rfl⟩

theorem IsKept.slash_not_mem {segment : List Char} (h : IsKept segment) : '/' ∉ segment := by
  intro hc
  have unbroken := h.unbroken '/' hc
  cases unbroken

/-- The path that is only a slash consists of kept segments. -/
theorem forall_kept_nil : ∀ s ∈ [[]], IsKept s := by
  intro s hs
  rw [List.mem_singleton.mp hs]
  exact .empty

/-- A segment that is no dot segment is kept once it is written. -/
theorem IsKept.encode {segment : List Char}
    (unbroken : ∀ c ∈ segment, SchemeKind.network.isSlash c = false)
    (dot : isDot segment = false) (doubleDot : isDoubleDot segment = false) :
    IsKept (Percent.encode Percent.inPath segment) where
  plain := Percent.isPlain_encode (by decide) segment
  unbroken c hc := by
    have escapes : ∀ c ∈ Percent.escapeChars, SchemeKind.network.isSlash c = false :=
      List.forall_iff_forall_mem.mp (by decide)
    by_cases escape : c ∈ Percent.escapeChars
    · exact escapes c escape
    · exact unbroken c (Percent.mem_of_mem_encode hc escape)
  dot := isDot_encode dot
  doubleDot := isDoubleDot_encode doubleDot

theorem kept_network (segment : List Char) :
    kept .network segment = Percent.encode Percent.inPath segment := rfl

theorem push_kept {stack : List (List Char)} {segment : List Char} (h : IsKept segment)
    (last : Bool) : push .network stack segment last = segment :: stack := by
  rw [push, h.doubleDot, h.dot, kept_network, h.plain.encode_eq]
  rfl

theorem pushAll_kept {stack segments : List (List Char)} (h : ∀ s ∈ segments, IsKept s) :
    pushAll .network stack segments = segments.reverse ++ stack := by
  induction segments generalizing stack with
  | nil => rfl
  | cons s rest ih =>
    have first := h s List.mem_cons_self
    cases rest with
    | nil => exact push_kept first true
    | cons next rest =>
      rw [pushAll, push_kept first false, ih fun t ht => h t (List.mem_cons_of_mem s ht)]
      · simp
      · exact nofun

/-! ## Reading -/

/-- What stands between separators holds none. -/
theorem unbroken_of_mem_splitOnP {p : Char → Bool} {cs part : List Char}
    (h : part ∈ cs.splitOnP p) : ∀ c ∈ part, p c = false := by
  induction cs generalizing part with
  | nil =>
    rw [List.splitOnP_nil, List.mem_singleton] at h
    rw [h]
    exact nofun
  | cons d rest ih =>
    rw [List.splitOnP_cons_eq_if_modifyHead] at h
    by_cases hd : p d = true
    · rw [if_pos hd] at h
      rcases List.mem_cons.mp h with rfl | later
      · exact nofun
      · exact ih later
    · rw [if_neg hd] at h
      obtain ⟨first, others, e⟩ := List.exists_cons_of_ne_nil (List.splitOnP_ne_nil p rest)
      rw [e, List.modifyHead_cons] at h
      rcases List.mem_cons.mp h with rfl | later
      · intro c hc
        rcases List.mem_cons.mp hc with rfl | inner
        · exact Bool.eq_false_iff.mpr hd
        · exact ih (e ▸ List.mem_cons_self) c inner
      · exact ih (e ▸ List.mem_cons_of_mem _ later)

theorem forall_kept_up {stack : List (List Char)} (h : ∀ s ∈ stack, IsKept s) :
    ∀ s ∈ up stack, IsKept s := by
  intro s hs
  cases stack with
  | nil => cases hs
  | cons top below =>
    rw [up] at hs
    split at hs
    · exact h s hs
    · exact h s (List.mem_cons_of_mem top hs)

/-- One more segment leaves a stack of kept segments, and the last one leaves some. -/
theorem forall_kept_push {stack : List (List Char)} {segment : List Char}
    (h : ∀ s ∈ stack, IsKept s) (unbroken : ∀ c ∈ segment, SchemeKind.network.isSlash c = false)
    (last : Bool) :
    (∀ s ∈ push .network stack segment last, IsKept s) ∧
    (last = true → push .network stack segment last ≠ []) := by
  have onto : ∀ {s : List Char} {below : List (List Char)}, IsKept s → (∀ s ∈ below, IsKept s) →
      ∀ t ∈ s :: below, IsKept t := by
    intro s below hs hb t ht
    rcases List.mem_cons.mp ht with rfl | deeper
    · exact hs
    · exact hb t deeper
  rw [push]
  cases doubleDot : isDoubleDot segment with
  | true =>
    cases last with
    | true => exact ⟨onto .empty (forall_kept_up h), fun _ => List.cons_ne_nil _ _⟩
    | false => exact ⟨forall_kept_up h, nofun⟩
  | false =>
    cases dot : isDot segment with
    | true =>
      cases last with
      | true => exact ⟨onto .empty h, fun _ => List.cons_ne_nil _ _⟩
      | false => exact ⟨h, nofun⟩
    | false => exact ⟨onto (.encode unbroken dot doubleDot) h, fun _ => List.cons_ne_nil _ _⟩

theorem forall_kept_pushAll {stack segments : List (List Char)} (h : ∀ s ∈ stack, IsKept s)
    (unbroken : ∀ s ∈ segments, ∀ c ∈ s, SchemeKind.network.isSlash c = false) :
    (∀ s ∈ pushAll .network stack segments, IsKept s) ∧
    (segments ≠ [] → pushAll .network stack segments ≠ []) := by
  induction segments generalizing stack with
  | nil => exact ⟨h, fun none => absurd rfl none⟩
  | cons s rest ih =>
    have first := unbroken s List.mem_cons_self
    cases rest with
    | nil =>
      obtain ⟨kept, some'⟩ := forall_kept_push h first true
      exact ⟨kept, fun _ => some' rfl⟩
    | cons next rest =>
      obtain ⟨kept, _⟩ := forall_kept_push h first false
      obtain ⟨all, some'⟩ := ih kept fun t ht => unbroken t (List.mem_cons_of_mem s ht)
      exact ⟨all, fun _ => some' (List.cons_ne_nil _ _)⟩

/-- A path that is read under a network scheme consists of kept segments, one at least. -/
theorem descend_kept {base : List (List Char)} (h : ∀ s ∈ base, IsKept s) (text : List Char) :
    (∀ s ∈ descend .network base text, IsKept s) ∧ descend .network base text ≠ [] := by
  have below : ∀ s ∈ base.reverse, IsKept s := fun s hs => h s (List.mem_reverse.mp hs)
  have parts : ∀ s ∈ text.splitOnP (SchemeKind.network.isSlash ·),
      ∀ c ∈ s, SchemeKind.network.isSlash c = false := fun s hs => unbroken_of_mem_splitOnP hs
  obtain ⟨all, some'⟩ := forall_kept_pushAll below parts
  constructor
  · intro s hs
    exact all s (List.mem_reverse.mp hs)
  · intro none
    exact some' (List.splitOnP_ne_nil _ _) (List.reverse_eq_nil_iff.mp none)

/-- The text of segments falls into the same segments. -/
theorem splitOnP_join {segments : List (List Char)} (some' : segments ≠ [])
    (h : ∀ s ∈ segments, ∀ c ∈ s, SchemeKind.network.isSlash c = false) :
    ((join segments).drop 1).splitOnP (SchemeKind.network.isSlash ·) = segments := by
  induction segments with
  | nil => exact absurd rfl some'
  | cons s rest ih =>
    have first := h s List.mem_cons_self
    cases rest with
    | nil =>
      show (s ++ []).splitOnP _ = _
      rw [List.append_nil, List.splitOnP_eq_singleton first]
    | cons next rest =>
      have later := ih (List.cons_ne_nil _ _) fun t ht => h t (List.mem_cons_of_mem s ht)
      -- the first slash behind the first segment ends it
      show (s ++ '/' :: (join (next :: rest)).drop 1).splitOnP _ = _
      rw [List.splitOnP_append_cons_of_forall_mem first '/' rfl, later]

/-- The text of kept segments is read as these segments. -/
theorem descend_join {segments : List (List Char)} (some' : segments ≠ [])
    (h : ∀ s ∈ segments, IsKept s) :
    descend .network [] ((join segments).drop 1) = segments := by
  show (pushAll .network [] (((join segments).drop 1).splitOnP _)).reverse = _
  rw [splitOnP_join some' fun s hs => (h s hs).unbroken, pushAll_kept h, List.append_nil,
    List.reverse_reverse]

end Failover.Path
