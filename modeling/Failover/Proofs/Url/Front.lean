import Failover.Proofs.Url.Below

/-!
# Texts behind an authority

Whatever stands behind a network scheme, an authority and a slash, the whole text spells a URL of
that scheme and authority. To put any text below a base leaves the scheme and the authority of the
base in front, with a slash behind them, so no such text leads away from the base.
-/

namespace Failover

/-- Behind characters that can be seen a text loses blanks and line ends, and nothing in front of
them. -/
theorem Reference.exists_clean {front : List Char} {c : Char}
    (visible : ∀ d ∈ front ++ [c], 32 < d.toNat) (rest : List Char) :
    ∃ kept, clean (front ++ c :: rest) = front ++ c :: kept := by
  have parts : ∀ back, front ++ c :: back = front ++ [c] ++ back := by simp
  have first : (front ++ c :: rest).dropWhile isBlank = front ++ c :: rest := by
    refine dropWhile_isBlank fun d hd => visible d ?_
    cases front with
    | nil => exact List.mem_of_mem_head? hd
    | cons e front => exact List.mem_append_left [c] (List.mem_of_mem_head? (l := e :: front) hd)
  have dark : isBlank c = false := by
    have seen := visible c (by simp)
    rw [isBlank, decide_eq_false_iff_not]
    omega
  have last : ((front ++ c :: rest).reverse.dropWhile isBlank).reverse =
      front ++ c :: rest.rdropWhile isBlank := Url.rdropWhile_append dark front rest
  refine ⟨(rest.rdropWhile isBlank).filter fun d => !(d == '\t' || d == '\n' || d == '\r'), ?_⟩
  rw [clean, first, last, parts, List.filter_append, filter_unbroken visible, ← parts]

namespace Url

variable {scheme : List Char} {a : Authority}

/-- Whatever stands behind an authority and a slash, the text spells a URL of that authority. -/
theorem exists_read_front (network : SchemeKind.of scheme = .network) (ha : a.IsWritten scheme)
    (rest : List Char) :
    ∃ u, read none (front scheme a ++ '/' :: rest) = .ok u ∧ u.scheme = scheme ∧
      u.authority = some a := by
  have visible : ∀ c ∈ front scheme a ++ ['/'], 32 < c.toNat := by
    intro c hc
    rcases List.mem_append.mp hc with inner | last
    · exact visible_front network ha c inner
    · rw [List.mem_singleton.mp last]
      decide
  obtain ⟨kept, cleaned⟩ := Reference.exists_clean visible rest
  have unmarked : ∀ mark, Host.isOuter mark = true → mark ≠ '/' →
      mark ∉ front scheme a ++ ['/'] := by
    intro mark outer slash
    simpa [slash] using not_mem_front network ha outer slash
  have hash := unmarked '#' rfl (by simp)
  have question := unmarked '?' rfl (by simp)
  have parts : Reference.of (Reference.clean (front scheme a ++ '/' :: rest)) =
      { Reference.of kept with main := front scheme a ++ '/' :: (Reference.of kept).main } := by
    have whole : front scheme a ++ '/' :: kept = (front scheme a ++ ['/']) ++ kept := by simp
    rw [cleaned, whole, Reference.of_append_main hash question]
    simp
  rw [read_front network ha parts rfl, readAuthority_slash network ha]
  exact ⟨_, rfl, rfl, rfl⟩

/-- A text below a network URL begins with its scheme and its authority and a slash. -/
theorem IsWritten.exists_under_front {base : Url} (h : base.IsWritten)
    (ha : base.authority = some a) (path : List Char) :
    ∃ rest, base.under path = front base.scheme a ++ '/' :: rest := by
  obtain ⟨tail, rooted⟩ := h.exists_tail
  have prefix' := List.rdropWhile_prefix (· == '/') base.tail.chars
  rw [under, h.trimmed_eq ha]
  cases cut : base.tail.chars.rdropWhile (· == '/') with
  | nil => exact ⟨_, by rw [List.append_nil]⟩
  | cons c more =>
    rw [cut, rooted] at prefix'
    obtain ⟨rfl, _⟩ := List.cons_prefix_cons.mp prefix'
    exact ⟨_, by rw [List.append_assoc, List.cons_append]⟩

end Url

end Failover
