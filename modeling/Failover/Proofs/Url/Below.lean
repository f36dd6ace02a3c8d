import Failover.Endpoint.Set
import Failover.Proofs.Url.Made
import Mathlib.Data.List.DropRight

/-!
# Texts put below a base

To put a path below a base, the slashes at the end of the base and in front of the path give way to
a single one. Where that happens behind the authority of a network URL, what comes out is the text
of a network URL as well, be it in the path, in the query or in the fragment.
-/

namespace Failover

/-! ## One slash -/

namespace Path

/-- A text with one slash in front, however many it began with. -/
def slashed (cs : List Char) : List Char := '/' :: cs.dropWhile (· == '/')

/-- Whether a text begins with one slash and no more. -/
def StartsOnce (cs : List Char) : Prop := cs[0]? = some '/' ∧ cs[1]? ≠ some '/'

instance (cs : List Char) : Decidable (StartsOnce cs) := inferInstanceAs (Decidable (_ ∧ _))

theorem slashed_cons (cs : List Char) : slashed ('/' :: cs) = slashed cs := rfl

theorem slashed_of_head {cs : List Char} (h : cs.head? ≠ some '/') : slashed cs = '/' :: cs := by
  cases cs with
  | nil => rfl
  | cons c rest => simp [slashed, show c ≠ '/' by simpa using h]

/-- A text is left alone if it begins with one slash, and only then. -/
theorem slashed_eq_iff (cs : List Char) : slashed cs = cs ↔ StartsOnce cs := by
  cases cs with
  | nil => simp [slashed, StartsOnce]
  | cons c rest =>
    by_cases hc : c = '/'
    · subst hc
      cases rest with
      | nil => simp [slashed, StartsOnce]
      | cons d rest =>
        by_cases hd : d = '/'
        · subst hd
          -- one of the two slashes is dropped
          have shorter : slashed ('/' :: '/' :: rest) ≠ '/' :: '/' :: rest := by
            intro e
            rw [slashed_cons, slashed_cons, slashed] at e
            have bound := List.length_dropWhile_le (· == '/') rest
            have lengths := congrArg List.length e
            simp only [List.length_cons] at lengths
            omega
          simp [shorter, StartsOnce]
        · simp [slashed, StartsOnce, hd]
    · have other : slashed (c :: rest) ≠ c :: rest := by
        intro e
        injection e with slash _
        exact hc slash.symm
      simp [other, StartsOnce, hc]

/-- The text of kept segments with one slash in front is the text of kept segments. -/
theorem exists_slashed_join {segments : List (List Char)} (h : ∀ s ∈ segments, IsKept s) :
    ∃ later, slashed (join segments) = join later ∧ later ≠ [] ∧ ∀ s ∈ later, IsKept s := by
  induction segments with
  | nil =>
    exact ⟨[[]], rfl, List.cons_ne_nil _ _, forall_kept_nil⟩
  | cons s rest ih =>
    cases s with
    | nil =>
      obtain ⟨later, e, some', kept⟩ := ih fun t ht => h t (List.mem_cons_of_mem _ ht)
      exact ⟨later, e, some', kept⟩
    | cons c cs =>
      have first : c ≠ '/' := by
        rintro rfl
        exact (h _ List.mem_cons_self).slash_not_mem List.mem_cons_self
      refine ⟨(c :: cs) :: rest, ?_, List.cons_ne_nil _ _, h⟩
      show '/' :: ('/' :: c :: (cs ++ join rest)).dropWhile (· == '/') = _
      simp [join, first]

/-- Segments whose text is broken at a slash are broken there themselves. -/
theorem exists_of_join_eq {segments : List (List Char)} (h : ∀ s ∈ segments, '/' ∉ s)
    {front back : List Char} (e : join segments = front ++ '/' :: back) :
    ∃ before after, segments = before ++ after ∧ join before = front ∧
      join after = '/' :: back := by
  induction segments generalizing front with
  | nil => simp [join] at e
  | cons s rest ih =>
    have whole : join (s :: rest) = '/' :: (s ++ join rest) := rfl
    cases front with
    | nil => exact ⟨[], s :: rest, rfl, rfl, e⟩
    | cons c front =>
      rw [whole, List.cons_append] at e
      injection e with slash e
      subst slash
      have unbroken := h s List.mem_cons_self
      rcases List.append_eq_append_iff.mp e with ⟨more, rfl, tail⟩ | ⟨more, hs, tail⟩
      · obtain ⟨before, after, rfl, hb, ha⟩ := ih (fun t ht => h t (List.mem_cons_of_mem s ht)) tail
        exact ⟨s :: before, after, rfl, by rw [← hb]; rfl, ha⟩
      · cases more with
        | nil =>
          rw [List.append_nil] at hs
          exact ⟨[s], rest, rfl, by simp [join, hs], tail.symm⟩
        | cons d more =>
          injection tail with slash _
          refine absurd ?_ unbroken
          rw [hs, slash]
          simp

end Path

namespace Reference

/-! ## One slash inside a reference -/

/-- One slash in front of a text is one in front of what stands before a mark. -/
theorem cut_slashed {mark : Char} (h : mark ≠ '/') (cs : List Char) :
    cut mark (Path.slashed cs) = (Path.slashed (cut mark cs).1, (cut mark cs).2) := by
  have slash : mark ∉ ['/'] := by simpa using h
  have onto : ∀ ds, cut mark ('/' :: ds) = ('/' :: (cut mark ds).1, (cut mark ds).2) :=
    fun ds => cut_append_of_not_mem slash ds
  induction cs with
  | nil => exact onto []
  | cons c rest ih =>
    by_cases hc : c = '/'
    · subst hc
      rw [Path.slashed_cons, ih, onto, Path.slashed_cons]
    · have head : (cut mark (c :: rest)).1.head? ≠ some '/' := by
        rw [cut, List.takeWhile_cons]
        split
        · simpa using hc
        · simp
      rw [Path.slashed_of_head (by simpa using hc), onto, Path.slashed_of_head head]

theorem of_slashed (cs : List Char) :
    of (Path.slashed cs) = { of cs with main := Path.slashed (of cs).main } := by
  simp [of, cut_slashed]

theorem startsOnce_cut {mark : Char} (h : mark ≠ '/') (cs : List Char) :
    Path.StartsOnce (cut mark cs).1 ↔ Path.StartsOnce cs := by
  have slash : ('/' != mark) = true := bne_iff_ne.mpr h.symm
  cases cs with
  | nil => rfl
  | cons c rest =>
    by_cases hc : c = '/'
    · subst hc
      cases rest with
      | nil => simp [cut, slash]
      | cons d rest =>
        by_cases hd : d = mark
        · subst hd
          simp [cut, Path.StartsOnce, slash, h]
        · simp [cut, Path.StartsOnce, slash, hd]
    · by_cases first : c = mark
      · subst first
        simp [cut, Path.StartsOnce, h]
      · simp [cut, Path.StartsOnce, first, hc]

end Reference

theorem Percent.IsPlain.slashed {set : Char → Bool} {front back : List Char}
    (h : IsPlain set (front ++ back)) (slash : set '/' = false) :
    IsPlain set (front ++ Path.slashed back) := by
  intro c hc
  rcases List.mem_append.mp hc with inner | inner
  · exact h c (List.mem_append_left back inner)
  · rcases List.mem_cons.mp inner with rfl | inner
    · exact ⟨by decide, slash⟩
    · exact h c (List.mem_append_right front ((List.dropWhile_sublist _).subset inner))

namespace Reference

theorem of_append_fragment {before : List Char} (first : '#' ∉ before) (after back : List Char) :
    of (before ++ '#' :: after ++ back) =
      ⟨(of before).main, (of before).query, some (after ++ back)⟩ := by
  rw [List.append_assoc, List.cons_append]
  simp [of, cut_append first, cut_of_not_mem first]

theorem of_append_query {before after : List Char} (hash : '#' ∉ before ++ '?' :: after)
    (first : '?' ∉ before) (back : List Char) :
    of (before ++ '?' :: after ++ back) =
      ⟨before, some (after ++ (cut '#' back).1), (cut '#' back).2⟩ := by
  rw [of, cut_append_of_not_mem hash, List.append_assoc, List.cons_append]
  simp [cut_append first]

/-- The main part ends in front of every question mark, so it begins with a slash where the whole
text begins with a slash or a question mark. -/
theorem head_main {cs : List Char} (edge : ∀ c ∈ cs.head?, c = '/' ∨ c = '?') :
    (of cs).main = [] ∨ ∃ rest, (of cs).main = '/' :: rest := by
  cases hm : (of cs).main with
  | nil => exact .inl rfl
  | cons c rest =>
    have head : c ∈ cs.head? := by
      rw [← chars_of cs, chars, hm]
      rfl
    have passed : c ≠ '?' := by
      have inner : c ∈ (of cs).main := hm ▸ List.mem_cons_self
      exact bne_iff_ne.mp (List.mem_takeWhile_imp (p := (· != '?')) inner)
    exact .inr ⟨rest, by rw [(edge c head).resolve_right passed]⟩

end Reference

/-- Kept segments stay kept if the slashes at one place of their text give way to a single one. -/
theorem Path.exists_join_slashed {segments : List (List Char)} {front back : List Char}
    (e : front ++ back = join segments) (kept : ∀ s ∈ segments, IsKept s)
    (edge : back = [] ∨ ∃ rest, back = '/' :: rest) :
    ∃ later, front ++ slashed back = join later ∧ later ≠ [] ∧ ∀ s ∈ later, IsKept s := by
  rcases edge with rfl | ⟨rest, rfl⟩
  · rw [List.append_nil] at e
    refine ⟨segments ++ [[]], by simp [e, join, slashed], by simp, ?_⟩
    intro s hs
    rcases List.mem_append.mp hs with own | last
    · exact kept s own
    · exact forall_kept_nil s last
  · obtain ⟨before, after, rfl, hb, ha⟩ :=
      exists_of_join_eq (fun s hs => (kept s hs).slash_not_mem) e.symm
    obtain ⟨later, joined, some', kept'⟩ :=
      exists_slashed_join fun s hs => kept s (List.mem_append_right before hs)
    refine ⟨before ++ later, ?_, by simp [some'], ?_⟩
    · rw [← ha, joined, ← hb]
      simp [join]
    · intro s hs
      rcases List.mem_append.mp hs with own | new
      · exact kept s (List.mem_append_left after own)
      · exact kept' s new

namespace Reference

/-- What follows an authority stays in order if the slashes at one place of it give way to a single
one. In front of them stands the start of the path, of the query or of the fragment. -/
theorem IsWritten.slashed {front back : List Char} (h : (of (front ++ back)).IsWritten)
    (edge : ∀ c ∈ back.head?, c = '/' ∨ c = '?') :
    (of (front ++ Path.slashed back)).IsWritten := by
  by_cases hash : '#' ∈ front
  · obtain ⟨before, after, rfl, first⟩ := List.eq_append_cons_of_mem hash
    rw [of_append_fragment first] at h ⊢
    refine ⟨h.path, h.query, ?_⟩
    rintro f ⟨⟩
    exact (h.fragment _ rfl).slashed rfl
  by_cases question : '?' ∈ front
  · obtain ⟨before, after, rfl, first⟩ := List.eq_append_cons_of_mem question
    rw [of_append_query hash first] at h
    rw [of_append_query hash first, cut_slashed (by simp)]
    refine ⟨h.path, ?_, h.fragment⟩
    rintro q ⟨⟩
    exact (h.query _ rfl).slashed rfl
  · rw [of_append_main hash question] at h
    rw [of_append_main hash question, of_slashed]
    obtain ⟨segments, e, _, kept⟩ := h.path
    exact ⟨Path.exists_join_slashed e kept (head_main edge), h.query, h.fragment⟩

end Reference

namespace Url

/-! ## Where an authority ends -/

/-- Texts that go on behind a colon are the same on both sides of the first one. -/
theorem eq_of_append_colon {s t x y : List Char} (hs : ':' ∉ s) (ht : ':' ∉ t)
    (e : s ++ ':' :: x = t ++ ':' :: y) : s = t ∧ x = y := by
  have parts := congrArg (Reference.cut ':') e
  rw [Reference.cut_append hs, Reference.cut_append ht] at parts
  injection parts with first second
  exact ⟨first, Option.some.inj second⟩

/-- Texts are the same on both sides of the first character that is no part of an authority. -/
theorem eq_of_append_outer {a b x y : List Char} (ha : ∀ c ∈ a, Host.isOuter c = false)
    (hb : ∀ c ∈ b, Host.isOuter c = false) (hx : ∀ c ∈ x.head?, Host.isOuter c = true)
    (hy : ∀ c ∈ y.head?, Host.isOuter c = true) (e : a ++ x = b ++ y) : a = b ∧ x = y := by
  have inner : ∀ {a x : List Char}, (∀ c ∈ a, Host.isOuter c = false) →
      (∀ c ∈ x.head?, Host.isOuter c = true) → (a ++ x).takeWhile (!Host.isOuter ·) = a := by
    intro a x ha hx
    rw [List.takeWhile_append_of_pos fun c hc => by simp [ha c hc]]
    cases x with
    | nil => simp
    | cons c rest => simp [hx c rfl]
  have front : a = b := by
    rw [← inner ha hx, e, inner hb hy]
  subst front
  exact ⟨rfl, List.append_cancel_left e⟩

/-- Two network URLs of one scheme have one authority if what follows it in one text is the same. -/
theorem eq_of_append_front {scheme x y : List Char} {a b : Authority}
    (network : SchemeKind.of scheme = .network) (ha : a.IsWritten scheme) (hb : b.IsWritten scheme)
    (hx : ∀ c ∈ x.head?, Host.isOuter c = true) (hy : ∀ c ∈ y.head?, Host.isOuter c = true)
    (e : front scheme a ++ x = front scheme b ++ y) : a = b ∧ x = y := by
  have e : a.chars ++ x = b.chars ++ y := by
    simpa [front] using e
  obtain ⟨same, rest⟩ := eq_of_append_outer ha.isOuter_eq hb.isOuter_eq hx hy e
  have read := ha.read_chars network true
  rw [same, hb.read_chars network] at read
  injection read with read
  injection read with read _
  exact ⟨read.symm, rest⟩

/-! ## Slashes at the end -/

/-- What is dropped from the end of a text stands behind the last character that stays. -/
theorem rdropWhile_append {p : Char → Bool} {c : Char} (hc : p c = false)
    (front back : List Char) :
    (front ++ c :: back).rdropWhile p = front ++ c :: back.rdropWhile p := by
  have stays : ¬p c = true := by simp [hc]
  induction back using List.reverseRecOn with
  | nil => exact List.rdropWhile_concat_neg p front c stays
  | append_singleton back d ih =>
    have whole : front ++ c :: (back ++ [d]) = front ++ c :: back ++ [d] := by simp
    rw [whole, List.rdropWhile_concat, List.rdropWhile_concat, ih]
    split <;> simp

theorem trimmed_eq {u : Url} {front back : List Char} {c : Char} (e : u.chars = front ++ c :: back)
    (hc : c ≠ '/') : u.trimmed = front ++ c :: back.rdropWhile (· == '/') := by
  have trimmed : u.trimmed = u.chars.rdropWhile (· == '/') := rfl
  rw [trimmed, e]
  exact rdropWhile_append (by simpa using hc) front back

/-- The scheme of a URL is not trimmed. -/
theorem exists_trimmed (u : Url) : ∃ rest, u.trimmed = u.scheme ++ ':' :: rest := by
  have whole : u.chars =
      u.scheme ++ ':' :: (u.middle ++ u.pathAndQuery ++ marked '#' u.fragment) := by
    simp [chars, withoutFragment]
  exact ⟨_, trimmed_eq whole (by simp)⟩

/-- The authority of a network URL is not trimmed. -/
theorem IsWritten.trimmed_eq {u : Url} {a : Authority} (h : u.IsWritten)
    (ha : u.authority = some a) :
    u.trimmed = front u.scheme a ++ u.tail.chars.rdropWhile (· == '/') := by
  have authority := h.of_authority ha
  obtain ⟨before, c, last⟩ :=
    (List.eq_nil_or_concat' a.chars).resolve_left authority.chars_ne_nil
  have stays : c ≠ '/' := by
    rintro rfl
    have inner := authority.isOuter_eq '/' (by simp [last])
    cases inner
  have parts : ∀ rest, front u.scheme a ++ rest =
      (u.scheme ++ ':' :: '/' :: '/' :: before) ++ c :: rest := by
    intro rest
    simp [front, last]
  rw [Url.trimmed_eq ((chars_eq ha).trans (parts _)) stays, parts]

/-- Behind an authority comes a slash. -/
theorem IsWritten.exists_tail {u : Url} (h : u.IsWritten) : ∃ rest, u.tail.chars = '/' :: rest := by
  obtain ⟨rest, rooted⟩ := h.exists_path
  have main : u.tail.main = '/' :: rest := rooted
  exact ⟨_, by rw [Reference.chars, main]; rfl⟩

/-- The trimmed text of a URL reaches into the fragment if there is one. -/
theorem IsWritten.hash_mem_trimmed {u : Url} (h : u.IsWritten) :
    '#' ∈ u.trimmed ↔ u.fragment.isSome := by
  constructor
  · intro hc
    have whole : '#' ∈ u.withoutFragment ++ marked '#' u.fragment :=
      (List.rdropWhile_prefix (· == '/') u.chars).subset hc
    have behind := (List.mem_append.mp whole).resolve_left h.hash_not_mem
    cases hf : u.fragment with
    | none =>
      rw [hf] at behind
      cases behind
    | some f => rfl
  · intro some'
    obtain ⟨f, hf⟩ := Option.isSome_iff_exists.mp some'
    have whole : u.chars = u.withoutFragment ++ '#' :: f := by
      rw [chars, hf, marked]
    rw [Url.trimmed_eq whole (by simp)]
    simp

/-! ## Below a base -/

/-- Two texts that differ in the slashes behind a front are those of one URL, apart from the
fragment, if the difference stands in the fragment or there is none. -/
theorem bare_eq_iff_startsOnce {u v : Url} {front rest : List Char} (hu : u.IsWritten)
    (hv : v.IsWritten) (eu : u.chars = front ++ rest) (ev : v.chars = front ++ Path.slashed rest) :
    v.bare = u.bare ↔ '#' ∈ front ∨ Path.StartsOnce rest := by
  have ubare : (Reference.cut '#' u.chars).1 = u.withoutFragment := by rw [hu.cut_chars]
  have vbare : (Reference.cut '#' v.chars).1 = v.withoutFragment := by rw [hv.cut_chars]
  rw [eu] at ubare
  rw [ev] at vbare
  rw [hv.bare_eq_iff hu, ← ubare, ← vbare]
  by_cases hash : '#' ∈ front
  -- nothing behind the mark of the fragment counts
  · obtain ⟨before, after, rfl, first⟩ := List.eq_append_cons_of_mem hash
    simp [Reference.cut_append first]
  · rw [Reference.cut_append_of_not_mem hash, Reference.cut_append_of_not_mem hash,
      Reference.cut_slashed (by simp), List.append_right_inj, Path.slashed_eq_iff,
      Reference.startsOnce_cut (by simp)]
    simp [hash]

/-- A network URL has the scheme of a base that its text lies below. -/
theorem scheme_eq_of_below {base u : Url} {rest : List Char} (hb : base.IsSound)
    (hu : u.IsWritten) (below : u.chars = base.trimmed ++ rest) : base.scheme = u.scheme := by
  obtain ⟨a, ha, _⟩ := hu.authority
  obtain ⟨more, trimmed⟩ := exists_trimmed base
  have colon : ':' ∉ u.scheme := by
    have letters : ∀ s ∈ networkSchemes, ':' ∉ s := by decide
    exact letters u.scheme (mem_networkSchemes hu.network)
  -- both texts name their scheme in front of the first colon
  rw [chars_eq ha, trimmed, front] at below
  have e : u.scheme ++ ':' :: ('/' :: '/' :: a.chars ++ u.tail.chars) =
      base.scheme ++ ':' :: (more ++ rest) := by simpa using below
  exact (eq_of_append_colon colon hb.colon e).1.symm

/-- What is left of a base behind its authority begins with a slash, if there is any. -/
theorem IsWritten.isOuter_head_trimmed {base : Url} {rest : List Char} (h : base.IsWritten)
    (edge : ∀ c ∈ rest.head?, c = '/' ∨ c = '?') :
    ∀ c ∈ (base.tail.chars.rdropWhile (· == '/') ++ rest).head?, Host.isOuter c = true := by
  obtain ⟨tail, rooted⟩ := h.exists_tail
  have cut := List.rdropWhile_prefix (· == '/') base.tail.chars
  intro c hc
  cases inner : base.tail.chars.rdropWhile (· == '/') with
  | nil =>
    rw [inner, List.nil_append] at hc
    rcases edge c hc with rfl | rfl <;> rfl
  | cons d ds =>
    rw [inner, rooted] at cut
    rw [inner] at hc
    cases hc
    rw [(List.cons_prefix_cons.mp cut).1]
    rfl

theorem IsWritten.isOuter_head_tail {u : Url} (h : u.IsWritten) :
    ∀ c ∈ u.tail.chars.head?, Host.isOuter c = true := by
  obtain ⟨tail, rooted⟩ := h.exists_tail
  rw [rooted]
  rintro c ⟨⟩
  rfl

/-- A network URL below a base has the scheme and the authority of the base. Behind them it goes on
as the base does, but for the slashes at the end of the base. -/
theorem tail_eq_of_below {base u : Url} {rest : List Char} (hb : base.IsSound) (hu : u.IsWritten)
    (below : u.chars = base.trimmed ++ rest) (edge : ∀ c ∈ rest.head?, c = '/' ∨ c = '?') :
    base.IsWritten ∧ base.scheme = u.scheme ∧ base.authority = u.authority ∧
      u.tail.chars = base.tail.chars.rdropWhile (· == '/') ++ rest := by
  have network : SchemeKind.of u.scheme = .network := hu.network
  have scheme := scheme_eq_of_below hb hu below
  have written : base.IsWritten := by
    refine hb.written ?_
    rw [kind, scheme]
    exact network
  obtain ⟨b, hub, authority⟩ := hu.authority
  obtain ⟨a, hba, authority'⟩ := written.authority
  have trimmed := written.trimmed_eq hba
  rw [scheme] at authority' trimmed
  -- both authorities end in front of the first character that is no part of one
  have e : front u.scheme b ++ u.tail.chars =
      front u.scheme a ++ (base.tail.chars.rdropWhile (· == '/') ++ rest) := by
    rw [← chars_eq hub, below, trimmed, List.append_assoc]
  obtain ⟨same, tail⟩ := eq_of_append_front network authority authority' hu.isOuter_head_tail
    (written.isOuter_head_trimmed edge) e
  exact ⟨written, scheme, by rw [hba, hub, same], tail⟩

/-- What a URL has below a base, put below that base, is the text of a URL again. It is the same one
apart from the fragment if the base has a fragment itself, or there was one slash in between. -/
theorem exists_under {base u : Url} {rest : List Char} (hb : base.IsSound) (hu : u.IsWritten)
    (below : u.chars = base.trimmed ++ rest) (edge : ∀ c ∈ rest.head?, c = '/' ∨ c = '?') :
    ∃ v : Url, v.IsWritten ∧ v.chars = base.under rest ∧
      (v.bare = u.bare ↔ base.fragment.isSome ∨ Path.StartsOnce rest) := by
  obtain ⟨written, scheme, same, tail⟩ := tail_eq_of_below hb hu below edge
  obtain ⟨a, hua, authority⟩ := hu.authority
  have trimmed := written.trimmed_eq (same.trans hua)
  have behind := hu.tail
  rw [← behind.of_chars, tail] at behind
  obtain ⟨v, hv, hs, ha, ht⟩ := exists_of_tail hu.network authority (behind.slashed edge)
  have whole : v.chars = base.trimmed ++ Path.slashed rest := by
    rw [chars_eq ha, ht, hs, Reference.chars_of, ← List.append_assoc, trimmed, scheme]
  refine ⟨v, hv, whole, ?_⟩
  rw [← written.hash_mem_trimmed]
  exact bare_eq_iff_startsOnce hu hv below whole

/-- The path and query of a URL, put below the root under an authority, are the text of a URL
again. It is the same one apart from the fragment if the authority is, and the path begins with one
slash. -/
theorem exists_under_root {base u : Url} (hb : base.IsWritten) (hu : u.IsWritten)
    (scheme : base.scheme = u.scheme) (rooted : base.tail.chars = ['/']) :
    ∃ v : Url, v.IsWritten ∧ v.chars = base.under u.pathAndQuery ∧
      (v.bare = u.bare ↔ base.authority = u.authority ∧ Path.StartsOnce u.pathAndQuery) := by
  obtain ⟨a, hba, authority⟩ := hb.authority
  have trimmed : base.trimmed = front u.scheme a := by
    rw [hb.trimmed_eq hba, rooted, scheme]
    exact List.append_nil _
  rw [scheme] at authority
  have network : SchemeKind.of u.scheme = .network := hu.network
  have bare : u.bare.tail.chars = u.pathAndQuery := List.append_nil _
  have behind : (Reference.of ([] ++ u.pathAndQuery)).IsWritten := by
    rw [List.nil_append, ← bare, hu.bare.tail.of_chars]
    exact hu.bare.tail
  have edge : ∀ c ∈ u.pathAndQuery.head?, c = '/' ∨ c = '?' := by
    obtain ⟨rest, e⟩ := hu.bare.exists_tail
    rw [bare] at e
    rw [e]
    rintro c ⟨⟩
    exact .inl rfl
  obtain ⟨v, hv, hs, ha, ht⟩ := exists_of_tail network authority (behind.slashed edge)
  have whole : v.chars = front u.scheme a ++ Path.slashed u.pathAndQuery := by
    rw [chars_eq ha, ht, hs, Reference.chars_of, List.nil_append]
  refine ⟨v, hv, by rw [whole, ← trimmed]; rfl, ?_⟩
  by_cases same : some a = u.authority
  · have parts : u.bare.chars = front u.scheme a ++ u.pathAndQuery := by
      rw [chars_eq (u := u.bare) same.symm, bare]
      rfl
    have hashless : '#' ∉ front u.scheme a := not_mem_front network authority rfl (by simp)
    rw [hba]
    have apart := bare_eq_iff_startsOnce hu.bare hv parts whole
    rw [show u.bare.bare = u.bare from rfl] at apart
    simpa [hashless, same] using apart
  · constructor
    · intro e
      refine absurd ?_ same
      rw [← ha]
      show v.bare.authority = u.bare.authority
      rw [e]
    · rintro ⟨e, _⟩
      exact absurd (hba.symm.trans e) same

end Url

end Failover
