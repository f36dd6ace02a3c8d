import Failover.Proofs.Url.Authority
import Failover.Proofs.Url.Path

/-!
# Network URLs that are read back

A URL that has been read under a network scheme has an authority as it is kept, a path of kept
segments, and a query and a fragment that are written as they are. Its text is read as the same
URL, so that no two such URLs have one text.
-/

namespace Failover

/-! ## Texts in three parts -/

namespace Reference

/-- A text that begins with a character that can be seen loses nothing at its start. -/
theorem dropWhile_isBlank {cs : List Char} (h : ∀ c ∈ cs.head?, 32 < c.toNat) :
    cs.dropWhile isBlank = cs := by
  cases cs with
  | nil => rfl
  | cons c rest =>
    have first := h c rfl
    exact List.dropWhile_cons_of_neg (by simp [isBlank, first])

/-- Characters that can be seen are neither tabs nor line ends. -/
theorem filter_unbroken {cs : List Char} (h : ∀ c ∈ cs, 32 < c.toNat) :
    cs.filter (fun c => !(c == '\t' || c == '\n' || c == '\r')) = cs := by
  rw [List.filter_eq_self]
  intro c hc
  have visible := h c hc
  simp only [Bool.not_eq_true', Bool.or_eq_false_iff, beq_eq_false_iff_ne]
  refine ⟨⟨?_, ?_⟩, ?_⟩ <;> rintro rfl <;> exact absurd visible (by decide)

/-- A text of characters that can be seen is clean. -/
theorem clean_of_visible {cs : List Char} (h : ∀ c ∈ cs, 32 < c.toNat) : clean cs = cs := by
  have front : cs.dropWhile isBlank = cs :=
    dropWhile_isBlank fun c hc => h c (List.mem_of_mem_head? hc)
  have back : cs.reverse.dropWhile isBlank = cs.reverse :=
    dropWhile_isBlank fun c hc => h c (List.mem_reverse.mp (List.mem_of_mem_head? hc))
  rw [clean, front, back, List.reverse_reverse, filter_unbroken h]

/-- The text that falls into these parts. -/
def chars (r : Reference) : List Char :=
  r.main ++ Url.marked '?' r.query ++ Url.marked '#' r.fragment

/-- A component is found again behind its mark. -/
theorem cut_marked {mark : Char} {front : List Char} (h : mark ∉ front)
    (component : Option (List Char)) :
    cut mark (front ++ Url.marked mark component) = (front, component) := by
  cases component with
  | none =>
    rw [Url.marked, List.append_nil]
    exact cut_of_not_mem h
  | some cs => exact cut_append h

/-- To cut a text loses none of it. -/
theorem append_cut (mark : Char) (cs : List Char) :
    (cut mark cs).1 ++ Url.marked mark (cut mark cs).2 = cs := by
  by_cases h : mark ∈ cs
  · obtain ⟨front, rest, rfl, first⟩ := List.eq_append_cons_of_mem h
    rw [cut_append first]
    rfl
  · rw [cut_of_not_mem h]
    exact List.append_nil cs

theorem of_chars {r : Reference} (hash : '#' ∉ r.main ++ Url.marked '?' r.query)
    (question : '?' ∉ r.main) : of r.chars = r := by
  rw [of, chars, cut_marked hash]
  simp only [cut_marked question]

theorem of_append_main {front : List Char} (hash : '#' ∉ front) (question : '?' ∉ front)
    (back : List Char) : of (front ++ back) = { of back with main := front ++ (of back).main } := by
  simp [of, cut_append_of_not_mem hash, cut_append_of_not_mem question]

theorem chars_of (cs : List Char) : (of cs).chars = cs := by
  have main : (of cs).main ++ Url.marked '?' (of cs).query = (cut '#' cs).1 := append_cut '?' _
  rw [chars, main]
  exact append_cut '#' cs

/-- A component that is written as it is holds no escaped character but its mark. -/
theorem of_mem_marked {set : Char → Bool} {mark c : Char} {component : Option (List Char)}
    (plain : ∀ cs, component = some cs → Percent.IsPlain set cs)
    (hc : c ∈ Url.marked mark component) : c = mark ∨ set c = false := by
  cases component with
  | none => cases hc
  | some cs =>
    rcases List.mem_cons.mp hc with marked | inner
    · exact .inl marked
    · exact .inr (plain cs rfl c inner).2

/-- The parts of a URL behind its authority, as they are kept under a network scheme. -/
structure IsWritten (r : Reference) : Prop where
  path : ∃ segments, r.main = Path.join segments ∧ segments ≠ [] ∧ ∀ s ∈ segments, Path.IsKept s
  query : ∀ q, r.query = some q → Percent.IsPlain Percent.inNetworkQuery q
  fragment : ∀ f, r.fragment = some f → Percent.IsPlain Percent.inFragment f

variable {r : Reference} {c : Char}

theorem IsWritten.of_mem_main (h : r.IsWritten) (hc : c ∈ r.main) :
    c = '/' ∨ Percent.inPath c = false := by
  obtain ⟨segments, e, _, kept⟩ := h.path
  rw [e] at hc
  obtain ⟨s, hs, hc⟩ := List.mem_flatMap.mp hc
  rcases List.mem_cons.mp hc with slash | inner
  · exact .inl slash
  · exact .inr ((kept s hs).plain c inner).2

theorem IsWritten.question_not_mem (h : r.IsWritten) : '?' ∉ r.main := by
  intro hc
  rcases h.of_mem_main hc with slash | plain
  · cases slash
  · cases plain

theorem IsWritten.hash_not_mem (h : r.IsWritten) : '#' ∉ r.main ++ Url.marked '?' r.query := by
  intro hc
  rcases List.mem_append.mp hc with main | query
  · rcases h.of_mem_main main with slash | plain
    · cases slash
    · cases plain
  · rcases of_mem_marked h.query query with mark | plain
    · cases mark
    · cases plain

theorem IsWritten.of_chars (h : r.IsWritten) : of r.chars = r :=
  Reference.of_chars h.hash_not_mem h.question_not_mem

/-- Every character behind the authority can be seen. -/
theorem IsWritten.visible (h : r.IsWritten) : ∀ c ∈ r.chars, 32 < c.toNat := by
  intro c hc
  rcases List.mem_append.mp hc with front | fragment
  · rcases List.mem_append.mp front with main | query
    · rcases h.of_mem_main main with rfl | plain
      · decide
      · exact Percent.lt_of_unescaped (fun _ => Percent.inPath_of_isControl) rfl plain
    · rcases of_mem_marked h.query query with rfl | plain
      · decide
      · exact Percent.lt_of_unescaped (fun _ => Percent.inNetworkQuery_of_isControl) rfl plain
  · rcases of_mem_marked h.fragment fragment with rfl | plain
    · decide
    · exact Percent.lt_of_unescaped (fun _ => Percent.inFragment_of_isControl) rfl plain

end Reference

/-! ## Network schemes -/

/-- The schemes of network URLs. -/
def networkSchemes : List (List Char) :=
  ["http", "https", "ws", "wss", "ftp"].map String.toList

theorem mem_networkSchemes {scheme : List Char} (network : SchemeKind.of scheme = .network) :
    scheme ∈ networkSchemes := by
  rw [SchemeKind.of] at network
  split at network
  · cases network
  · split at network
    · rename_i listed
      obtain ⟨name, hn, e⟩ := List.any_eq_true.mp listed
      rw [← beq_iff_eq.mp e]
      exact List.mem_map_of_mem hn
    · cases network

/-- A network scheme is found in front of its colon. -/
theorem Reference.scheme?_append {scheme : List Char} (network : SchemeKind.of scheme = .network)
    (rest : List Char) : scheme? (scheme ++ ':' :: rest) = some (scheme, rest) := by
  have listed := mem_networkSchemes network
  simp only [networkSchemes, List.map_cons, List.map_nil, List.mem_cons, List.not_mem_nil,
    or_false] at listed
  rcases listed with rfl | rfl | rfl | rfl | rfl <;> rfl

theorem isSlash_network (c : Char) :
    SchemeKind.network.isSlash c = (c == '/' || c == '\\') :=
  congrArg (c == '/' || ·) (Bool.and_true _)

theorem isSlash_of_isOuter {c : Char} (inner : Host.isOuter c = false) :
    SchemeKind.network.isSlash c = false := by
  rw [isSlash_network, Bool.or_eq_false_iff]
  simp only [beq_eq_false_iff_ne]
  constructor <;> rintro rfl <;> cases inner

/-! ## Written URLs -/

namespace Url

/-- A network URL by its components, each as it is kept. -/
structure IsWritten (u : Url) : Prop where
  network : u.kind = .network
  authority : ∃ a, u.authority = some a ∧ a.IsWritten u.scheme
  path : ∃ segments, u.path = .rooted segments ∧ segments ≠ [] ∧ ∀ s ∈ segments, Path.IsKept s
  query : ∀ q, u.query = some q → Percent.IsPlain Percent.inNetworkQuery q
  fragment : ∀ f, u.fragment = some f → Percent.IsPlain Percent.inFragment f

theorem IsWritten.of_authority {u : Url} {a : Authority} (h : u.IsWritten)
    (ha : u.authority = some a) : a.IsWritten u.scheme := by
  obtain ⟨b, hb, written⟩ := h.authority
  rw [ha] at hb
  cases hb
  exact written

/-- What a URL has behind its authority. -/
def tail (u : Url) : Reference := ⟨u.path.chars, u.query, u.fragment⟩

/-- The text of a URL up to the end of its authority. -/
def front (scheme : List Char) (a : Authority) : List Char := scheme ++ ':' :: '/' :: '/' :: a.chars

theorem chars_eq {u : Url} {a : Authority} (h : u.authority = some a) :
    u.chars = front u.scheme a ++ u.tail.chars := by
  simp [chars, withoutFragment, middle, h, front, tail, Reference.chars, pathAndQuery]

theorem IsWritten.tail {u : Url} (h : u.IsWritten) : u.tail.IsWritten := by
  obtain ⟨segments, e, some', kept⟩ := h.path
  exact ⟨⟨segments, by rw [Url.tail, e]; rfl, some', kept⟩, h.query, h.fragment⟩

/-- The path of a network URL begins with a slash. -/
theorem IsWritten.exists_path {u : Url} (h : u.IsWritten) : ∃ rest, u.path.chars = '/' :: rest := by
  obtain ⟨segments, e, some', _⟩ := h.path
  obtain ⟨s, others, rfl⟩ := List.exists_cons_of_ne_nil some'
  exact ⟨_, by rw [e]; rfl⟩

/-- What is written behind an authority is the end of a URL. -/
theorem exists_of_tail {scheme : List Char} {a : Authority} {r : Reference}
    (network : SchemeKind.of scheme = .network) (ha : a.IsWritten scheme) (hr : r.IsWritten) :
    ∃ u : Url, u.IsWritten ∧ u.scheme = scheme ∧ u.authority = some a ∧ u.tail = r := by
  obtain ⟨segments, e, some', kept⟩ := hr.path
  refine ⟨⟨scheme, some a, .rooted segments, r.query, r.fragment⟩, ?_, rfl, rfl, ?_⟩
  · exact ⟨network, ⟨a, rfl, ha⟩, ⟨segments, rfl, some', kept⟩, hr.query, hr.fragment⟩
  · rw [Url.tail]
    cases r
    simp_all [Path.chars]

section Front

variable {scheme : List Char} {a : Authority}

theorem isOuter_of_mem_front (network : SchemeKind.of scheme = .network) (ha : a.IsWritten scheme)
    {c : Char} (hc : c ∈ front scheme a) : c = '/' ∨ Host.isOuter c = false := by
  have letters : ∀ s ∈ networkSchemes, s.all (!Host.isOuter ·) = true := by decide
  rcases List.mem_append.mp hc with letter | rest
  · have plain := List.all_eq_true.mp (letters scheme (mem_networkSchemes network)) c letter
    exact .inr (by simpa using plain)
  · simp only [List.mem_cons] at rest
    rcases rest with rfl | rfl | rfl | inner
    · exact .inr rfl
    · exact .inl rfl
    · exact .inl rfl
    · exact .inr (ha.isOuter_eq c inner)

theorem visible_front (network : SchemeKind.of scheme = .network) (ha : a.IsWritten scheme) :
    ∀ c ∈ front scheme a, 32 < c.toNat := by
  intro c hc
  rcases isOuter_of_mem_front network ha hc with rfl | inner
  · decide
  · rw [Host.isOuter, Bool.or_eq_false_iff, decide_eq_false_iff_not] at inner
    omega

theorem not_mem_front (network : SchemeKind.of scheme = .network) (ha : a.IsWritten scheme)
    {mark : Char} (outer : Host.isOuter mark = true) (slash : mark ≠ '/') :
    mark ∉ front scheme a := by
  intro hc
  rcases isOuter_of_mem_front network ha hc with rfl | inner
  · exact slash rfl
  · rw [outer] at inner
    cases inner

end Front

/-! ## Reading -/

/-- An authority and the path behind it are told apart at the slash. -/
theorem readAuthority_slash {scheme : List Char} {a : Authority}
    (network : SchemeKind.of scheme = .network) (ha : a.IsWritten scheme) (r : Reference)
    (rest : List Char) :
    readAuthority scheme r (a.chars ++ '/' :: rest) =
      .ok (withTail ⟨scheme, some a, pathAfter .network ('/' :: rest), none, none⟩ r) := by
  have inner : ∀ c ∈ a.chars, (!SchemeKind.network.isSlash c) = true := by
    intro c hc
    rw [isSlash_of_isOuter (ha.isOuter_eq c hc)]
    rfl
  have before : (a.chars ++ '/' :: rest).takeWhile (!SchemeKind.network.isSlash ·) = a.chars := by
    rw [List.takeWhile_append_of_pos inner]
    exact List.append_nil _
  have after : (a.chars ++ '/' :: rest).dropWhile (!SchemeKind.network.isSlash ·) =
      '/' :: rest := by
    rw [List.dropWhile_append_of_pos inner]
    rfl
  rw [readAuthority, network]
  simp only [before, after]
  rw [ha.read_chars network]
  rfl

theorem IsWritten.readAuthority_eq {u : Url} {a : Authority} {r : Reference} (h : u.IsWritten)
    (ha : u.authority = some a) (query : r.query = u.query) (fragment : r.fragment = u.fragment) :
    readAuthority u.scheme r (a.chars ++ u.path.chars) = .ok u := by
  obtain ⟨segments, path, some', kept⟩ := h.path
  obtain ⟨first, others, rfl⟩ := List.exists_cons_of_ne_nil some'
  have network : SchemeKind.of u.scheme = .network := h.network
  have rooted : u.path.chars = '/' :: (first ++ Path.join others) := by
    rw [path]
    rfl
  have segmented : pathAfter .network u.path.chars = u.path := by
    rw [rooted, path]
    exact congrArg Path.rooted (Path.descend_join some' kept)
  rw [rooted, readAuthority_slash network (h.of_authority ha), ← rooted, segmented, withTail, query,
    fragment]
  have other : kind ⟨u.scheme, some a, u.path, none, none⟩ ≠ .other := by
    rw [kind, network]
    exact nofun
  rw [if_neg other, Percent.map_encode h.query, Percent.map_encode h.fragment, ← ha]

theorem IsWritten.clean_chars {u : Url} (h : u.IsWritten) :
    Reference.clean u.chars = u.chars := by
  obtain ⟨a, ha, authority⟩ := h.authority
  refine Reference.clean_of_visible fun c hc => ?_
  rw [chars_eq ha] at hc
  rcases List.mem_append.mp hc with inner | outer
  · exact visible_front h.network authority c inner
  · exact h.tail.visible c outer

/-- Up to the end of the authority there is no mark, so that the text falls apart where the tail
does. -/
theorem IsWritten.of_chars {u : Url} {a : Authority} (h : u.IsWritten)
    (ha : u.authority = some a) :
    Reference.of u.chars = ⟨front u.scheme a ++ u.path.chars, u.query, u.fragment⟩ := by
  have authority := h.of_authority ha
  have hash : '#' ∉ front u.scheme a := not_mem_front h.network authority rfl (by simp)
  have question : '?' ∉ front u.scheme a := not_mem_front h.network authority rfl (by simp)
  rw [chars_eq ha, Reference.of_append_main hash question, h.tail.of_chars]
  rfl

/-- No authority begins with a slash, so that the two slashes in front of it are all there are. -/
theorem takeWhile_slashes {scheme : List Char} {a : Authority} (ha : a.IsWritten scheme)
    (rest : List Char) :
    ('/' :: '/' :: (a.chars ++ rest)).takeWhile (fun c => c == '/' || c == '\\') = ['/', '/'] := by
  obtain ⟨c, more, e⟩ := List.exists_cons_of_ne_nil ha.chars_ne_nil
  have other : (c == '/' || c == '\\') = false := by
    rw [← isSlash_network]
    exact isSlash_of_isOuter (ha.isOuter_eq c (e ▸ List.mem_cons_self))
  rw [e]
  simp [other]

/-- A text is read under the scheme and from the authority that it begins with. -/
theorem read_front {scheme cs rest : List Char} {a : Authority} {r : Reference}
    (network : SchemeKind.of scheme = .network) (ha : a.IsWritten scheme)
    (parts : Reference.of (Reference.clean cs) = r) (main : r.main = front scheme a ++ rest) :
    read none cs = readAuthority scheme r (a.chars ++ rest) := by
  have named : Reference.scheme? r.main = some (scheme, '/' :: '/' :: (a.chars ++ rest)) := by
    rw [main, ← Reference.scheme?_append network]
    simp [front]
  unfold read
  simp only [parts, named]
  unfold readAbsolute
  simp only [network, takeWhile_slashes ha, Option.filter_none]
  rfl

/-- The text of a URL is read as that URL. -/
theorem IsWritten.read_chars {u : Url} (h : u.IsWritten) : read none u.chars = .ok u := by
  obtain ⟨a, ha, authority⟩ := h.authority
  have parts := h.of_chars ha
  rw [← h.clean_chars] at parts
  rw [read_front h.network authority parts rfl]
  exact h.readAuthority_eq ha rfl rfl

theorem IsWritten.eq_of_chars {u v : Url} (hu : u.IsWritten) (hv : v.IsWritten)
    (h : u.chars = v.chars) : u = v := by
  have read := hu.read_chars
  rw [h, hv.read_chars] at read
  injection read with e
  exact e.symm

/-! ## Without the fragment -/

/-- A URL without its fragment. -/
def bare (u : Url) : Url := { u with fragment := none }

theorem chars_bare (u : Url) : u.bare.chars = u.withoutFragment := List.append_nil _

theorem IsWritten.bare {u : Url} (h : u.IsWritten) : u.bare.IsWritten :=
  ⟨h.network, h.authority, h.path, h.query, nofun⟩

/-- Two URLs are the same apart from their fragments if their texts are. -/
theorem IsWritten.bare_eq_iff {u v : Url} (hu : u.IsWritten) (hv : v.IsWritten) :
    u.bare = v.bare ↔ u.withoutFragment = v.withoutFragment := by
  constructor
  · intro same
    rw [← chars_bare, same, chars_bare]
  · intro same
    refine hu.bare.eq_of_chars hv.bare ?_
    rw [chars_bare, chars_bare, same]

/-- The text of a URL holds the mark of a fragment only in front of its fragment. -/
theorem IsWritten.hash_not_mem {u : Url} (h : u.IsWritten) : '#' ∉ u.withoutFragment := by
  obtain ⟨a, ha, authority⟩ := h.authority
  have whole : u.withoutFragment = front u.scheme a ++ u.bare.tail.chars := by
    rw [← chars_bare]
    exact chars_eq ha
  rw [whole]
  intro hc
  rcases List.mem_append.mp hc with inner | outer
  · exact not_mem_front h.network authority rfl (by simp) inner
  · refine h.tail.hash_not_mem ?_
    rw [Reference.chars] at outer
    simpa [Url.tail, Url.bare, marked] using outer

theorem IsWritten.cut_chars {u : Url} (h : u.IsWritten) :
    Reference.cut '#' u.chars = (u.withoutFragment, u.fragment) :=
  Reference.cut_marked h.hash_not_mem u.fragment

end Url
end Failover
