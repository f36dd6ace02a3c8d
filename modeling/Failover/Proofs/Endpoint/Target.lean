import Failover.Http.Message
import Failover.Proofs.Config.Check
import Failover.Proofs.Url.Below

/-!
# Where a request goes

A request names a path, which is put below the text of whichever endpoint is chosen. The text that
comes out always spells a URL. It is a URL below the path of the endpoint if the endpoint ends in
its path; behind a query or a fragment the path of the request becomes a part of those instead.
-/

namespace Failover

/-! ## Plain words -/

namespace Percent

theorem IsPlain.append {set : Char → Bool} {s t : List Char} (hs : IsPlain set s)
    (ht : IsPlain set t) : IsPlain set (s ++ t) := by
  intro c hc
  rcases List.mem_append.mp hc with front | back
  · exact hs c front
  · exact ht c back

theorem IsPlain.rdropWhile {set : Char → Bool} {s : List Char} (hs : IsPlain set s)
    (p : Char → Bool) : IsPlain set (s.rdropWhile p) :=
  fun c hc => hs c ((List.rdropWhile_prefix p s).subset hc)

end Percent

/-- Letters, digits, dashes and underscores. -/
def isWordChar (c : Char) : Bool := c.isAlphanum || c == '-' || c == '_'

section Words

variable {c : Char} {s : List Char}

theorem toNat_lt_of_isWordChar (h : isWordChar c = true) : c.toNat < 128 := by
  have bounded : ∀ last : Char, last.toNat < 128 → c.val ≤ last.val → c.toNat < 128 :=
    fun _ ascii upper => Nat.lt_of_le_of_lt (UInt32.le_iff_toNat_le.mp upper) ascii
  rw [isWordChar, Bool.or_eq_true, Bool.or_eq_true, beq_iff_eq, beq_iff_eq] at h
  rcases h with (letter | rfl) | rfl
  · have letter : (c.isUpper || c.isLower || c.isDigit) = true := letter
    rw [Bool.or_eq_true, Bool.or_eq_true] at letter
    rcases letter with (upper | lower) | digit
    · exact bounded 'Z' (by decide) (of_decide_eq_true upper).2
    · exact bounded 'z' (by decide) (of_decide_eq_true ((Bool.and_eq_true_iff.mp lower).2))
    · exact bounded '9' (by decide) (of_decide_eq_true ((Bool.and_eq_true_iff.mp digit).2))
  · decide
  · decide

/-- What can be read off the characters of ASCII holds of the characters of words. -/
theorem of_isWordChar {p : Char → Bool}
    (h : ∀ n < 128, isWordChar (Char.ofNat n) = true → p (Char.ofNat n) = true)
    (hc : isWordChar c = true) : p c = true := by
  have named := h c.toNat (toNat_lt_of_isWordChar hc)
  rw [Char.ofNat_toNat] at named
  exact named hc

theorem inPath_of_isWordChar (hc : isWordChar c = true) : Percent.inPath c = false := by
  simpa using of_isWordChar (p := (!Percent.inPath ·)) (by decide) hc

theorem inFragment_of_isWordChar (hc : isWordChar c = true) : Percent.inFragment c = false := by
  have outside := inPath_of_isWordChar hc
  rw [Percent.inPath, Bool.or_eq_false_iff] at outside
  exact outside.1

theorem inNetworkQuery_of_isWordChar (hc : isWordChar c = true) :
    Percent.inNetworkQuery c = false := by
  simpa using of_isWordChar (p := (!Percent.inNetworkQuery ·)) (by decide) hc

/-- A word is written as it is in each part of a URL that leaves its characters alone. -/
theorem isPlain_of_isWordChar {set : Char → Bool}
    (outside : ∀ c, isWordChar c = true → set c = false) (hs : ∀ c ∈ s, isWordChar c = true) :
    Percent.IsPlain set s :=
  fun c hc => ⟨toNat_lt_of_isWordChar (hs c hc), outside c (hs c hc)⟩

/-- A word is none of the texts that stand for a place, since each of those begins with a dot or an
escape. -/
theorem contains_lower_eq_false {names : List (List Char)}
    (h : ∀ name ∈ names, name.head?.any (fun c => c == '.' || c == '%') = true)
    (hs : ∀ c ∈ s, isWordChar c = true) : names.contains (Path.lower s) = false := by
  rw [Bool.eq_false_iff]
  intro listed
  have first := h _ (List.contains_iff_mem.mp listed)
  cases s with
  | nil => cases first
  | cons c rest =>
    have word := hs c List.mem_cons_self
    simp only [Path.lower, List.map_cons, List.head?_cons, Option.any_some, Bool.or_eq_true,
      beq_iff_eq] at first
    rcases first with dot | percent
    · rw [Path.eq_of_toLower_eq dot (by decide)] at word
      cases word
    · rw [Path.eq_of_toLower_eq percent (by decide)] at word
      cases word

theorem isKept_of_isWordChar (hs : ∀ c ∈ s, isWordChar c = true) : Path.IsKept s where
  plain := isPlain_of_isWordChar (fun _ => inPath_of_isWordChar) hs
  unbroken c hc := by
    rw [isSlash_network, Bool.or_eq_false_iff, beq_eq_false_iff_ne, beq_eq_false_iff_ne]
    constructor <;> rintro rfl <;> cases hs _ hc
  dot := contains_lower_eq_false (by decide) hs
  doubleDot := contains_lower_eq_false (by decide) hs

end Words

/-- The path of a request in plain words, and the query behind it. -/
structure PlainPath where
  segments : List (List Char)
  query : Option (List Char)
  some' : segments ≠ []
  nonempty : ∀ s ∈ segments, s ≠ []
  words : ∀ s ∈ segments, ∀ c ∈ s, isWordChar c = true
  asked : ∀ q, query = some q → ∀ c ∈ q, isWordChar c = true ∨ c = '='

namespace PlainPath

/-- The segments as a path. -/
def path (p : PlainPath) : List Char := Path.join p.segments

def chars (p : PlainPath) : List Char := p.path ++ Url.marked '?' p.query

def text (p : PlainPath) : String := String.ofList p.chars

variable (p : PlainPath)

theorem kept : ∀ s ∈ p.segments, Path.IsKept s := fun s hs => isKept_of_isWordChar (p.words s hs)

/-- A path begins with a slash and the first character of a word. -/
theorem exists_path : ∃ c rest, p.path = '/' :: c :: rest ∧ c ≠ '/' := by
  obtain ⟨s, others, e⟩ := List.exists_cons_of_ne_nil p.some'
  have listed : s ∈ p.segments := e ▸ List.mem_cons_self
  obtain ⟨c, rest, rfl⟩ := List.exists_cons_of_ne_nil (p.nonempty s listed)
  refine ⟨c, rest ++ Path.join others, by rw [path, e]; rfl, ?_⟩
  rintro rfl
  cases p.words _ listed '/' List.mem_cons_self

theorem slashed_chars : Path.slashed p.chars = p.chars := by
  obtain ⟨c, rest, e, first⟩ := p.exists_path
  refine (Path.slashed_eq_iff _).mpr ?_
  rw [chars, e]
  exact ⟨rfl, fun second => first (Option.some.inj second)⟩

/-- In a query and in a fragment the whole request path is written as it is. -/
theorem isPlain_query {set : Char → Bool}
    (outside : ∀ c, isWordChar c = true → set c = false) (equals : set '=' = false) :
    ∀ q, p.query = some q → Percent.IsPlain set q := by
  intro q hq c hc
  rcases p.asked q hq c hc with word | rfl
  · exact ⟨toNat_lt_of_isWordChar word, outside c word⟩
  · exact ⟨by decide, equals⟩

theorem isPlain_chars {set : Char → Bool}
    (outside : ∀ c, isWordChar c = true → set c = false) (equals : set '=' = false)
    (slash : set '/' = false) (question : set '?' = false) :
    Percent.IsPlain set p.chars := by
  intro c hc
  rcases List.mem_append.mp hc with inner | inner
  · obtain ⟨s, hs, inner⟩ := List.mem_flatMap.mp inner
    rcases List.mem_cons.mp inner with rfl | inner
    · exact ⟨by decide, slash⟩
    · exact isPlain_of_isWordChar outside (p.words s hs) c inner
  · cases hq : p.query with
    | none =>
      rw [hq] at inner
      cases inner
    | some q =>
      rw [hq] at inner
      rcases List.mem_cons.mp inner with rfl | inner
      · exact ⟨by decide, question⟩
      · exact p.isPlain_query outside equals q hq c inner

end PlainPath

/-! ## Slashes at the end -/

/-- A text that loses the slashes at its end is that of the segments that are left without the
empty ones at their end. -/
theorem Path.rdropWhile_join {segments : List (List Char)} (h : ∀ s ∈ segments, '/' ∉ s) :
    (join segments).rdropWhile (· == '/') = join (segments.rdropWhile List.isEmpty) := by
  induction segments using List.reverseRecOn with
  | nil => rfl
  | append_singleton front s ih =>
    rcases List.eq_nil_or_concat' s with rfl | ⟨rest, c, rfl⟩
    · have last : join (front ++ [[]]) = join front ++ ['/'] := by simp [join]
      rw [last, List.rdropWhile_concat_pos _ _ _ rfl, List.rdropWhile_concat_pos _ _ _ rfl]
      exact ih fun t ht => h t (List.mem_append_left _ ht)
    · have last : join (front ++ [rest ++ [c]]) = (join front ++ '/' :: rest) ++ [c] := by
        simp [join]
      have other : (c == '/') = false := by
        refine beq_eq_false_iff_ne.mpr ?_
        rintro rfl
        exact h (rest ++ ['/']) (by simp) (List.mem_append_right rest List.mem_cons_self)
      have some' : ¬(rest ++ [c]).isEmpty = true := by simp
      rw [List.rdropWhile_concat_neg _ _ _ some', last]
      exact Url.rdropWhile_append (p := (· == '/')) other _ []

namespace Reference

/-- What stands behind an authority once a path is put below it: the path goes to the end. -/
def under (r : Reference) (p : PlainPath) : Reference :=
  match r.fragment, r.query with
  | some f, _ => { r with fragment := some (f.rdropWhile (· == '/') ++ p.chars) }
  | none, some q => { r with query := some (q.rdropWhile (· == '/') ++ p.chars) }
  | none, none => ⟨r.main.rdropWhile (· == '/') ++ p.path, p.query, none⟩

variable {r : Reference} {p : PlainPath}

theorem chars_under : (r.under p).chars = r.chars.rdropWhile (· == '/') ++ p.chars := by
  obtain ⟨main, query, fragment⟩ := r
  cases fragment with
  | some f =>
    show main ++ Url.marked '?' query ++ '#' :: (f.rdropWhile (· == '/') ++ p.chars) =
      (main ++ Url.marked '?' query ++ '#' :: f).rdropWhile (· == '/') ++ p.chars
    rw [Url.rdropWhile_append (by decide)]
    simp
  | none =>
    cases query with
    | some q => simp [under, chars, Url.marked, Url.rdropWhile_append]
    | none => simp [under, chars, Url.marked, PlainPath.chars]

/-- What stands behind the authority is still in order. -/
theorem IsWritten.under (h : r.IsWritten) (p : PlainPath) : (r.under p).IsWritten := by
  rw [Reference.under.eq_def]
  split
  · rename_i f hf
    refine ⟨h.path, h.query, ?_⟩
    rintro _ ⟨⟩
    exact ((h.fragment f hf).rdropWhile _).append
      (p.isPlain_chars (fun _ => inFragment_of_isWordChar) rfl rfl rfl)
  · rename_i q _ hq
    refine ⟨h.path, ?_, h.fragment⟩
    rintro _ ⟨⟩
    exact ((h.query q hq).rdropWhile _).append
      (p.isPlain_chars (fun _ => inNetworkQuery_of_isWordChar) rfl rfl rfl)
  · obtain ⟨segments, e, _, kept⟩ := h.path
    refine ⟨⟨segments.rdropWhile List.isEmpty ++ p.segments, ?_, ?_, ?_⟩,
      p.isPlain_query (fun _ => inNetworkQuery_of_isWordChar) rfl, nofun⟩
    · rw [e, Path.rdropWhile_join fun s hs => (kept s hs).slash_not_mem]
      simp [PlainPath.path, Path.join]
    · simp [p.some']
    · intro s hs
      rcases List.mem_append.mp hs with own | below
      · exact kept s ((List.rdropWhile_prefix _ _).subset own)
      · exact p.kept s below

/-- The path of a request comes to stand behind the path only if there is neither a query nor a
fragment. -/
theorem under_eq_iff :
    ((r.under p).main = r.main.rdropWhile (· == '/') ++ p.path ∧ (r.under p).query = p.query) ↔
      r.query = none ∧ r.fragment = none := by
  -- a path with another one behind it is not what is left of itself
  have longer : r.main ≠ r.main.rdropWhile (· == '/') ++ p.path := by
    intro e
    obtain ⟨c, rest, path, other⟩ := p.exists_path
    have trimmed := congrArg (List.rdropWhile (· == '/')) e
    rw [path, show r.main.rdropWhile (· == '/') ++ '/' :: c :: rest =
        r.main.rdropWhile (· == '/') ++ ['/'] ++ c :: rest by simp,
      Url.rdropWhile_append (by simpa using other)] at trimmed
    have lengths := congrArg List.length trimmed
    simp only [List.length_append, List.length_cons] at lengths
    omega
  rw [under.eq_def]
  split
  · rename_i f hf
    simp [longer, hf]
  · rename_i q hf hq
    simp [longer, hq]
  · rename_i hf hq
    simp [hf, hq]

end Reference

/-! ## Targets -/

/-- The target of a request below any endpoint that a check lets through spells a URL. Its path is
that of the endpoint, without the slashes at its end, and that of the request, and its query is that
of the request, exactly where the endpoint has neither a query nor a fragment. -/
theorem target_path_iff {s : Settings} {endpoint : String} (accepted : s.faults = [])
    (listed : endpoint ∈ s.endpoints) (p : PlainPath) :
    ∃ base u, Url.parse endpoint = .ok base ∧ Url.parse (target base p.text) = .ok u ∧
      ((u.path.chars = base.path.chars.rdropWhile (· == '/') ++ p.path ∧ u.query = p.query) ↔
        base.query = none ∧ base.fragment = none) := by
  obtain ⟨base, parsed, scheme⟩ := (Settings.faults_eq_nil_iff.mp accepted).endpoints _ listed
  have network : base.kind = .network := by
    rcases scheme with e | e <;> rw [Url.kind, e] <;> decide
  have written := (Url.Made.parsed parsed).isSound.written network
  obtain ⟨a, ha, authority⟩ := written.authority
  obtain ⟨u, hu, hs, hua, tail⟩ := Url.exists_of_tail network authority (written.tail.under p)
  have whole : u.chars = base.under p.chars := by
    rw [Url.chars_eq hua, tail, hs, Reference.chars_under, ← List.append_assoc,
      ← written.trimmed_eq ha]
    exact congrArg (base.trimmed ++ ·) p.slashed_chars.symm
  refine ⟨base, u, parsed, ?_, ?_⟩
  · rw [Url.parse, target, String.toList_ofList, PlainPath.text, String.toList_ofList, ← whole]
    exact hu.read_chars
  · have path : u.path.chars = (base.tail.under p).main := congrArg Reference.main tail
    have query : u.query = (base.tail.under p).query := congrArg Reference.query tail
    rw [path, query]
    exact Reference.under_eq_iff

/-- A path with a query. -/
def itemsPath : PlainPath where
  segments := ["v1".toList, "items".toList]
  query := some "x=1".toList
  some' := List.cons_ne_nil _ _
  nonempty := by simp
  words := by
    have plain : ["v1".toList, "items".toList].all (·.all isWordChar) = true := by decide
    intro s hs
    exact List.all_eq_true.mp (List.all_eq_true.mp plain s hs)
  asked := by
    rintro q ⟨⟩ c hc
    have plain : "x=1".toList.all (fun c => isWordChar c || c == '=') = true := by decide
    simpa using List.all_eq_true.mp plain c hc

/-- User name, port and a slash at the end of an endpoint do no harm. -/
theorem target_path_items :
    ∃ base u, Url.parse "http://me@a:81/api/" = .ok base ∧
      Url.parse (target base "/v1/items?x=1") = .ok u ∧
      u.path.chars = "/api/v1/items".toList ∧ u.query = some "x=1".toList := by
  let base : Url :=
    ⟨"http".toList, some ⟨"me".toList, none, .domain "a".toList, some 81⟩,
      .rooted ["api".toList, []], none, none⟩
  have parsed : Url.parse "http://me@a:81/api/" = .ok base := by decide +kernel
  obtain ⟨found, u, hb, hu, keeps⟩ := target_path_iff
    (s := { endpoints := ["http://me@a:81/api/"] }) (by decide +kernel) List.mem_cons_self itemsPath
  have same : found = base := Except.ok.inj (hb.symm.trans parsed)
  subst same
  obtain ⟨path, query⟩ := keeps.mpr ⟨rfl, rfl⟩
  exact ⟨base, u, parsed, hu, path, query⟩

/-- Behind the query of an endpoint, the path of a request becomes a part of the query. -/
theorem target_path_query :
    ∃ base u, Settings.faults { endpoints := ["http://a/api?x=1"] } = [] ∧
      Url.parse "http://a/api?x=1" = .ok base ∧ Url.parse (target base "/v1") = .ok u ∧
      u.path.chars = "/api".toList ∧ u.query = some "x=1/v1".toList ∧
      u.path.chars ≠ base.path.chars.rdropWhile (· == '/') ++ "/v1".toList := by
  let base : Url :=
    ⟨"http".toList, some ⟨[], none, .domain "a".toList, none⟩, .rooted ["api".toList],
      some "x=1".toList, none⟩
  refine ⟨base, { base with query := some "x=1/v1".toList }, ?_⟩
  decide +kernel

end Failover
