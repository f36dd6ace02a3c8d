import Failover.Proofs.Url.Written

/-!
# URLs that can come up

A URL is read from a text, against another URL if there is one, or is the root of another URL. Every
such URL is sound: its scheme holds no colon, and under a network scheme its components are as they
are kept. One lemma for each function that reads says so; nothing else about reading is used later.
-/

namespace Failover.Url

/-- What holds of every URL that can come up. -/
structure IsSound (u : Url) : Prop where
  colon : ':' ∉ u.scheme
  written : u.kind = .network → u.IsWritten

variable {u base : Url} {r : Reference} {scheme cs : List Char}

/-! ## Query and fragment -/

/-- A new query and fragment are written as they are kept. -/
theorem isWritten_withTail (network : u.kind = .network)
    (authority : ∃ a, u.authority = some a ∧ a.IsWritten u.scheme)
    (path : ∃ segments, u.path = .rooted segments ∧ segments ≠ [] ∧ ∀ s ∈ segments, Path.IsKept s)
    (r : Reference) : (withTail u r).IsWritten := by
  have other : u.kind ≠ .other := by
    rw [network]
    exact nofun
  refine ⟨network, authority, path, ?_, ?_⟩
  · intro q hq
    obtain ⟨cs, _, rfl⟩ := Option.map_eq_some_iff.mp hq
    rw [if_neg other]
    exact Percent.isPlain_encode (by decide) cs
  · intro f hf
    obtain ⟨cs, _, rfl⟩ := Option.map_eq_some_iff.mp hf
    exact Percent.isPlain_encode (by decide) cs

theorem IsSound.withTail (h : u.IsSound) (r : Reference) : (u.withTail r).IsSound := by
  refine ⟨h.colon, fun network => ?_⟩
  have written := h.written network
  exact isWritten_withTail network written.authority written.path r

/-- Under a scheme of another kind only the scheme counts. -/
theorem IsSound.of_kind (colon : ':' ∉ u.scheme) (other : u.kind ≠ .network) : u.IsSound :=
  ⟨colon, fun network => absurd network other⟩

theorem IsSound.sameDocument (h : base.IsSound) (r : Reference) :
    (base.sameDocument r).IsSound := by
  have tail := h.withTail r
  rw [Url.sameDocument]
  split
  · exact tail
  · refine ⟨h.colon, fun network => ?_⟩
    have written := tail.written network
    exact ⟨network, written.authority, written.path, (h.written network).query, written.fragment⟩

/-! ## Authority and path -/

/-- What is read behind the two slashes is sound under its scheme. -/
theorem isSound_of_readAuthority (colon : ':' ∉ scheme) (h : readAuthority scheme r cs = .ok u) :
    u.IsSound := by
  rw [readAuthority] at h
  cases read : Authority.read scheme (cs.takeWhile (!(SchemeKind.of scheme).isSlash ·))
      ((cs.dropWhile (!(SchemeKind.of scheme).isSlash ·)).isEmpty && r.endsAtMain) with
  | error e =>
    rw [read] at h
    cases h
  | ok found =>
    obtain ⟨a, rest⟩ := found
    rw [read] at h
    injection h with h
    rw [← h]
    refine ⟨colon, fun network => ?_⟩
    have network : SchemeKind.of scheme = .network := network
    rw [network] at read ⊢
    -- what stands in front of the first slash holds no backslash, so that nothing follows a port
    have slashless : '\\' ∉ cs.takeWhile (!SchemeKind.network.isSlash ·) := by
      intro hc
      have passed := List.mem_takeWhile_imp hc
      cases passed
    obtain ⟨authority, ended⟩ := Authority.isWritten_of_read network slashless read
    refine isWritten_withTail (u := ⟨scheme, some a, _, none, none⟩) network ⟨a, rfl, authority⟩
      ?_ r
    show ∃ segments, pathAfter .network (rest ++ _) = _ ∧ _
    rw [ended, List.nil_append, pathAfter.eq_def]
    split
    · exact ⟨[[]], rfl, List.cons_ne_nil _ _, Path.forall_kept_nil⟩
    · obtain ⟨kept, some'⟩ := @Path.descend_kept [] (fun _ hs => absurd hs List.not_mem_nil) _
      exact ⟨_, rfl, some', kept⟩

/-- A path below that of a sound URL is sound as well. -/
theorem IsSound.descend (h : base.IsSound) (segments : List (List Char)) (text : List Char)
    (below : ∀ s ∈ segments, s ∈ base.path.segments) :
    IsSound { base with path := .rooted (Path.descend base.kind segments text) } := by
  refine ⟨h.colon, fun network => ?_⟩
  have network : base.kind = .network := network
  have written := h.written network
  obtain ⟨own, path, _, kept⟩ := written.path
  have kept : ∀ s ∈ segments, Path.IsKept s := by
    intro s hs
    have inner := below s hs
    rw [path] at inner
    exact kept s inner
  rw [network]
  obtain ⟨kept, some'⟩ := Path.descend_kept kept text
  exact ⟨network, written.authority, ⟨_, rfl, some', kept⟩, written.query, written.fragment⟩

theorem IsSound.readRelative (hb : base.IsSound) (h : base.readRelative r = .ok u) :
    u.IsSound := by
  rw [Url.readRelative.eq_def] at h
  split at h
  · injection h with h
    rw [← h]
    exact hb.sameDocument r
  · dsimp only at h
    split at h
    · split at h
      · exact isSound_of_readAuthority hb.colon h
      · injection h with h
        rw [← h]
        exact (hb.descend [] _ nofun).withTail r
    · injection h with h
      rw [← h]
      exact (hb.descend _ _ fun s hs => List.dropLast_subset _ hs).withTail r

/-! ## File URLs -/

theorem isSound_onFile (r : Reference) (host : Host) (segments : List (List Char)) :
    (onFile r host segments).IsSound :=
  .of_kind (show ':' ∉ "file".toList by decide)
    (show SchemeKind.of "file".toList ≠ .network by decide)

/-- Every text under the file scheme gives a file URL or stays at the base. -/
theorem isSound_of_readFile {b : Option Url} (hb : ∀ v, b = some v → v.IsSound)
    (h : readFile b r cs = .ok u) : u.IsSound := by
  have onto : ∀ {host : Host} {segments : List (List Char)},
      Except.ok (ε := UrlError) (onFile r host segments) = .ok u → u.IsSound := by
    intro host segments e
    injection e with e
    exact e ▸ isSound_onFile r host segments
  rw [readFile.eq_def] at h
  dsimp only at h
  split at h
  · rename_i c rest
    split at h
    · split at h
      · cases found : fileHost (rest.drop 1) with
        | error e =>
          rw [found] at h
          cases h
        | ok place =>
          rw [found] at h
          exact onto h
      · split at h
        · split at h
          · exact onto h
          · split at h
            · exact onto h
            · exact onto h
        · exact onto h
    · split at h
      · split at h
        · exact onto h
        · exact onto h
      · exact onto h
  · injection h with h
    rw [← h]
    exact (hb _ rfl).sameDocument r
  · exact onto h

/-! ## Texts -/

theorem colon_not_mem_of_scheme? {main rest : List Char}
    (h : Reference.scheme? main = some (scheme, rest)) : ':' ∉ scheme := by
  rw [Reference.scheme?.eq_def] at h
  split at h
  · cases h
  · split at h
    · cases h
    · split at h
      · injection h with h
        injection h with e _
        rw [← e]
        intro hc
        obtain ⟨c, hc, lowered⟩ := List.mem_map.mp hc
        have colon : c = ':' := Path.eq_of_toLower_eq lowered (by decide)
        have passed := List.mem_takeWhile_imp hc
        rw [colon] at passed
        cases passed
      · cases h

theorem isSound_of_readAbsolute {b : Option Url} (hb : ∀ v, b = some v → v.IsSound)
    (colon : ':' ∉ scheme) (h : readAbsolute b scheme cs r = .ok u) : u.IsSound := by
  have same : ∀ v, b.filter (·.scheme == scheme) = some v → v.IsSound :=
    fun v hv => hb v (Option.filter_eq_some_iff.mp hv).1
  rw [readAbsolute.eq_def] at h
  split at h
  · exact isSound_of_readFile same h
  · dsimp only at h
    split at h
    · rename_i v hv
      split at h
      · exact (same v hv).readRelative h
      · exact isSound_of_readAuthority colon h
    · exact isSound_of_readAuthority colon h
  · rename_i other
    have other : SchemeKind.of scheme ≠ .network := by
      rw [other]
      exact nofun
    split at h
    · exact isSound_of_readAuthority colon h
    · injection h with h
      rw [← h]
      exact .of_kind colon other
    · injection h with h
      rw [← h]
      exact .of_kind colon other

/-- What a text spells against a sound base is sound. -/
theorem isSound_of_read {b : Option Url} (hb : ∀ v, b = some v → v.IsSound)
    (h : read b cs = .ok u) : u.IsSound := by
  unfold read at h
  dsimp only at h
  split at h
  · rename_i scheme rest found
    exact isSound_of_readAbsolute hb (colon_not_mem_of_scheme? found) h
  · cases h
  · rename_i v _
    have sound := hb v rfl
    split at h
    · split at h
      · injection h with h
        rw [← h]
        exact sound.sameDocument _
      · cases h
    · split at h
      · exact isSound_of_readFile hb h
      · exact sound.readRelative h

/-! ## The URLs of a program -/

theorem IsSound.root (h : u.IsSound) : u.root.IsSound := by
  refine ⟨h.colon, fun network => ?_⟩
  have network : u.kind = .network := network
  have rooted : u.root.path = .rooted [[]] := by
    rw [Url.root, network]
  exact ⟨network, (h.written network).authority,
    ⟨[[]], rooted, List.cons_ne_nil _ _, Path.forall_kept_nil⟩, nofun, nofun⟩

/-- A URL that a text spells, alone or against another one, or the root of one. -/
inductive Made : Url → Prop
  | parsed {text : String} {u : Url} (h : parse text = .ok u) : Made u
  | resolved {base u : Url} {text : String} (made : Made base) (h : base.resolve text = .ok u) :
      Made u
  | root {u : Url} (made : Made u) : Made u.root

theorem Made.isSound {u : Url} (h : Made u) : u.IsSound := by
  induction h with
  | parsed h => exact isSound_of_read (b := none) nofun h
  | resolved _ h ih => exact isSound_of_read (fun v e => Option.some.inj e ▸ ih) h
  | root _ ih => exact ih.root

/-- The text of a network URL that can come up spells that URL again. -/
theorem Made.parse_text {u : Url} (h : Made u) (network : u.kind = .network) :
    parse u.text = .ok u := by
  rw [parse, text, String.toList_ofList]
  exact (h.isSound.written network).read_chars

end Failover.Url
