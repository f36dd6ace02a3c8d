import Failover.Proofs.Endpoint.Redirect
import Failover.Proofs.Endpoint.Ring

/-!
# Where redirects stay

An address is found below an endpoint by comparing texts. What is compared ends at a slash, a
question mark or the end of the address, so the host of an address is never only the beginning of
another one, nor is a segment of its path. Wherever an address is found, the next request goes to
the server that the address names.
-/

namespace Failover

/-! ## Paths of a base -/

namespace Reference

variable {r : Reference} {main back rest : List Char} {c : Char}

/-- Behind a mark nothing belongs to the path, and the path in front of it keeps its slashes. -/
theorem exists_main_of_mark (hash : '#' ∉ main) (question : '?' ∉ main)
    (mark : c = '?' ∨ c = '#') :
    ∃ more, (of ((main ++ c :: back).rdropWhile (· == '/') ++ rest)).main =
        main.rdropWhile (· == '/') ++ more ∧ (more = [] ∨ ∃ later, more = '/' :: later) := by
  have other : (c == '/') = false := by
    rcases mark with rfl | rfl <;> rfl
  have nothing : (of (c :: (back.rdropWhile (· == '/') ++ rest))).main = [] := by
    rcases mark with rfl | rfl <;> simp [of, cut]
  refine ⟨main.rtakeWhile (· == '/'), ?_, ?_⟩
  · rw [Url.rdropWhile_append (p := (· == '/')) other, List.append_assoc, List.cons_append,
      of_append_main hash question, nothing, List.append_nil, List.rdropWhile_append_rtakeWhile]
  · cases slashes : main.rtakeWhile (· == '/') with
    | nil => exact .inl rfl
    | cons d later =>
      have inner : d ∈ main.rtakeWhile (· == '/') := slashes ▸ List.mem_cons_self
      have slash := List.mem_rtakeWhile_imp inner
      exact .inr ⟨later, by rw [beq_iff_eq.mp slash]⟩

/-- A text that goes on behind another one goes on with a slash in the path, if at all. Only the
slashes at the end of the path may be missing in between. -/
theorem IsWritten.exists_main (h : r.IsWritten) (edge : ∀ c ∈ rest.head?, c = '/' ∨ c = '?') :
    ∃ more, (of (r.chars.rdropWhile (· == '/') ++ rest)).main =
        r.main.rdropWhile (· == '/') ++ more ∧ (more = [] ∨ ∃ later, more = '/' :: later) := by
  have hash : '#' ∉ r.main := fun inner => h.hash_not_mem (List.mem_append_left _ inner)
  have question : '?' ∉ r.main := h.question_not_mem
  cases hq : r.query with
  | some q =>
    have whole : r.chars = r.main ++ '?' :: (q ++ Url.marked '#' r.fragment) := by
      simp [chars, hq, Url.marked]
    rw [whole]
    exact exists_main_of_mark hash question (.inl rfl)
  | none =>
    cases hf : r.fragment with
    | some f =>
      have whole : r.chars = r.main ++ '#' :: f := by simp [chars, hq, hf, Url.marked]
      rw [whole]
      exact exists_main_of_mark hash question (.inr rfl)
    | none =>
      have whole : r.chars = r.main := by simp [chars, hq, hf, Url.marked]
      have kept := List.rdropWhile_prefix (· == '/') r.main
      refine ⟨(of rest).main, ?_, head_main edge⟩
      rw [whole, of_append_main (fun inner => hash (kept.subset inner))
        (fun inner => question (kept.subset inner))]

end Reference

namespace Url

/-- The path of a URL below a base begins with the segments of the base, as far as they are not
slashes at its end. -/
theorem exists_segments_of_below {base u : Url} {rest : List Char} (hb : base.IsWritten)
    (hu : u.IsWritten) (tail : u.tail.chars = base.tail.chars.rdropWhile (· == '/') ++ rest)
    (edge : ∀ c ∈ rest.head?, c = '/' ∨ c = '?') :
    ∃ before after, Path.join before = base.path.chars.rdropWhile (· == '/') ∧
      u.path = .rooted (before ++ after) := by
  obtain ⟨more, main, ends⟩ := hb.tail.exists_main edge
  obtain ⟨segments, path, _, kept⟩ := hu.path
  have joined : Path.join segments = base.path.chars.rdropWhile (· == '/') ++ more := by
    have own : u.path.chars = Path.join segments := by
      rw [path]
      rfl
    rw [← own]
    exact (congrArg Reference.main hu.tail.of_chars).symm.trans (tail ▸ main)
  rcases ends with rfl | ⟨later, rfl⟩
  · exact ⟨segments, [], by rw [joined, List.append_nil], by rw [List.append_nil, path]⟩
  · obtain ⟨before, after, rfl, front, _⟩ :=
      Path.exists_of_join_eq (fun s hs => (kept s hs).slash_not_mem) joined
    exact ⟨before, after, front, path⟩

/-! ## Servers -/

/-- One URL names the server that another one names, by scheme, host and port. -/
structure SameServer (u v : Url) : Prop where
  scheme : u.scheme = v.scheme
  place : ∃ a b, u.authority = some a ∧ v.authority = some b ∧ a.host = b.host ∧ a.port = b.port

theorem SameServer.of_authority {u v : Url} (hv : v.IsWritten) (scheme : u.scheme = v.scheme)
    (authority : u.authority = v.authority) : u.SameServer v := by
  obtain ⟨a, ha, _⟩ := hv.authority
  exact ⟨scheme, a, a, authority.trans ha, ha, rfl, rfl⟩

/-- A port that is not written is the one that the scheme names, which is never written. -/
theorem port_eq_of_getD_eq {port port' : Option Nat} {n : Nat} (h : port ≠ some n)
    (h' : port' ≠ some n) (same : port.getD n = port'.getD n) : port = port' := by
  cases port with
  | none =>
    cases port' with
    | none => rfl
    | some m => exact absurd (congrArg some same.symm) h'
  | some k =>
    cases port' with
    | none => exact absurd (congrArg some same) h
    | some m => exact congrArg some same

/-- Network URLs of one origin name one server. -/
theorem SameServer.of_sameOrigin {u v : Url} (hu : u.IsWritten) (hv : v.IsWritten)
    (same : u.sameOrigin v = true) : u.SameServer v := by
  obtain ⟨a, ha, hua⟩ := hu.authority
  obtain ⟨b, hb, hvb⟩ := hv.authority
  obtain ⟨port, named, own⟩ := hu.origin?_eq ha
  obtain ⟨port', named', other⟩ := hv.origin?_eq hb
  rw [sameOrigin, Bool.and_eq_true, beq_iff_eq, own, other, Option.some_inj] at same
  injection same.2 with scheme host ports
  have both : port = port' := by
    rw [scheme, named'] at named
    exact (Option.some.inj named).symm
  subst both
  refine ⟨scheme, a, b, ha, hb, host, port_eq_of_getD_eq ?_ ?_ ports⟩
  · exact fun written => (hua.port port written).2 named.symm
  · exact fun written => (hvb.port port written).2 named'.symm

end Url

/-! ## Walks -/

namespace Selector

variable {w w' known : Selector} {address : Url} {index : Nat} {path : String}

/-- Every walk that can come up stands at an endpoint. -/
theorem Reached.isStanding (h : Reached w) : w.IsStanding := by
  induction h with
  | starts _ start limit => exact startingAt_isStanding _ start limit
  | moves _ _ h ih => exact ((relocate_move h).marks ih).2.1

/-- A network address is found under an endpoint at the server that it names. -/
theorem Found.sameServer (hw : w.IsSound) (ha : address.IsSound) (network : address.kind = .network)
    (h : Found w address (known, index, path)) :
    ∃ base, known.url? index = some base ∧ base.SameServer address := by
  have written := ha.written network
  cases h with
  | @known _ _ base resolved at' below =>
    obtain ⟨whole, edge⟩ := EndpointSet.below?_some below
    have sound := hw.known base (List.mem_of_getElem? at')
    obtain ⟨_, scheme, authority, _⟩ := Url.tail_eq_of_below sound written whole edge
    exact ⟨base, url?_of_set at', .of_authority written scheme authority⟩
  | @added k base resolved at' same =>
    obtain ⟨u, sound, rfl⟩ := hw.added base (List.mem_of_getElem? at')
    obtain ⟨network, _⟩ := Url.root_of_sameOrigin written same
    exact ⟨u.root, url?_of_added at', .of_sameOrigin (sound.root.written network) written same⟩
  | new resolved =>
    exact ⟨address.root, url?_of_added List.getElem?_concat_length, .of_authority written rfl rfl⟩

/-- No redirect is taken for one to another server. The endpoint of a set that an address lies below
has the scheme of the address and its whole authority, the user included, and the path of the
address begins with the segments of that endpoint. Whatever endpoint a walk goes to for an address,
be it of the set, added before or new, it is one at the server of the address. -/
theorem redirect_keeps_server (made : address.Made) (network : address.kind = .network) :
    (∀ (set : EndpointSet) (index : Nat) (rest : String), (∀ u ∈ set.urls, u.Made) →
      set.resolve address = some (index, rest) →
      ∃ base a, set.get? index = some base ∧ base.scheme = address.scheme ∧
        base.authority = some a ∧ address.authority = some a ∧
        ∃ before after, Path.join before = base.path.chars.rdropWhile (· == '/') ∧
          address.path = .rooted (before ++ after)) ∧
    ∀ (w w' : Selector) (s : Selection), Reached w →
      w.relocate (.redirect address) = .ok (s, w') →
      w'.url? s.index = some s.base ∧ s.base.SameServer address := by
  have sound := made.isSound
  have written := sound.written network
  refine ⟨?_, ?_⟩
  · intro set index rest listed resolved
    obtain ⟨base, at', below⟩ := EndpointSet.resolve_some resolved
    obtain ⟨whole, edge⟩ := EndpointSet.below?_some below
    obtain ⟨a, ha, _⟩ := written.authority
    have base_sound := (listed base (List.mem_of_getElem? at')).isSound
    obtain ⟨base_written, scheme, authority, tail⟩ :=
      Url.tail_eq_of_below base_sound written whole edge
    exact ⟨base, a, at', scheme, authority.trans ha, ha,
      Url.exists_segments_of_below base_written written tail edge⟩
  · intro w w' s reached moved
    have move := relocate_move moved
    obtain ⟨_, base⟩ := move.url?_index reached.isStanding
    refine ⟨base, ?_⟩
    cases move with
    | @redirect _ known index path room found =>
      obtain ⟨u, at', same⟩ := found.sameServer reached.isSound sound network
      have here : some u = some _ := at'.symm.trans base
      injection here with here
      exact here ▸ same

/-- Behind several slashes an address still lies below the endpoint. -/
theorem redirect_keeps_server_item :
    ∃ address s w', Url.parse "http://a/api//item" = .ok address ∧ Reached apiWalk ∧
      apiWalk.set.resolve address = some (0, "//item") ∧
      apiWalk.relocate (.redirect address) = .ok (s, w') ∧
      w'.url? 0 = some s.base ∧ s.base.SameServer address ∧
      ∃ before after, Path.join before = "/api".toList ∧ address.path = .rooted (before ++ after) := by
  let address : Url := { api with path := .rooted ["api".toList, [], "item".toList] }
  have parsed : Url.parse "http://a/api//item" = .ok address := by decide +kernel
  have resolved : apiWalk.set.resolve address = some (0, "//item") := by decide +kernel
  have selected : (apiWalk.relocate (.redirect address)).map Prod.fst =
      .ok ⟨0, api, some "//item"⟩ := by decide +kernel
  obtain ⟨w', moved⟩ := exists_relocate selected
  obtain ⟨below, goes⟩ := redirect_keeps_server (.parsed parsed) (by decide +kernel)
  have listed : ∀ u ∈ apiWalk.set.urls, u.Made := by
    intro u hu
    rw [List.mem_singleton.mp hu]
    exact .parsed parse_api
  obtain ⟨base, _, at', _, _, _, before, after, front, path⟩ :=
    below apiWalk.set 0 "//item" listed resolved
  cases Option.some.inj at'
  obtain ⟨stands, same⟩ := goes apiWalk w' _ reached_apiWalk moved
  exact ⟨address, _, w', parsed, reached_apiWalk, resolved, moved, stands, same, before, after,
    front, path⟩

-- neither a longer name of a host nor a longer segment lies below an endpoint
example : (Url.parse "http://a.b/api").map apiWalk.set.resolve = .ok none ∧
    (Url.parse "http://a/apis").map apiWalk.set.resolve = .ok none := by decide +kernel

end Selector
end Failover
