import Failover.Http.Message
import Failover.Proofs.Endpoint.Walk
import Failover.Proofs.Url.Below

/-!
# Where a redirect leads

A walk that follows a redirect takes the address apart into an endpoint and what is left below it,
and the next request puts the two together again. What comes out is always a URL. It is the address
itself only where one slash stood between the two parts: a query right behind the path of an
endpoint gets a slash in front, and several slashes become one.
-/

namespace Failover

/-! ## Origins -/

namespace Url

/-- A root has an origin only under a network scheme, and that origin names the scheme. -/
theorem of_origin?_root {u : Url} {o : Origin} (h : u.root.origin? = some o) :
    u.kind = .network ∧ o.scheme = u.scheme := by
  rw [origin?, originWithin.eq_def] at h
  split at h
  · rename_i a port network _ _
    injection h with h
    rw [← h]
    exact ⟨network, rfl⟩
  · split at h
    · cases h
    · split at h
      · rename_i blob
        have scheme : u.scheme = "blob".toList := blob
        have kind : u.kind = .other := by
          rw [Url.kind, scheme]
          decide
        -- the path of such a root spells no URL
        have unread : ∀ stands : Bool,
            read none (Path.rooted (if stands then [['.']] else [])).chars =
              .error .relativeWithoutBase := by decide
        have path : u.root.path =
            .rooted (if u.authority.isNone && u.path.startsDouble then [['.']] else []) := by
          rw [root, kind]
        rw [path, unread] at h
        cases h
      · cases h

/-- The root of a network URL has the origin of the URL. -/
theorem origin?_root {u : Url} (network : u.kind = .network) : u.root.origin? = u.origin? := by
  have other : u.scheme ≠ "blob".toList := by
    intro blob
    rw [kind, blob] at network
    cases network
  have kind : u.root.kind = .network := network
  have scheme : u.root.scheme = u.scheme := rfl
  have authority : u.root.authority = u.authority := rfl
  rw [origin?, origin?, originWithin.eq_def, originWithin.eq_def]
  simp only [kind, network, scheme, authority, if_neg other]

/-- What shares its origin with the root of a URL shares it with the URL. -/
theorem sameOrigin_of_root {u v : Url} (h : v.sameOrigin u.root = true) :
    v.sameOrigin u = true := by
  rw [sameOrigin, Bool.and_eq_true, beq_iff_eq] at h ⊢
  obtain ⟨some', same⟩ := h
  rw [same] at some'
  obtain ⟨o, origin⟩ := Option.isSome_iff_exists.mp some'
  rw [origin?_root (of_origin?_root origin).1] at same origin
  exact ⟨by rw [same, origin]; rfl, same⟩

/-- The origin of a network URL is its scheme, host and port. -/
theorem IsWritten.origin?_eq {u : Url} {a : Authority} (h : u.IsWritten)
    (ha : u.authority = some a) :
    ∃ port, defaultPort? u.scheme = some port ∧
      u.origin? = some ⟨u.scheme, a.host, a.port.getD port⟩ := by
  have ports : ∀ s ∈ networkSchemes, (defaultPort? s).isSome := by decide
  obtain ⟨port, hp⟩ := Option.isSome_iff_exists.mp (ports u.scheme (mem_networkSchemes h.network))
  refine ⟨port, hp, ?_⟩
  rw [Url.origin?, originWithin, h.network, ha, hp]

/-- A network URL names its scheme in its origin. -/
theorem IsWritten.origin? {u : Url} (h : u.IsWritten) :
    ∃ o, u.origin? = some o ∧ o.scheme = u.scheme := by
  obtain ⟨a, ha, _⟩ := h.authority
  obtain ⟨_, _, origin⟩ := h.origin?_eq ha
  exact ⟨_, origin, rfl⟩

/-- A root that shares its origin with a network URL is a network URL of the same scheme. -/
theorem root_of_sameOrigin {u v : Url} (hv : v.IsWritten) (h : u.root.sameOrigin v = true) :
    u.kind = .network ∧ u.scheme = v.scheme := by
  obtain ⟨o, origin, scheme⟩ := hv.origin?
  rw [sameOrigin, Bool.and_eq_true, beq_iff_eq] at h
  obtain ⟨network, named⟩ := of_origin?_root (h.2.trans origin)
  exact ⟨network, named.symm.trans scheme⟩

theorem chars_tail_root {u : Url} (network : u.kind = .network) : u.root.tail.chars = ['/'] := by
  have path : u.root.path = .rooted [[]] := by rw [root, network]
  rw [tail, Reference.chars, path]
  rfl

end Url

/-! ## Walks -/

namespace Selector

/-- The walks that can come up: from an endpoint of a set, every move one that was allowed. -/
inductive Reached : Selector → Prop
  | starts {set : EndpointSet} (made : ∀ u ∈ set.urls, u.Made) (start limit : Nat) :
      Reached (startingAt set start limit)
  | moves {w w' : Selector} {aim : Relocation} {s : Selection} (reached : Reached w)
      (made : ∀ address, aim = .redirect address → address.Made)
      (h : w.relocate aim = .ok (s, w')) : Reached w'

/-- What holds of the endpoints of a walk: every one is sound, and those that were added are
roots. -/
structure IsSound (w : Selector) : Prop where
  known : ∀ u ∈ w.set.urls, u.IsSound
  added : ∀ u ∈ w.added, ∃ v : Url, v.IsSound ∧ u = v.root

theorem Found.isSound {w known : Selector} {address : Url} {index : Nat} {path : String}
    (hw : w.IsSound) (ha : address.IsSound) (h : Found w address (known, index, path)) :
    known.IsSound := by
  cases h with
  | known => exact hw
  | added => exact hw
  | new resolved =>
    refine ⟨hw.known, ?_⟩
    intro u hu
    rcases List.mem_append.mp hu with old | new
    · exact hw.added u old
    · exact ⟨address, ha, List.mem_singleton.mp new⟩

theorem IsSound.relocate {w w' : Selector} {aim : Relocation} {s : Selection} (hw : w.IsSound)
    (ha : ∀ address, aim = .redirect address → address.IsSound)
    (h : w.relocate aim = .ok (s, w')) : w'.IsSound := by
  cases relocate_move h with
  | next => exact ⟨hw.known, hw.added⟩
  | @redirect address known index path room found =>
    have sound := found.isSound hw (ha address rfl)
    exact ⟨sound.known, sound.added⟩

/-- The endpoints of every walk that can come up are sound. -/
theorem Reached.isSound {w : Selector} (h : Reached w) : w.IsSound := by
  induction h with
  | starts made start limit => exact ⟨fun u hu => (made u hu).isSound, nofun⟩
  | moves _ made h ih => exact ih.relocate (fun address e => (made address e).isSound) h

/-- Whether a request to where a redirect leads goes to the address itself. Below an endpoint of the
set, what follows the endpoint has to begin with one slash, unless all of it belongs to a fragment;
anywhere else the endpoint has to name the same user, and the path has to begin with one slash. -/
def Keeps (w : Selector) (address base : Url) : Prop :=
  match w.set.resolve address with
  | some (_, path) => base.fragment.isSome ∨ Path.StartsOnce path.toList
  | none => base.authority = address.authority ∧ Path.StartsOnce address.pathAndQuery

instance (w : Selector) (address base : Url) : Decidable (Keeps w address base) :=
  match h : w.set.resolve address with
  | some (_, path) =>
    decidable_of_iff (base.fragment.isSome ∨ Path.StartsOnce path.toList) (by rw [Keeps, h])
  | none =>
    decidable_of_iff (base.authority = address.authority ∧ Path.StartsOnce address.pathAndQuery)
      (by rw [Keeps, h])

/-- The target below an endpoint that a network address is found at spells a URL. -/
theorem Found.exists_target {w known : Selector} {address : Url} {index : Nat} {path : String}
    (hw : w.IsSound) (ha : address.IsSound) (network : address.kind = .network)
    (h : Found w address (known, index, path)) :
    ∃ base v : Url, known.url? index = some base ∧ v.IsWritten ∧ v.chars = base.under path.toList ∧
      (v.bare = address.bare ↔ Keeps w address base) := by
  have written := ha.written network
  cases h with
  | @known _ _ base resolved at' below =>
    obtain ⟨whole, edge⟩ := EndpointSet.below?_some below
    have sound := hw.known base (List.mem_of_getElem? at')
    obtain ⟨v, hv, under, keeps⟩ := Url.exists_under sound written whole edge
    refine ⟨base, v, url?_of_set at', hv, under, ?_⟩
    rw [keeps, Keeps, resolved]
  | @added k base resolved at' same =>
    obtain ⟨u, sound, rfl⟩ := hw.added base (List.mem_of_getElem? at')
    obtain ⟨network, scheme⟩ := Url.root_of_sameOrigin written same
    obtain ⟨v, hv, under, keeps⟩ := Url.exists_under_root (sound.root.written network) written
      scheme (Url.chars_tail_root network)
    refine ⟨u.root, v, url?_of_added at', hv, ?_, ?_⟩
    · rw [under, String.toList_ofList]
    · rw [keeps, Keeps, resolved]
  | new resolved =>
    obtain ⟨v, hv, under, keeps⟩ := Url.exists_under_root (ha.root.written network) written rfl
      (Url.chars_tail_root network)
    refine ⟨address.root, v, url?_of_added List.getElem?_concat_length, hv, ?_, ?_⟩
    · rw [under, String.toList_ofList]
    · rw [keeps, Keeps, resolved]

/-- After a redirect that is followed the next request has a target, and that target is the address
itself, without its fragment, exactly where `Keeps` says so. -/
theorem redirect_target_iff {w w' : Selector} {address : Url} {s : Selection}
    (reached : Reached w) (made : address.Made) (network : address.kind = .network)
    (h : w.relocate (.redirect address) = .ok (s, w')) :
    ∃ path u, s.path = some path ∧ Url.parse (target s.base path) = .ok u ∧
      (u.bare = address.bare ↔ Keeps w address s.base) := by
  cases relocate_move h with
  | @redirect _ known index path room found =>
    obtain ⟨base, v, at', written, under, keeps⟩ :=
      found.exists_target reached.isSound made.isSound network
    have current : ((known.moveTo index).selection (some path)).base = base := by
      have here : (known.moveTo index).url? (known.moveTo index).current = some base := at'
      rw [selection, currentUrl, here]
    refine ⟨path, v, rfl, ?_, ?_⟩
    · rw [current, Url.parse, target, String.toList_ofList, ← under]
      exact written.read_chars
    · rw [current]
      exact keeps

/-- An endpoint with a path of its own. -/
def api : Url :=
  ⟨"http".toList, some ⟨[], none, .domain "a".toList, none⟩, .rooted ["api".toList], none, none⟩

/-- A walk over that endpoint alone. -/
def apiWalk : Selector := startingAt ⟨[api], List.cons_ne_nil _ _⟩ 0 1

theorem parse_api : Url.parse "http://a/api" = .ok api := by decide +kernel

theorem reached_apiWalk : Reached apiWalk := by
  refine .starts ?_ 0 1
  intro u hu
  rw [List.mem_singleton.mp hu]
  exact .parsed parse_api

theorem exists_relocate {w : Selector} {aim : Relocation} {s : Selection}
    (h : (w.relocate aim).map Prod.fst = .ok s) : ∃ w', w.relocate aim = .ok (s, w') := by
  cases moved : w.relocate aim with
  | error e =>
    rw [moved] at h
    cases h
  | ok moved' =>
    rw [moved] at h
    cases h
    exact ⟨moved'.2, rfl⟩

/-- An address behind one slash is kept. -/
theorem redirect_target_item :
    ∃ address s w', Url.parse "http://a/api/item?x=1" = .ok address ∧
      apiWalk.relocate (.redirect address) = .ok (s, w') ∧
      ∃ path u, s.path = some path ∧ Url.parse (target s.base path) = .ok u ∧
        u.bare = address.bare := by
  let address : Url :=
    { api with path := .rooted ["api".toList, "item".toList], query := some "x=1".toList }
  have parsed : Url.parse "http://a/api/item?x=1" = .ok address := by decide +kernel
  have selected : (apiWalk.relocate (.redirect address)).map Prod.fst =
      .ok ⟨0, api, some "/item?x=1"⟩ := by decide +kernel
  obtain ⟨w', moved⟩ := exists_relocate selected
  obtain ⟨path, u, hp, hu, keeps⟩ :=
    redirect_target_iff reached_apiWalk (.parsed parsed) (by decide +kernel) moved
  exact ⟨address, _, w', parsed, moved, path, u, hp, hu, keeps.mpr (by decide +kernel)⟩

/-- A query right behind the path of an endpoint is asked for below that path. -/
theorem redirect_target_query :
    Reached apiWalk ∧ ∃ address s w' u, Url.parse "http://a/api?x=1" = .ok address ∧
      apiWalk.relocate (.redirect address) = .ok (s, w') ∧ s.path = some "?x=1" ∧
      Url.parse (target s.base "?x=1") = .ok u ∧ u.text = "http://a/api/?x=1" ∧
      u.bare ≠ address.bare := by
  let address : Url := { api with query := some "x=1".toList }
  have selected : (apiWalk.relocate (.redirect address)).map Prod.fst =
      .ok ⟨0, api, some "?x=1"⟩ := by decide +kernel
  obtain ⟨w', moved⟩ := exists_relocate selected
  refine ⟨reached_apiWalk, address, _, w', { address with path := .rooted ["api".toList, []] },
    ?_, moved, rfl, ?_⟩
  · decide +kernel
  · decide +kernel

end Selector
end Failover
