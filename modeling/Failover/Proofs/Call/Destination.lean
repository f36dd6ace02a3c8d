import Failover.Proofs.Call.Sent
import Failover.Proofs.Endpoint.Origins
import Failover.Proofs.Url.Front

/-!
# Where attempts go

An attempt asks the URL that the path of the call spells below the endpoint at which the call
stands. Wherever redirects have led a call, that endpoint is one that can come up, and so is every
address that the call is about to follow. Under a network scheme there always is a URL to ask, and
it names the scheme and the authority of the endpoint, whatever the path is.
-/

namespace Failover

/-! ## Endpoints and addresses -/

/-- The endpoint at which a walk stands is sound. -/
theorem Selector.Reached.isSound_currentUrl {w : Selector} (h : Reached w) :
    w.currentUrl.IsSound := by
  have current := h.isStanding.url?_current
  rcases List.mem_append.mp (List.mem_of_getElem? current) with known | added
  · exact h.isSound.known _ known
  · obtain ⟨u, sound, e⟩ := h.isSound.added _ added
    exact e ▸ sound.root

namespace Outcome

/-- The address of a redirect is read against the URL that was asked. -/
theorem exists_resolve_of_location? {headers : Headers} {requested address : Url}
    (h : location? headers requested = some (.ok address)) :
    ∃ text, requested.resolve text = .ok address := by
  rw [location?, Option.map_eq_some_iff] at h
  obtain ⟨value, _, given⟩ := h
  cases spelled : Header.valueText? value with
  | none =>
    rw [spelled] at given
    cases given
  | some text =>
    refine ⟨text, ?_⟩
    rw [spelled] at given
    cases resolved : requested.resolve text with
    | error error =>
      simp [resolved, Except.toOption] at given
    | ok u =>
      simp only [resolved, Except.toOption, Option.bind_eq_bind, Option.bind_some,
        Except.ok.injEq] at given
      rw [given]

/-- A redirect leads to an address that can come up. -/
theorem made_of_redirect {clock : Clock} {requested address : Url}
    {result : Except TransportError Response} (made : requested.Made)
    (h : Outcome.of clock requested result = .redirect address) : address.Made := by
  cases result with
  | error error => cases error <;> cases h
  | ok r =>
    rw [Outcome.of, ofResponse] at h
    split at h
    · cases h
    split at h
    · cases h
    split at h
    · cases h
    split at h
    · split at h
      · rename_i found
        cases h
        obtain ⟨text, resolved⟩ := exists_resolve_of_location? found
        exact .resolved made resolved
      · cases h
      · cases h
    · cases h

end Outcome

/-- A request for the wire names the authority of its URL, and its target begins with it. -/
theorem RelativeRequest.uri_of_sentTo {r : RelativeRequest} {u : Url} {a : Authority}
    {request : WireRequest} (written : u.IsWritten) (ha : u.authority = some a)
    (h : r.sentTo u = .ok request) :
    request.uri.authority = a.chars ∧
      ∃ rest, request.uri.text = Url.front u.scheme a ++ '/' :: rest := by
  obtain ⟨uri, found, rfl⟩ := sentTo_ok h
  obtain ⟨rest, rooted⟩ := written.bare.exists_tail
  have whole : u.withoutFragment = Url.front u.scheme a ++ '/' :: rest := by
    rw [← Url.chars_bare, Url.chars_eq (u := u.bare) ha, rooted]
    rfl
  rw [Uri.of_ok written ha found]
  exact ⟨rfl, rest, whole⟩

/-- A path below a network URL spells a URL of the same scheme and authority. -/
theorem Url.IsWritten.exists_parse_target {base : Url} (h : base.IsWritten) (path : String) :
    ∃ a rest u, base.authority = some a ∧
      base.chars = Url.front base.scheme a ++ base.tail.chars ∧
      (target base path).toList = Url.front base.scheme a ++ '/' :: rest ∧
      Url.parse (target base path) = .ok u ∧ u.scheme = base.scheme ∧ u.authority = some a := by
  obtain ⟨a, ha, authority⟩ := h.authority
  obtain ⟨rest, under⟩ := h.exists_under_front ha path.toList
  obtain ⟨u, spelled, kept⟩ := exists_read_front h.network authority rest
  have whole : (target base path).toList = front base.scheme a ++ '/' :: rest := by
    rw [target, String.toList_ofList, under]
  exact ⟨a, rest, u, ha, chars_eq ha, whole, by rw [parse, whole, spelled], kept⟩

/-! ## Calls -/

namespace Session

variable {e : Engine} {s t a : Session e.endpoints} {clock : Clock} {url : Url}
  {front events : List Event} {outcome : Outcome} {drawn : Nat}

/-- What holds of where a call goes. Its walk is one that can come up, any address that it is about
to follow can come up as well, and an attempt under way asks the URL of the path below the
endpoint. -/
structure IsDirected (s : Session e.endpoints) : Prop where
  reached : s.call.selector.Reached
  pursued : ∀ address, s.point.address? = some address → address.Made
  asking : s.IsAsking

theorem start_isDirected (made : ∀ u ∈ e.endpoints.urls, u.Made) (clock : Clock)
    (shared : Shared e.endpoints) (o : CallOptions) : (start e clock shared o).1.IsDirected where
  reached := .starts made _ _
  pursued := nofun
  asking := isAsking_of_idle rfl

/-- A retry follows no address. -/
theorem retry_straight {c call : Call} {after : Option Span} {exhausted : CallFailure}
    {phase : Phase} (h : c.retry e drawn after exhausted = (call, phase, events)) :
    (Point.entering phase).address? = none := by
  rcases Call.retry_pause h with ⟨_, rfl⟩ | ⟨_, _, _, rfl⟩ <;> rfl

/-- Only a redirect has a call follow an address. -/
theorem follow_pursues {address : Url}
    (ahead : (follow e drawn s outcome).1.point.address? = some address) :
    outcome = .redirect address := by
  have retried : ∀ after exhausted,
      (Point.entering (s.call.retry e drawn after exhausted).2.1).address? = none := by
    intro after exhausted
    rcases h : s.call.retry e drawn after exhausted with ⟨call, phase, more⟩
    exact retry_straight h
  cases outcome with
  | redirect other =>
    cases ahead
    rfl
  | transportFailure cause => cases (retried none (.transport cause)).symm.trans ahead
  | throttled after => cases (retried after .throttled).symm.trans ahead
  | _ => cases ahead

theorem settle_pursues {started : Nat} {result : Except TransportError Response} {address : Url}
    (made : url.Made) (settled : settle e clock drawn s url started result = (t, events))
    (ahead : t.point.address? = some address) : address.Made := by
  obtain ⟨x, rfl, rfl, _⟩ := settle_follow settled
  exact Outcome.made_of_redirect made (follow_pursues ahead)

/-- A call follows addresses only that can come up, as long as its attempts ask the URLs of its
paths. -/
theorem Transition.pursues {address : Url} (row : Transition e clock s t events)
    (asking : s.IsAsking) (ahead : t.point.address? = some address) : address.Made := by
  cases row with
  | refused asks answer retried =>
    have straight := retry_straight retried
    cases straight.symm.trans ahead
  | unsendable asks answer bad settled =>
    exact settle_pursues (.parsed (asking.asks asks)) settled ahead
  | hears stands settled =>
    exact settle_pursues (.parsed (asking _ (by rw [stands]; rfl))) settled ahead
  | _ => cases ahead

/-- Every step keeps the direction of a call. -/
theorem Step.isDirected (step : Step e clock s t events) (h : s.IsDirected) : t.IsDirected where
  reached := by
    cases ahead : s.point.aim? with
    | none =>
      rw [(step.transition.stands ahead).1]
      exact h.reached
    | some aim =>
      rw [(step.relocates ahead).1]
      rcases s.call.selector.ask_cases aim with ⟨_, w, moved, asked⟩ | ⟨_, _, asked⟩
      · rw [asked]
        refine h.reached.moves (fun address redirects => h.pursued address ?_) moved
        obtain ⟨delay, stands⟩ := Point.aim?_eq_some_iff.mp ahead
        rw [stands, redirects]
        rfl
      · rw [asked]
        exact h.reached
  pursued _ ahead := step.transition.pursues h.asking ahead
  asking := step.transition.isAsking h.asking

theorem Reaches.isDirected {first : Session e.endpoints} (reaches : Reaches e first s)
    (h : first.IsDirected) : s.IsDirected := by
  induction reaches with
  | refl => exact h
  | tail _ onward ih =>
    obtain ⟨_, _, _, step⟩ := onward
    exact step.isDirected ⟨ih.reached, ih.pursued, ih.asking⟩

/-- No path leads away from its endpoint. Whatever text is put below a network URL, what comes out
begins with the scheme and the authority of that URL and a slash, and spells a URL that keeps both.
So wherever a call has come to, an attempt at a network endpoint always asks for its permit and never
ends for want of a URL; the URL that it asks has the scheme, the user, the host and the port of the
endpoint, and so has the request that it sends. -/
theorem attempts_keep_host (made : ∀ u ∈ e.endpoints.urls, u.Made) :
    (∀ (base : Url) (path : String), base.Made → base.kind = .network →
      ∃ a rest u, base.authority = some a ∧
        base.chars = Url.front base.scheme a ++ base.tail.chars ∧
        (target base path).toList = Url.front base.scheme a ++ '/' :: rest ∧
        Url.parse (target base path) = .ok u ∧ u.scheme = base.scheme ∧ u.authority = some a) ∧
    ∀ (clock : Clock) (shared : Shared e.endpoints) (o : CallOptions) (s : Session e.endpoints),
      Reaches e (start e clock shared o).1 s → s.call.endpoint.kind = .network →
      ∃ a, s.call.endpoint.authority = some a ∧
        (∃ url, url.scheme = s.call.endpoint.scheme ∧ url.authority = some a ∧
          ∀ clock drawn, attempt e clock drawn s =
            seekPermit e clock drawn { s with call := s.call.tried } url) ∧
        (∀ url, s.point.url? = some url →
          url.scheme = s.call.endpoint.scheme ∧ url.authority = some a) ∧
        ∀ request, s.point.request? = some request →
          request.uri.authority = a.chars ∧
          ∃ rest, request.uri.text = Url.front s.call.endpoint.scheme a ++ '/' :: rest := by
  refine ⟨fun base path made network =>
    (made.isSound.written network).exists_parse_target path, ?_⟩
  intro clock shared o s reaches network
  have directed := reaches.isDirected (start_isDirected made clock shared o)
  have written : s.call.endpoint.IsWritten := directed.reached.isSound_currentUrl.written network
  obtain ⟨a, _, u, ha, _, _, read, scheme, authority⟩ :=
    written.exists_parse_target s.call.path
  have asked : ∀ url, s.point.url? = some url → url = u := by
    intro url under
    exact Except.ok.inj ((directed.asking url under).symm.trans read)
  refine ⟨a, ha, ⟨u, scheme, authority, fun clock drawn => attempt_of_ok read⟩, ?_, ?_⟩
  · intro url under
    rw [asked url under]
    exact ⟨scheme, authority⟩
  · intro request sent
    obtain ⟨url, under, built⟩ := reaches.built sent
    rw [asked url under] at built
    have kept : u.IsWritten := by
      refine (Url.Made.parsed read).isSound.written ?_
      rw [Url.kind, scheme]
      exact network
    rw [← scheme]
    exact RelativeRequest.uri_of_sentTo kept authority built

/-- A path that names another host, with its slashes, leads to the endpoint itself. -/
theorem attempts_keep_host_foreign :
    ∃ s request, (∀ u ∈ couple.endpoints.urls, u.Made) ∧
      Reaches couple (start couple ⟨0, 0⟩ couple.fresh
        ⟨.of "GET" "//user@b:80\\..//", none, .empty⟩).1 s ∧
      s.call.endpoint.kind = .network ∧ s.point.request? = some request ∧
      request.uri.authority = "a".toList ∧
      ∃ rest, request.uri.text = "http://a".toList ++ '/' :: rest := by
  let o : CallOptions := ⟨.of "GET" "//user@b:80\\..//", none, .empty⟩
  let first := (start couple ⟨0, 0⟩ couple.fresh o).1
  let begun := (enter couple ⟨0, 0⟩ 0 first .init).1
  let s := (enter couple ⟨0, 0⟩ 0 begun .attempting).1
  have made : ∀ u ∈ couple.endpoints.urls, u.Made := by
    intro u hu
    have spelled : couple.endpoints.urls.all fun u => Url.parse u.text = .ok u := by decide +kernel
    exact .parsed (of_decide_eq_true (List.all_eq_true.mp spelled u hu))
  have reaches : Reaches couple first s := by
    have begins : Onward couple first begun := ⟨_, _, _, .enter 0 rfl⟩
    exact .tail (.single begins) ⟨_, begun.shared, _, .enter 0 rfl⟩
  have sent : s.point.request?.isSome ∧ s.call.endpoint.kind = .network ∧
      s.call.endpoint.scheme = "http".toList ∧
      s.call.endpoint.authority = some ⟨[], none, .domain "a".toList, none⟩ := by decide +kernel
  obtain ⟨sent, network, scheme, authority⟩ := sent
  obtain ⟨request, sent⟩ := Option.isSome_iff_exists.mp sent
  obtain ⟨a, ha, _, _, there⟩ := (attempts_keep_host made).2 ⟨0, 0⟩ couple.fresh o s reaches network
  cases Option.some.inj (authority.symm.trans ha)
  obtain ⟨place, rest, text⟩ := there request sent
  rw [scheme] at text
  exact ⟨s, request, made, reaches, network, sent, place, rest, text⟩

end Session
end Failover
