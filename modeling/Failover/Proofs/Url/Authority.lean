import Failover.Proofs.Url.Host
import Failover.Url.Parser
import Mathlib.Data.List.TakeWhile

/-!
# Authorities that are read back

An authority that has been read under a network scheme holds escaped user information, a host as it
is kept, and a port that is not the scheme's own. Its text is read as the same authority.
-/

namespace Failover

/-! ## Marks -/

namespace Reference

theorem bne_of_not_mem {mark : Char} {cs : List Char} (h : mark ∉ cs) :
    ∀ c ∈ cs, (c != mark) = true := by
  intro c hc
  exact bne_iff_ne.mpr fun e => h (e ▸ hc)

/-- What stands in front of every mark is left out of account. -/
theorem cut_append_of_not_mem {mark : Char} {front : List Char} (h : mark ∉ front)
    (back : List Char) :
    cut mark (front ++ back) = (front ++ (cut mark back).1, (cut mark back).2) := by
  have other := bne_of_not_mem h
  rw [cut, List.takeWhile_append_of_pos other, List.dropWhile_append_of_pos other]
  rfl

theorem cut_of_not_mem {mark : Char} {cs : List Char} (h : mark ∉ cs) :
    cut mark cs = (cs, none) := by
  simpa [cut] using cut_append_of_not_mem h []

/-- A text falls apart at its first mark. -/
theorem cut_append {mark : Char} {front rest : List Char} (h : mark ∉ front) :
    cut mark (front ++ mark :: rest) = (front, some rest) := by
  rw [cut_append_of_not_mem h]
  simp [cut]

end Reference

namespace Authority

/-! ## User information -/

theorem userinfo?_of_not_mem {cs : List Char} (h : '@' ∉ cs) : userinfo? cs = (none, cs) := by
  have other := Reference.bne_of_not_mem (mt List.mem_reverse.mp h)
  rw [userinfo?, List.dropWhile_eq_nil_iff.mpr other]

/-- User information ends at the last of its marks. -/
theorem userinfo?_append (user : List Char) {place : List Char} (h : '@' ∉ place) :
    userinfo? (user ++ '@' :: place) = (some user, place) := by
  have other := Reference.bne_of_not_mem (mt List.mem_reverse.mp h)
  have back : (user ++ '@' :: place).reverse = place.reverse ++ '@' :: user.reverse := by simp
  rw [userinfo?, back, List.dropWhile_append_of_pos other, List.takeWhile_append_of_pos other]
  simp

/-! ## Written authorities -/

/-- An authority as it is kept under a network scheme. -/
structure IsWritten (scheme : List Char) (a : Authority) : Prop where
  username : Percent.IsPlain Percent.inUserinfo a.username
  password : ∀ p, a.password = some p → p ≠ [] ∧ Percent.IsPlain Percent.inUserinfo p
  host : a.host.IsWritten
  port : ∀ p, a.port = some p → p ≤ 65535 ∧ some p ≠ defaultPort? scheme

variable {scheme : List Char} {a : Authority}

theorem mem_portChars {c : Char} (h : c ∈ a.portChars) : c = ':' ∨ c.isDigit = true := by
  rw [portChars] at h
  split at h
  · rcases List.mem_cons.mp h with colon | digit
    · exact .inl colon
    · exact .inr (Numeral.isDigit_of_mem_decimal digit)
  · cases h

theorem IsWritten.at_not_mem_place (h : a.IsWritten scheme) :
    '@' ∉ a.host.chars ++ a.portChars := by
  intro mark
  rcases List.mem_append.mp mark with host | port
  · exact h.host.at_not_mem host
  · rcases mem_portChars port with colon | digit
    · cases colon
    · cases digit

theorem isOuter_of_userinfo {c : Char} (h : Percent.inUserinfo c = false) :
    Host.isOuter c = false := by
  have visible : 32 < c.toNat := by
    refine Percent.lt_of_unescaped (fun d low => ?_) rfl h
    simp [Percent.inUserinfo, Percent.inPath_of_isControl low]
  refine Host.isOuter_of_visible visible fun mark => ?_
  have escaped : ∀ d ∈ "#?/\\".toList, Percent.inUserinfo d = true :=
    List.forall_iff_forall_mem.mp (by decide)
  rw [escaped c mark] at h
  cases h

/-- No character of an authority ends it. -/
theorem IsWritten.isOuter_eq (h : a.IsWritten scheme) : ∀ c ∈ a.chars, Host.isOuter c = false := by
  have plain : ∀ {cs : List Char}, Percent.IsPlain Percent.inUserinfo cs →
      ∀ c ∈ cs, Host.isOuter c = false := fun p c hc => isOuter_of_userinfo (p c hc).2
  intro c hc
  rcases List.mem_append.mp hc with front | port
  · rcases List.mem_append.mp front with user | host
    · rw [credentials] at user
      split at user
      · rename_i p hp
        rcases List.mem_append.mp user with user | mark
        · rcases List.mem_append.mp user with name | word
          · exact plain h.username c name
          · rcases List.mem_cons.mp word with rfl | word
            · rfl
            · exact plain (h.password p hp).2 c word
        · rw [List.mem_singleton.mp mark]
          rfl
      · split at user
        · cases user
        · rcases List.mem_append.mp user with name | mark
          · exact plain h.username c name
          · rw [List.mem_singleton.mp mark]
            rfl
    · exact h.host.isOuter_eq c host
  · have digits : ∀ d ∈ Numeral.tenDigits, Host.isOuter d = false :=
      List.forall_iff_forall_mem.mp (by decide)
    rcases mem_portChars port with rfl | digit
    · rfl
    · exact digits c (Numeral.mem_tenDigits digit)

theorem IsWritten.chars_ne_nil (h : a.IsWritten scheme) : a.chars ≠ [] := by
  intro none
  rw [chars, List.append_assoc, List.append_eq_nil_iff, List.append_eq_nil_iff] at none
  exact h.host.chars_ne_nil none.2.1

/-- The credentials of an authority are found in its text. -/
theorem IsWritten.userinfo?_chars (h : a.IsWritten scheme) :
    ∃ user, userinfo? a.chars = (user, a.host.chars ++ a.portChars) ∧ user ≠ some [] ∧
      Reference.cut ':' (user.getD []) = (a.username, a.password) := by
  have place := h.at_not_mem_place
  have colon : ':' ∉ a.username := h.username.not_mem rfl
  rw [chars, List.append_assoc, credentials]
  cases hp : a.password with
  | some p =>
    refine ⟨some (a.username ++ ':' :: p), ?_, ?_, Reference.cut_append colon⟩
    · simp only
      rw [List.append_assoc, List.singleton_append]
      exact userinfo?_append _ place
    · simp
  | none =>
    by_cases named : a.username = []
    · refine ⟨none, ?_, nofun, ?_⟩
      · rw [named]
        exact userinfo?_of_not_mem place
      · rw [named]
        rfl
    · refine ⟨some a.username, ?_, ?_, Reference.cut_of_not_mem colon⟩
      · simp only [List.isEmpty_iff, named, if_false]
        rw [List.append_assoc, List.singleton_append]
        exact userinfo?_append _ place
      · simpa using named

/-! ## Host and port -/

/-- A character that is no colon outside of brackets belongs to the host. -/
theorem splitPort_cons {inside : Bool} {c : Char} (passed : ¬(c = ':' ∧ (!inside) = true))
    (rest : List Char) :
    splitPort inside (c :: rest) =
      (c :: (splitPort (if c = '[' then true else if c = ']' then false else inside) rest).1,
        (splitPort (if c = '[' then true else if c = ']' then false else inside) rest).2) := by
  rw [splitPort, if_neg passed]

/-- The bracketed part of a text is passed over, colons and all. -/
theorem splitPort_append {inside : Bool} {front : List Char} (rest : List Char)
    (brackets : ∀ c ∈ front, c ≠ '[' ∧ c ≠ ']') (colons : inside = false → ':' ∉ front) :
    splitPort inside (front ++ rest) =
      (front ++ (splitPort inside rest).1, (splitPort inside rest).2) := by
  induction front with
  | nil => rfl
  | cons c tail ih =>
    obtain ⟨opening, closing⟩ := brackets c List.mem_cons_self
    have passed : ¬(c = ':' ∧ (!inside) = true) := by
      rintro ⟨rfl, outside⟩
      have outside : inside = false := by simpa using outside
      exact colons outside List.mem_cons_self
    have later := ih (fun d hd => brackets d (List.mem_cons_of_mem c hd))
      (fun outside hd => colons outside (List.mem_cons_of_mem c hd))
    rw [List.cons_append, splitPort_cons passed, if_neg opening, if_neg closing, later]
    rfl

/-- The text of a port after its colon. -/
def portText? (a : Authority) : Option (List Char) := a.port.map fun p => (Numeral.decimal p).toList

theorem splitPort_portChars (a : Authority) : splitPort false a.portChars = ([], a.portText?) := by
  rw [portChars, portText?]
  cases a.port with
  | none => rfl
  | some p => rfl

/-- A name is no part of a port, and holds neither colon nor bracket. -/
theorem splitPort_name {name : List Char} (isName : Domain.isName name = true) (a : Authority) :
    splitPort false (name ++ a.portChars) = (name, a.portText?) := by
  have plain := List.all_eq_true.mp (Domain.all_isPlain isName)
  have brackets : ∀ c ∈ name, c ≠ '[' ∧ c ≠ ']' := by
    intro c hc
    have inner := plain c hc
    constructor
    · rintro rfl
      cases inner
    · rintro rfl
      cases inner
  have colon : ':' ∉ name := by
    intro hc
    have inner := plain ':' hc
    cases inner
  rw [splitPort_append a.portChars brackets fun _ => colon, splitPort_portChars, List.append_nil]

/-- The colons of an address stand between brackets, where none ends the host. -/
theorem splitPort_ipv6 (groups : List Nat) (a : Authority) :
    splitPort false ((Host.ipv6 groups).chars ++ a.portChars) =
      ((Host.ipv6 groups).chars, a.portText?) := by
  have brackets : ∀ c ∈ (Ipv6.text groups).toList, c ≠ '[' ∧ c ≠ ']' := by
    intro c hc
    have digits : ∀ d ∈ Numeral.allDigits, d ≠ '[' ∧ d ≠ ']' :=
      List.forall_iff_forall_mem.mp (by decide)
    rcases Ipv6.mem_text hc with digit | rfl
    · exact digits c (Numeral.mem_allDigits digit)
    · decide
  have closes : splitPort true (']' :: a.portChars) = ([']'], a.portText?) := by
    rw [splitPort_cons (by simp)]
    simp [splitPort_portChars]
  have inside : splitPort true ((Ipv6.text groups).toList ++ ']' :: a.portChars) =
      ((Ipv6.text groups).toList ++ [']'], a.portText?) := by
    refine (splitPort_append _ brackets fun outside => ?_).trans (by rw [closes])
    cases outside
  have whole : (Host.ipv6 groups).chars ++ a.portChars =
      '[' :: ((Ipv6.text groups).toList ++ ']' :: a.portChars) := by
    simp [Host.chars]
  rw [whole, splitPort_cons (by simp)]
  simp [inside, Host.chars]

/-- Host and port part where the host ends. -/
theorem IsWritten.splitPort_place (h : a.IsWritten scheme) :
    splitPort false (a.host.chars ++ a.portChars) = (a.host.chars, a.portText?) := by
  have host := h.host
  generalize a.host = host_ at host ⊢
  cases host with
  | domain isName some' numberless => exact splitPort_name isName a
  | ipv4 fits => exact splitPort_name (Ipv4.isName_text _) a
  | ipv6 isAddress => exact splitPort_ipv6 _ a

/-- A port that is not the scheme's own is read from its digits. -/
theorem readPort_decimal {p : Nat} (small : p ≤ 65535) (own : some p ≠ defaultPort? scheme) :
    readPort scheme (Numeral.decimal p).toList = .ok (some p, []) := by
  have digits : ∀ c ∈ (Numeral.decimal p).toList, c.isDigit = true :=
    fun c hc => Numeral.isDigit_of_mem_decimal hc
  have some' : (Numeral.decimal p).toList.isEmpty = false := by
    rw [Numeral.toList_decimal]
    simp
  have value : Numeral.value 10 (Numeral.decimal p).toList = p := by
    rw [Numeral.toList_decimal]
    exact Numeral.value_toDigits (by omega) (by omega) p
  simp only [readPort, List.takeWhile_eq_self_iff.mpr digits, List.dropWhile_eq_nil_iff.mpr digits,
    value, some', own]
  rw [if_neg (Nat.not_lt.mpr small)]
  rfl

/-! ## Reading -/

/-- The texts that an authority falls into. -/
structure Pieces where
  user : Option (List Char)
  name : List Char
  word : Option (List Char)
  place : List Char
  host : List Char
  port : Option (List Char)

def pieces (cs : List Char) : Pieces :=
  let (user, place) := userinfo? cs
  let (name, word) := Reference.cut ':' (user.getD [])
  let (host, port) := splitPort false place
  ⟨user, name, word, place, host, port⟩

/-- A password as it is kept; an empty one is none. -/
def keptPassword : Option (List Char) → Option (List Char)
  | none | some [] => none
  | some cs => some (Percent.encode Percent.inUserinfo cs)

/-- The port that follows a host, and what is left behind it. -/
def portAfter (scheme : List Char) : Option (List Char) → Except UrlError (Option Nat × List Char)
  | none => .ok (none, [])
  | some digits => readPort scheme digits

/-- How an authority is read under a network scheme from its pieces. -/
theorem read_network {cs : List Char} (network : SchemeKind.of scheme = .network) (ends : Bool) :
    read scheme cs ends =
      let p := pieces cs
      let name := Percent.encode Percent.inUserinfo p.name
      if p.user = some [] && p.place.isEmpty && !ends then .error .emptyHost
      else if p.host.isEmpty then .error .emptyHost
      else (Host.network p.host).bind fun host =>
        if host = Host.absent && (p.port.isSome || !name.isEmpty || (keptPassword p.word).isSome)
        then .error .emptyHost
        else (portAfter scheme p.port).bind fun port =>
          .ok (⟨name, keptPassword p.word, host, port.1⟩, port.2) := by
  rw [read, network, pieces]
  rcases userinfo? cs with ⟨user, place⟩
  dsimp only
  rcases Reference.cut ':' (user.getD []) with ⟨name, word⟩
  rcases splitPort false place with ⟨host, port⟩
  dsimp only
  by_cases bare : (decide (user = some []) && place.isEmpty && !ends) = true
  · rw [if_pos bare, if_pos bare]
    rfl
  rw [if_neg bare, if_neg bare]
  have network_host : (decide (SchemeKind.network = .network) && host.isEmpty) = host.isEmpty := rfl
  rw [network_host, if_pos (rfl : SchemeKind.network = .network)]
  by_cases hostless : host.isEmpty = true
  · rw [if_pos hostless, if_pos hostless]
    rfl
  rw [if_neg hostless, if_neg hostless]
  refine congrArg (Host.network host).bind (funext fun found => ?_)
  by_cases misplaced : (decide (found = Host.absent) && (port.isSome ||
      !(Percent.encode Percent.inUserinfo name).isEmpty || (keptPassword word).isSome)) = true
  · rw [if_pos misplaced]
    exact if_pos misplaced
  · rw [if_neg misplaced]
    refine (if_neg misplaced).trans ?_
    cases port with
    | none => rfl
    | some digits => rfl

/-- The text of an authority falls into its pieces again. -/
theorem IsWritten.pieces_chars (h : a.IsWritten scheme) :
    ∃ user, pieces a.chars = ⟨user, a.username, a.password, a.host.chars ++ a.portChars,
      a.host.chars, a.portText?⟩ ∧ user ≠ some [] := by
  obtain ⟨user, parts, marked, named⟩ := h.userinfo?_chars
  refine ⟨user, ?_, marked⟩
  rw [pieces, parts]
  dsimp only
  rw [named]
  dsimp only
  rw [h.splitPort_place]

theorem IsWritten.keptPassword_eq (h : a.IsWritten scheme) :
    keptPassword a.password = a.password := by
  cases hp : a.password with
  | none => rfl
  | some p =>
    obtain ⟨some', plain⟩ := h.password p hp
    cases p with
    | nil => exact absurd rfl some'
    | cons c rest =>
      rw [keptPassword, plain.encode_eq]
      exact nofun

theorem IsWritten.portAfter_eq (h : a.IsWritten scheme) :
    portAfter scheme a.portText? = .ok (a.port, []) := by
  rw [portText?]
  cases hp : a.port with
  | none => rfl
  | some p =>
    obtain ⟨small, own⟩ := h.port p hp
    exact readPort_decimal small own

/-- The text of an authority is read as that authority, and nothing of it is left. -/
theorem IsWritten.read_chars (h : a.IsWritten scheme) (network : SchemeKind.of scheme = .network)
    (ends : Bool) : read scheme a.chars ends = .ok (a, []) := by
  obtain ⟨user, parts, marked⟩ := h.pieces_chars
  have hosted : a.host.chars.isEmpty = false :=
    List.isEmpty_eq_false_iff.mpr h.host.chars_ne_nil
  have present : a.host ≠ Host.absent := by
    intro e
    have written := h.host
    rw [e] at written
    cases written
  rw [read_network network, parts]
  simp only [marked, hosted, present, h.host.network_chars, h.username.encode_eq,
    h.keptPassword_eq, h.portAfter_eq, decide_false, Bool.false_and, Bool.false_eq_true, if_false,
    Except.bind]

/-! ## What is read -/

theorem mem_of_mem_userinfo? {cs : List Char} {c : Char} (h : c ∈ (userinfo? cs).2) : c ∈ cs := by
  rw [userinfo?] at h
  split at h
  · exact h
  · rw [List.mem_reverse] at h
    exact List.mem_reverse.mp ((List.takeWhile_sublist _).subset h)

theorem mem_of_mem_splitPort {inside : Bool} {cs digits : List Char} {c : Char}
    (h : (splitPort inside cs).2 = some digits) (hc : c ∈ digits) : c ∈ cs := by
  induction cs generalizing inside with
  | nil => cases h
  | cons d rest ih =>
    rw [splitPort] at h
    split at h
    · cases h
      exact List.mem_cons_of_mem d hc
    · exact List.mem_cons_of_mem d (ih h)

/-- A port that is read is a word of sixteen bits and not the scheme's own; only a backslash may
follow it. -/
theorem portAfter_ok {text : Option (List Char)} {port : Option Nat} {rest : List Char}
    (h : portAfter scheme text = .ok (port, rest))
    (slashless : ∀ digits, text = some digits → '\\' ∉ digits) :
    (∀ p, port = some p → p ≤ 65535 ∧ some p ≠ defaultPort? scheme) ∧ rest = [] := by
  cases text with
  | none =>
    cases h
    exact ⟨nofun, rfl⟩
  | some digits =>
    rw [portAfter, readPort] at h
    split at h
    · cases h
    · rename_i small
      split at h
      · cases h
      · rename_i ended
        -- only a backslash may follow the digits, and there is none
        have none' : digits.dropWhile Char.isDigit = [] := by
          cases he : digits.dropWhile Char.isDigit with
          | nil => rfl
          | cons c more =>
            rw [he] at ended
            have slash : c = '\\' := by simpa using ended
            have left : '\\' ∈ digits.dropWhile Char.isDigit := by
              rw [he, slash]
              exact List.mem_cons_self
            exact absurd ((List.dropWhile_sublist _).subset left) (slashless digits rfl)
        split at h
        · cases h
          exact ⟨nofun, none'⟩
        · rename_i own
          cases h
          refine ⟨?_, none'⟩
          rintro p ⟨⟩
          exact ⟨Nat.le_of_not_lt small, fun e => own (by simp [e])⟩

theorem keptPassword_some {word : Option (List Char)} {p : List Char}
    (h : keptPassword word = some p) : p ≠ [] ∧ Percent.IsPlain Percent.inUserinfo p := by
  rw [keptPassword.eq_def] at h
  split at h
  · cases h
  · cases h
  · rename_i cs some'
    cases h
    exact ⟨Percent.encode_ne_nil some', Percent.isPlain_encode (by decide) cs⟩

/-- What is read under a network scheme is kept, and nothing is left of a text without a
backslash. -/
theorem isWritten_of_read {cs rest : List Char} {ends : Bool}
    (network : SchemeKind.of scheme = .network) (slashless : '\\' ∉ cs)
    (h : read scheme cs ends = .ok (a, rest)) : a.IsWritten scheme ∧ rest = [] := by
  rw [read_network network] at h
  simp only at h
  split at h
  · cases h
  split at h
  · cases h
  cases found : Host.network (pieces cs).host with
  | error e =>
    rw [found] at h
    cases h
  | ok host =>
    rw [found] at h
    change (if _ then _ else _) = _ at h
    split at h
    · cases h
    cases ported : portAfter scheme (pieces cs).port with
    | error e =>
      rw [ported] at h
      cases h
    | ok port =>
      rw [ported] at h
      cases h
      have inner : ∀ digits, (pieces cs).port = some digits → '\\' ∉ digits :=
        fun digits e hc => slashless (mem_of_mem_userinfo? (mem_of_mem_splitPort e hc))
      obtain ⟨small, ended⟩ := portAfter_ok ported inner
      exact ⟨⟨Percent.isPlain_encode (by decide) _, fun p hp => keptPassword_some hp,
        Host.isWritten_of_network found, small⟩, ended⟩

end Authority
end Failover
