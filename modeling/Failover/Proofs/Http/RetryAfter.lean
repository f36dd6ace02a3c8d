import Failover.Http.RetryAfter

/-!
# A requested wait as time passes

A server asks for a wait once, and what is left of it may be read at any moment. The header alone
settles whether there is a wait at all and of which kind: a number of seconds is the same wait at
every moment, a date is the time left until then. No text is both, since a date begins with a day
of the week and a number does not. So a wait never grows as time passes, and a date that has passed
is a wait of no time rather than none.
-/

namespace Failover

/-! ## Numbers and dates -/

/-- What the names of the days of the week begin with. -/
def HttpDate.initials : List Char := ['M', 'T', 'W', 'F', 'S']

namespace HttpDate

variable {cs name : List Char} {names : List String} {index count : Nat} {date : HttpDate}

/-- A text that begins with the name of a day begins with its first letter. -/
theorem head?_of_field (named : name.head? ∈ initials.map some)
    (begins : field cs 0 count = name) : ∃ c ∈ initials, cs.head? = some c := by
  obtain ⟨c, initial, first⟩ := List.mem_map.mp named
  refine ⟨c, initial, ?_⟩
  rw [← begins, field, List.drop_zero, List.head?_take] at first
  split at first
  · cases first
  · exact first.symm

theorem head?_of_name? (found : name? weekdays cs 0 3 = some index) :
    ∃ c ∈ initials, cs.head? = some c := by
  obtain ⟨inside, same, _⟩ := List.findIdx?_eq_some_iff_getElem.mp found
  refine head?_of_field ?_ (beq_iff_eq.mp same).symm
  have all : ∀ n ∈ weekdays, n.toList.head? ∈ initials.map some := by decide
  exact all _ (List.getElem_mem inside)

theorem head?_of_long (found : (longWeekdays.findIdx? fun n => has cs 0 (n ++ ", ")) = some index) :
    ∃ c ∈ initials, cs.head? = some c := by
  obtain ⟨inside, same, _⟩ := List.findIdx?_eq_some_iff_getElem.mp found
  refine head?_of_field ?_ (beq_iff_eq.mp same)
  have all : ∀ n ∈ longWeekdays, (n ++ ", ").toList.head? ∈ initials.map some := by decide
  exact all _ (List.getElem_mem inside)

/-- A date begins with a day of the week, however it is spelled. -/
theorem head?_of_read? {text : String} (read : read? text = some date) :
    ∃ c ∈ initials, text.toList.head? = some c := by
  obtain ⟨spelled, found, _⟩ := Option.bind_eq_some_iff.mp read
  simp only [Option.orElse_eq_orElse, Option.orElse_eq_or, Option.or_eq_some_iff] at found
  rcases found with fixed | ⟨_, dashed | ⟨_, spaced⟩⟩
  · obtain ⟨_, _, fields⟩ := Option.bind_eq_some_iff.mp fixed
    obtain ⟨_, named, _⟩ := Option.bind_eq_some_iff.mp fields
    exact head?_of_name? named
  · obtain ⟨_, named, _⟩ := Option.bind_eq_some_iff.mp dashed
    exact head?_of_long named
  · obtain ⟨_, _, fields⟩ := Option.bind_eq_some_iff.mp spaced
    obtain ⟨_, named, _⟩ := Option.bind_eq_some_iff.mp fields
    exact head?_of_name? named

end HttpDate

/-- What begins like a day of the week is no number. -/
theorem Binary64.read?_eq_none {text : String}
    (day : ∃ c ∈ HttpDate.initials, text.toList.head? = some c) : read? text = none := by
  obtain ⟨c, initial, first⟩ := day
  obtain ⟨rest, chars⟩ := List.head?_eq_some_iff.mp first
  have others : HttpDate.initials.all fun c => c ≠ '-' ∧ c ≠ '+' ∧ c ≠ '.' ∧ c.toLower ≠ 'i' ∧
      c.toLower ≠ 'n' ∧ Numeral.isDigit 10 c = false := by decide
  obtain ⟨minus, plus, point, notI, notN, notDigit⟩ :=
    of_decide_eq_true (List.all_eq_true.mp others c initial)
  have unsigned : Decimal.sign (c :: rest) = (false, c :: rest) := by
    simp [Decimal.sign, minus, plus]
  have word : ∀ w : String, (∃ d, (d = 'i' ∨ d = 'n') ∧ w.toList.head? = some d) →
      String.ofList ((c :: rest).map Char.toLower) ≠ w := by
    rintro w ⟨d, letter, begins⟩ rfl
    rw [String.toList_ofList, List.map_cons, List.head?_cons] at begins
    cases begins
    exact letter.elim notI notN
  have noNumber : Decimal.unsigned? false (c :: rest) = none := by
    simp [Decimal.unsigned?, notDigit, point]
  rw [read?, chars, unsigned]
  simp only
  rw [if_neg, if_neg (word "nan" ⟨'n', by decide⟩), noNumber]
  · rfl
  · exact not_or.mpr ⟨word "inf" ⟨'i', by decide⟩, word "infinity" ⟨'i', by decide⟩⟩

namespace RetryAfter

/-- A number of seconds is a wait exactly if it is finite and not below zero. -/
theorem span?_isSome_iff (x : Float) : (span? x).isSome ↔ x.isFinite = true ∧ ¬x < 0.0 := by
  unfold span?
  by_cases finite : x.isFinite = true
  · by_cases below : x < 0.0
    · simp [below]
    · simp only [finite, below, decide_false, Bool.not_true, Bool.or_self, Bool.false_eq_true,
        if_false, not_false_eq_true, and_self, iff_true]
      split <;> rfl
  · simp [finite]

/-- The text of the header, without blanks at its ends. -/
def text? (headers : Headers) : Option String :=
  ((headers.get? "retry-after").bind Header.valueText?).map trim

variable {now later : Clock}

/-- The moment comes in only after the header was read. -/
theorem read?_eq (now : Clock) (headers : Headers) :
    read? now headers = ((text? headers).bind ofText?).map (·.fromNow now) := by
  unfold read? text? ofValue?
  cases headers.get? "retry-after" with
  | none => rfl
  | some value =>
    simp only [Option.bind_eq_bind, Option.bind_some]
    cases Header.valueText? value with
    | none => rfl
    | some raw =>
      simp only [Option.bind_some, Option.map_some]
      cases ofText? (trim raw) <;> rfl

/-- A text asks for a wait by a number or by a date, never by both. -/
theorem ofText?_cases (text : String) :
    (∃ seconds wait, Binary64.read? text = some seconds ∧ HttpDate.read? text = none ∧
      seconds.isFinite = true ∧ ¬seconds < 0.0 ∧ span? seconds = some wait ∧
      ofText? text = some (.delay wait)) ∨
    (∃ date, Binary64.read? text = none ∧ HttpDate.read? text = some date ∧
      ofText? text = some (.date date)) ∨
    (HttpDate.read? text = none ∧ (∀ seconds, Binary64.read? text = some seconds →
      ¬(seconds.isFinite = true ∧ ¬seconds < 0.0)) ∧ ofText? text = none) := by
  cases number : Binary64.read? text with
  | some seconds =>
    have meant : ofText? text = (span? seconds).map .delay := by rw [ofText?, number]
    have noDate : HttpDate.read? text = none := by
      rw [Option.eq_none_iff_forall_ne_some]
      intro date dated
      rw [Binary64.read?_eq_none (HttpDate.head?_of_read? dated)] at number
      cases number
    have usable := span?_isSome_iff seconds
    cases given : span? seconds with
    | some wait =>
      rw [given] at usable meant
      obtain ⟨finite, whole⟩ := usable.mp rfl
      exact .inl ⟨seconds, wait, rfl, noDate, finite, whole, given, meant⟩
    | none =>
      rw [given] at usable meant
      refine .inr (.inr ⟨noDate, ?_, meant⟩)
      rintro _ ⟨⟩ able
      cases usable.mpr able
  | none =>
    have meant : ofText? text = (HttpDate.read? text).map .date := by rw [ofText?, number]
    cases dated : HttpDate.read? text with
    | some date => exact .inr (.inl ⟨date, rfl, rfl, by rw [meant, dated]; rfl⟩)
    | none => exact .inr (.inr ⟨rfl, nofun, by rw [meant, dated]; rfl⟩)

/-- What is left of a wait gets no longer. -/
theorem fromNow_le (passes : now.wall ≤ later.wall) (asked : RetryAfter) :
    (asked.fromNow later).nanos ≤ (asked.fromNow now).nanos := by
  cases asked with
  | delay span => exact Nat.le_refl _
  | date moment =>
    show (_ : Int).toNat ≤ (_ : Int).toNat
    omega

/-- A wait until a date is the time left until then, and none once it has passed. -/
theorem fromNow_date (now : Clock) (date : HttpDate) :
    let wait := fromNow now (.date date)
    (now.wall ≤ date.nanos → (wait.nanos : Int) = date.nanos - now.wall) ∧
    (date.nanos < now.wall → wait = Span.zero) := by
  intro wait
  constructor
  · intro ahead
    show ((_ : Int).toNat : Int) = _
    omega
  · intro passed
    have none : ((date.nanos : Int) - now.wall).toNat = 0 := by omega
    exact congrArg Span.mk none

/-- What a header asks for settles the wait for every moment. There is one at each moment or at
none, and what is left of it never grows. It is the same at all moments if the text is a number,
which has to be finite and not below zero; it is the time left until a date, and none once that has
passed, if the text is a date, which no number is; and there is none otherwise. -/
theorem wait_over_time (headers : Headers) :
    (∀ now later : Clock, (read? now headers).isSome = (read? later headers).isSome) ∧
    (∀ now later : Clock, now.wall ≤ later.wall → ∀ wait, read? now headers = some wait →
      ∃ rest, read? later headers = some rest ∧ rest.nanos ≤ wait.nanos) ∧
    ((∃ text seconds wait, text? headers = some text ∧ Binary64.read? text = some seconds ∧
        HttpDate.read? text = none ∧ seconds.isFinite = true ∧ ¬seconds < 0.0 ∧
        span? seconds = some wait ∧ ∀ now, read? now headers = some wait) ∨
      (∃ text date, text? headers = some text ∧ Binary64.read? text = none ∧
        HttpDate.read? text = some date ∧ ∀ now : Clock, ∃ wait,
          read? now headers = some wait ∧
          (now.wall ≤ date.nanos → (wait.nanos : Int) = date.nanos - now.wall) ∧
          (date.nanos < now.wall → wait = Span.zero)) ∨
      ((∀ text, text? headers = some text → HttpDate.read? text = none ∧
          ∀ seconds, Binary64.read? text = some seconds →
            ¬(seconds.isFinite = true ∧ ¬seconds < 0.0)) ∧
        ∀ now, read? now headers = none)) := by
  refine ⟨fun now later => ?_, fun now later passes wait given => ?_, ?_⟩
  · rw [read?_eq, read?_eq, Option.isSome_map, Option.isSome_map]
  · rw [read?_eq] at given ⊢
    obtain ⟨asked, meant, rfl⟩ := Option.map_eq_some_iff.mp given
    rw [meant]
    exact ⟨_, rfl, fromNow_le passes asked⟩
  · have read := fun now => read?_eq now headers
    cases said : text? headers with
    | none =>
      refine .inr (.inr ⟨nofun, fun now => ?_⟩)
      rw [read, said]
      rfl
    | some text =>
      simp only [said, Option.bind_some] at read
      rcases ofText?_cases text with ⟨seconds, wait, number, noDate, finite, whole, given, meant⟩ |
        ⟨date, noNumber, dated, meant⟩ | ⟨noDate, unusable, meant⟩
      · refine .inl ⟨text, seconds, wait, rfl, number, noDate, finite, whole, given, fun now => ?_⟩
        rw [read, meant]
        rfl
      · refine .inr (.inl ⟨text, date, rfl, noNumber, dated, fun now => ?_⟩)
        refine ⟨_, ?_, fromNow_date now date⟩
        rw [read, meant]
        rfl
      · refine .inr (.inr ⟨?_, fun now => ?_⟩)
        · intro said' same
          cases same
          exact ⟨noDate, unusable⟩
        · rw [read, meant]
          rfl

/-- The header of a date with blanks around it, a minute and a half before that date on a clock of
1969, and five seconds after it. -/
theorem wait_over_time_passed :
    let value := " Thu, 01 Jan 1970 00:00:00 GMT\t".toList.map fun c => UInt8.ofNat c.toNat
    let headers : Headers := [⟨"retry-after", value⟩]
    let before : Clock := ⟨-90500000000, 0⟩
    let after : Clock := ⟨-90500000000, 95500000000⟩
    read? before headers = some ⟨90500000000⟩ ∧
    (∃ rest, read? after headers = some rest ∧ rest.nanos ≤ 90500000000) ∧
    read? after headers = some Span.zero := by
  intro value headers before after
  have early : read? before headers = some ⟨90500000000⟩ := by decide +kernel
  obtain ⟨_, shrinks, _⟩ := wait_over_time headers
  exact ⟨early, shrinks before after (by decide) _ early, by decide +kernel⟩

end RetryAfter
end Failover
