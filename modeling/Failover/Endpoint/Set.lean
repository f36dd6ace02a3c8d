import Failover.Url.Parser
import Failover.Text.Numeral

/-! The endpoints of one service: base URLs in order of preference, at least one. Which one
calls start from is kept beside the set, as an index that is always one of the set's own. -/
namespace Failover

/-- Why no endpoint can be chosen. -/
inductive SelectionError where
  | empty
  | invalidUrl (text : String)
  | noneRemaining
  | limitExceeded (limit : Nat)
  deriving DecidableEq, Repr

def SelectionError.message : SelectionError → String
  | .empty => "endpoint set is empty"
  | .invalidUrl text => "invalid endpoint URL '" ++ text ++ "'"
  | .noneRemaining => "every endpoint has been tried"
  | .limitExceeded limit => "relocation limit of " ++ Numeral.decimal limit ++ " exceeded"

/-- Base URLs, at least one. -/
structure EndpointSet where
  urls : List Url
  nonempty : urls ≠ []

namespace EndpointSet

def ofList (urls : List Url) : Except SelectionError EndpointSet :=
  if h : urls = [] then .error .empty else .ok ⟨urls, h⟩

/-- The URL that an endpoint's text spells. -/
def readUrl (text : String) : Except SelectionError Url :=
  match Url.parse text with
  | .ok u => .ok u
  | .error _ => .error (.invalidUrl text)

/-- The set of the URLs that these texts spell; the first that spells none is the error. -/
def parse (texts : List String) : Except SelectionError EndpointSet := do
  ofList (← texts.mapM readUrl)

def size (s : EndpointSet) : Nat := s.urls.length

theorem size_pos (s : EndpointSet) : 0 < s.size := List.length_pos_iff.2 s.nonempty

def get? (s : EndpointSet) (index : Nat) : Option Url := s.urls[index]?

/-- What is left of a text behind another one that it starts with. -/
def behind? : List Char → List Char → Option (List Char)
  | [], rest => some rest
  | _ :: _, [] => none
  | c :: cs, d :: ds => if c = d then behind? cs ds else none

/-- What a URL's text has below a base: nothing, or a path or query behind the base without the
slashes at its end. -/
def below? (base u : Url) : Option (List Char) :=
  match behind? base.trimmed u.chars with
  | some [] => some []
  | some (c :: rest) => if c = '/' ∨ c = '?' then some (c :: rest) else none
  | none => none

/-- The first of `bases` that `u` lies below, counted from `index`, and what it has below it. -/
def resolveFrom (u : Url) (index : Nat) : List Url → Option (Nat × String)
  | [] => none
  | base :: bases =>
    match below? base u with
    | some rest => some (index, String.ofList rest)
    | none => resolveFrom u (index + 1) bases

/-- The first endpoint that a URL lies below, and the path and query below it. -/
def resolve (s : EndpointSet) (u : Url) : Option (Nat × String) := resolveFrom u 0 s.urls

theorem behind?_eq_some_iff {front text rest : List Char} :
    behind? front text = some rest ↔ text = front ++ rest := by
  induction front generalizing text with
  | nil => simp [behind?, eq_comm]
  | cons c cs ih =>
    cases text with
    | nil => simp [behind?]
    | cons d ds =>
      by_cases h : c = d
      · subst h
        simp [behind?, ih]
      · simp [behind?, h, Ne.symm h]

end EndpointSet

/-- Which endpoint calls start from, while `s` is the set. -/
structure Preferred (s : EndpointSet) where
  index : Nat
  index_lt : index < s.size

namespace Preferred

/-- The first endpoint, before any call has been served. -/
def first (s : EndpointSet) : Preferred s := ⟨0, s.size_pos⟩

/-- Remembers the endpoint that served a call; an index outside the set changes nothing. -/
def mark {s : EndpointSet} (p : Preferred s) (index : Nat) : Preferred s :=
  if h : index < s.size then ⟨index, h⟩ else p

end Preferred
end Failover
