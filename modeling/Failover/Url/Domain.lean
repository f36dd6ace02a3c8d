import Failover.Text.Composition
import Failover.Text.Utf8
import Failover.Url.Idna.Direction
import Failover.Url.Idna.Joiner
import Failover.Url.Idna.Mapping
import Failover.Url.Percent
import Failover.Url.Punycode

/-! Domain names in ASCII. Letters go to lower case and all characters to their composed form, and
a label with characters outside ASCII is written in Punycode behind `xn--`. What is written has to be
a name, and a name is written as itself (`toAscii?_of_isName`), so that doing it twice changes
nothing. -/
namespace Failover.Domain

/-- The characters that no domain name may hold. -/
def isForbidden (c : Char) : Bool :=
  Percent.isControl c || " #/:<>?@[\\]^|%".toList.contains c

def isAscii (c : Char) : Bool := c.toNat < 128

/-- The characters of a name in ASCII. -/
def isPlain (c : Char) : Bool := isAscii c && c.toLower == c && !isForbidden c

/-- The mark of a label in Punycode. -/
def mark : List Char := "xn--".toList

/-- The most characters of a label that is put into Punycode, and of the text behind the mark. -/
def longestLabel : Nat := 1000
def longestText : Nat := 2000

/-- The composed form of what a text is read as. -/
def normal? (cs : List Char) : Option (List Char) :=
  (Idna.readAll? cs).map fun read => if read.all isAscii then read else Composition.normal read

/-- Whether a label can be one that needs Punycode: it is in the form in which it would be read, it
bears no mark of its own and begins with no combining one, and its joiners stand where they may. -/
def isSound (label : List Char) : Bool :=
  !label.all isAscii && normal? label == some label && !mark.isPrefixOf label &&
    !label.head?.any Combining.isMark && Idna.joinersFit [] label

/-- The label that a label of a name in ASCII stands for. -/
def label? (cs : List Char) : Option (List Char) :=
  if mark.isPrefixOf cs then
    let text := cs.drop mark.length
    if longestText < text.length then none else (Punycode.decode? text).filter isSound
  else some cs

/-- Whether a text is a domain name in ASCII, as it is written. -/
def isName (cs : List Char) : Bool :=
  cs.all isPlain && ((cs.splitOn '.').mapM label?).any Idna.directed

/-- A label in ASCII; one that is in ASCII already is left as it is. -/
def written? (label : List Char) : Option (List Char) :=
  if label.all isAscii then some label
  else if longestLabel < label.length then none
  else some (mark ++ Punycode.encode label)

/-- The name in ASCII that the bytes of a text spell. -/
def toAscii? (bytes : List UInt8) : Option (List Char) := do
  let text ← Utf8.strict? bytes
  let name ← normal? text.toList
  let written ← (name.splitOn '.').mapM written?
  let name := ['.'].intercalate written
  if isName name then some name else none

theorem ascii_of_plain {cs : List Char} (h : cs.all isPlain) : cs.all isAscii := by
  refine List.all_eq_true.2 fun c hc => ?_
  have := List.all_eq_true.1 h c hc
  simp only [isPlain, Bool.and_eq_true] at this
  exact this.1.1

theorem toLower_of_plain {cs : List Char} (h : cs.all isPlain) : cs.map Char.toLower = cs := by
  have lower : ∀ c ∈ cs, c.toLower = c := by
    intro c hc
    have := List.all_eq_true.1 h c hc
    simp only [isPlain, Bool.and_eq_true, beq_iff_eq] at this
    exact this.1.2
  rw [List.map_congr_left lower, List.map_id']

/-- A text of plain characters is in its composed form. -/
theorem normal?_plain {cs : List Char} (h : cs.all isPlain) : normal? cs = some cs := by
  have ascii := ascii_of_plain h
  have read : Idna.readAll? cs = some cs := by
    rw [Idna.readAll?_ascii fun c hc => of_decide_eq_true (List.all_eq_true.1 ascii c hc),
      toLower_of_plain h]
  rw [normal?, read, Option.map_some, if_pos ascii]

/-- What stands between separators stands in the whole. -/
theorem mem_of_mem_splitOn {cs label : List Char} {c : Char} (hl : label ∈ cs.splitOn '.')
    (hc : c ∈ label) : c ∈ cs := by
  have key : ∀ labels : List (List Char), label ∈ labels → c ∈ ['.'].intercalate labels := by
    intro labels hl
    induction labels with
    | nil => cases hl
    | cons first rest ih =>
      cases rest with
      | nil =>
        rw [List.mem_singleton] at hl
        rw [List.intercalate_singleton, ← hl]
        exact hc
      | cons second rest =>
        rw [List.intercalate_cons_cons, List.mem_append, List.mem_append]
        rcases List.mem_cons.1 hl with rfl | hr
        · exact .inl (.inl hc)
        · exact .inr (ih hr)
  have := key _ hl
  rwa [List.intercalate_splitOn] at this

/-- Labels in ASCII are left as they are. -/
theorem mapM_written?_ascii {labels : List (List Char)} (h : ∀ l ∈ labels, l.all isAscii) :
    labels.mapM written? = some labels := by
  induction labels with
  | nil => rfl
  | cons l labels ih =>
    have first : written? l = some l := if_pos (h l List.mem_cons_self)
    have rest := ih fun m hm => h m (List.mem_cons_of_mem l hm)
    simp [first, rest]

/-- What is written is a name. -/
theorem isName_of_toAscii? {bytes : List UInt8} {name : List Char}
    (h : toAscii? bytes = some name) : isName name := by
  simp only [toAscii?, Option.bind_eq_bind, Option.bind_eq_some_iff] at h
  obtain ⟨_, _, _, _, _, _, h⟩ := h
  split at h
  · cases h
    assumption
  · cases h

/-- A name is written as itself. -/
theorem toAscii?_of_isName {name : List Char} (h : isName name) :
    toAscii? (Utf8.encode (String.ofList name)) = some name := by
  have plain : name.all isPlain := by
    simp only [isName, Bool.and_eq_true] at h
    exact h.1
  have labels : ∀ l ∈ name.splitOn '.', l.all isAscii := fun l hl =>
    List.all_eq_true.2 fun c hc =>
      List.all_eq_true.1 (ascii_of_plain plain) c (mem_of_mem_splitOn hl hc)
  simp [toAscii?, Utf8.strict?_encode, normal?_plain plain, mapM_written?_ascii labels,
    List.intercalate_splitOn, h]

end Failover.Domain
