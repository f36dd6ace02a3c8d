import Failover.Proofs.Limiter.Lending
import Mathlib.Data.List.Dedup

/-!
# Limiters of different keys

Many callers use the limiters of one engine, under any keys and in any order, while time passes. The
limiter of a key is made at the first use of the key. From then on it goes through the uses of its
own key and through the passing of time as if it were the only one: what the others go through can
be left out, before its first use as well, where nothing is kept of the past but the moment.
-/

namespace Failover

namespace Limiters

/-! ## Uses -/

/-- What is asked of the limiter of a key: to be shown, to lend a permit at once if it can, to
answer a caller, or to take a permit back. -/
inductive Use where
  | look
  | tryAcquire
  | acquire
  | release (completion : Completion)

/-- What comes of a use, in the order of `Use`. -/
inductive Reply where
  | shown (limiter : Controller)
  | tried (lent : Bool)
  | answered (admission : Controller.Admission)
  | taken

/-- What can happen next to the limiters: one of them is used, or time passes for all. Nothing is
assumed of the order, not even that a permit that comes back is out. -/
inductive Deed where
  | use (key : String) (use : Use)
  | advance (span : Span)

/-- What a limiter, or several, have come to: the replies to all uses in order, each under its key,
the state in the end and the moment. -/
structure Account (α : Type) where
  replies : List (String × Reply)
  state : α
  clock : Clock

namespace Account

variable {α : Type}

/-- The account with one more reply, before the others. -/
def after (a : Account α) (key : String) (reply : Reply) : Account α :=
  { a with replies := (key, reply) :: a.replies }

/-- The replies under a key. -/
def under (a : Account α) (key : String) : List (String × Reply) := a.replies.filter (·.1 = key)

/-- What is told of one key in the account of all is the account of its own, with states that `R`
relates. -/
structure IsShare {β : Type} (R : β → α → Prop) (key : String) (all : Account β)
    (own : Account α) : Prop where
  replies : own.replies = all.under key
  state : R all.state own.state
  clock : own.clock = all.clock

variable {β : Type} {R : β → α → Prop} {all : Account β} {own : Account α} {key other : String}

theorem IsShare.after_self (h : IsShare R key all own) (reply : Reply) :
    IsShare R key (all.after key reply) (own.after key reply) where
  replies := by
    show (key, reply) :: own.replies = ((key, reply) :: all.replies).filter _
    rw [List.filter_cons_of_pos (by simp), h.replies]
    rfl
  state := h.state
  clock := h.clock

theorem IsShare.after_of_ne (h : IsShare R key all own) (apart : other ≠ key) (reply : Reply) :
    IsShare R key (all.after other reply) own where
  replies := by
    show own.replies = ((other, reply) :: all.replies).filter _
    rw [List.filter_cons_of_neg (by simpa using apart), h.replies]
    rfl
  state := h.state
  clock := h.clock

end Account

namespace Deed

/-- The key that is used, if one is. -/
def key? : Deed → Option String
  | use key _ => some key
  | advance _ => none

/-- Whether the limiter of a key goes through this: it is used, or time passes. -/
def concerns (key : String) : Deed → Bool
  | use other _ => other = key
  | advance _ => true

theorem concerns_use_self (key : String) (u : Use) : (use key u).concerns key = true :=
  decide_eq_true rfl

theorem not_concerns_use {key other : String} (u : Use) (apart : other ≠ key) :
    ¬(use other u).concerns key = true := by
  simpa [concerns] using apart

/-- The keys that are used, each as often as it is. -/
def keys (deeds : List Deed) : List String := deeds.filterMap key?

/-- What the limiter of a key goes through from its first use on, and the moment of that use. -/
def lifeOf (key : String) (clock : Clock) : List Deed → List Deed × Clock
  | [] => ([], clock)
  | use other u :: rest =>
    if other = key then ((use other u :: rest).filter (concerns key), clock)
    else lifeOf key clock rest
  | advance span :: rest => lifeOf key (clock.advance span) rest

end Deed
end Limiters

open Limiters (Use Reply Deed Account)

/-- A limiter that is used. -/
def Controller.serve (c : Controller) (clock : Clock) : Use → Reply × Controller
  | .look => (.shown c, c)
  | .tryAcquire =>
    match c.tryAcquire with
    | some (d, _) => (.tried true, d)
    | none => (.tried false, c)
  | .acquire => (.answered c.acquire.1, c.acquire.2.1)
  | .release completion => (.taken, (c.release clock completion).1)

/-- One limiter through all these deeds, where every use is a use of it. -/
def Controller.run (c : Controller) (clock : Clock) : List Deed → Account Controller
  | [] => ⟨[], c, clock⟩
  | .use key use :: rest =>
    let (reply, d) := c.serve clock use
    (d.run clock rest).after key reply
  | .advance span :: rest => c.run (clock.advance span) rest

/-- The limiters after that of a key was used, with the reply. -/
def Limiters.serve (ls : Limiters) (clock : Clock) (key : String) (use : Use) : Reply × Limiters :=
  let (reply, c) := (ls.obtain clock key).1.serve clock use
  (reply, ls.put key c)

/-- The limiters through all these deeds, where every use is a use of the one under its key. -/
def Limiters.run (ls : Limiters) (clock : Clock) : List Deed → Account Limiters
  | [] => ⟨[], ls, clock⟩
  | .use key use :: rest =>
    let (reply, next) := ls.serve clock key use
    (next.run clock rest).after key reply
  | .advance span :: rest => ls.run (clock.advance span) rest

/-- The limiters after that of a key was used in these ways, one after another. -/
def Limiters.serveAll (ls : Limiters) (clock : Clock) (key : String) (uses : List Use) : Limiters :=
  (ls.run clock (uses.map (.use key))).state

/-! ## One limiter -/

namespace Controller

/-- No use renames a limiter or moves the moment it was made at. -/
theorem serve_frame (c : Controller) (clock : Clock) (use : Use) :
    (c.serve clock use).2.name = c.name ∧ (c.serve clock use).2.created = c.created := by
  have acquired : c.acquire.2.1.name = c.name ∧ c.acquire.2.1.created = c.created := by
    rcases acquire_cases (Prod.eta c.acquire).symm with ⟨_, lent⟩ | ⟨_, same⟩
    · rw [lent]
      exact ⟨rfl, rfl⟩
    · rw [same]
      exact ⟨rfl, rfl⟩
  cases use with
  | look => exact ⟨rfl, rfl⟩
  | tryAcquire =>
    rw [serve, tryAcquire]
    split
    · rename_i lent
      split at lent <;> cases lent
      exact ⟨rfl, rfl⟩
    · exact ⟨rfl, rfl⟩
  | acquire => exact acquired
  | release completion =>
    exact ⟨(c.release_cases clock completion).1, created_release c clock completion⟩

theorem run_frame (c : Controller) (clock : Clock) (deeds : List Deed) :
    (c.run clock deeds).state.name = c.name ∧
    (c.run clock deeds).state.created = c.created := by
  induction deeds generalizing c clock with
  | nil => exact ⟨rfl, rfl⟩
  | cons deed rest ih =>
    cases deed with
    | use key use =>
      obtain ⟨name, created⟩ := serve_frame c clock use
      obtain ⟨later, since⟩ := ih (c.serve clock use).2 clock
      exact ⟨later.trans name, since.trans created⟩
    | advance span => exact ih c (clock.advance span)

end Controller

/-! ## All limiters -/

namespace Limiters

variable {ls ms ns : Limiters} {key other : String} {c : Controller} {deeds : List Deed}

/-- A limiter that is made has the name of its key, and is as old as that. -/
theorem create_frame (s : LimiterSettings) (key : String) (clock : Clock) :
    (create s key clock).1.name = key ∧ (create s key clock).1.created = clock.elapsed := by
  unfold create
  by_cases enabled : s.enabled = true
  · rw [if_pos enabled]
    exact ⟨rfl, rfl⟩
  · rw [if_neg enabled]
    exact ⟨rfl, rfl⟩

/-- Two states of the limiters that are one as far as a key goes. -/
structure AgreeOn (key : String) (ls ms : Limiters) : Prop where
  settings : ms.settings = ls.settings
  find : ms.find? key = ls.find? key

theorem AgreeOn.refl (key : String) (ls : Limiters) : AgreeOn key ls ls := ⟨rfl, rfl⟩

theorem AgreeOn.symm (h : AgreeOn key ls ms) : AgreeOn key ms ls :=
  ⟨h.settings.symm, h.find.symm⟩

theorem AgreeOn.trans (h : AgreeOn key ls ms) (h' : AgreeOn key ms ns) : AgreeOn key ls ns :=
  ⟨h'.settings.trans h.settings, h'.find.trans h.find⟩

theorem AgreeOn.obtain (h : AgreeOn key ls ms) (clock : Clock) :
    ms.obtain clock key = ls.obtain clock key := by
  rw [Limiters.obtain, Limiters.obtain, h.find, h.settings]

theorem AgreeOn.put (h : AgreeOn key ls ms) (c : Controller) :
    AgreeOn key (ls.put key c) (ms.put key c) where
  settings := h.settings
  find := by rw [find?_put_self, find?_put_self]

/-- What becomes of one limiter is nothing to the others. -/
theorem agreeOn_put (ls : Limiters) (c : Controller) (apart : other ≠ key) :
    AgreeOn key ls (ls.put other c) where
  settings := rfl
  find := find?_put_of_ne c (Ne.symm apart)

theorem agreeOn_serve (ls : Limiters) (clock : Clock) (use : Use) (apart : other ≠ key) :
    AgreeOn key ls (ls.serve clock other use).2 :=
  agreeOn_put ls _ apart

/-- A use is served by the limiter of its key, whatever the others. -/
theorem AgreeOn.serve (h : AgreeOn key ls ms) (clock : Clock) (use : Use) :
    (ms.serve clock key use).1 = (ls.serve clock key use).1 ∧
    AgreeOn key (ls.serve clock key use).2 (ms.serve clock key use).2 := by
  rw [Limiters.serve, Limiters.serve, h.obtain clock]
  exact ⟨rfl, h.put _⟩

/-! ## The limiter of a key -/

/-- The limiter of a key among the others. -/
def Holds (key : String) (ls : Limiters) (c : Controller) : Prop := ls.find? key = some c

theorem Holds.obtain (h : Holds key ls c) (clock : Clock) : ls.obtain clock key = (c, []) := by
  rw [Limiters.obtain, show ls.find? key = some c from h]

/-- A use of a key is a use of its limiter, which is what is found there from then on. -/
theorem run_use_self (ls : Limiters) (clock : Clock) (key : String) (use : Use) {rest : List Deed}
    (onward : ∀ {ls : Limiters} {c : Controller}, Holds key ls c →
      (ls.run clock rest).IsShare (Holds key) key
        (c.run clock (rest.filter (·.concerns key)))) :
    (ls.run clock (.use key use :: rest)).IsShare (Holds key) key
      ((ls.obtain clock key).1.run clock ((Deed.use key use :: rest).filter (·.concerns key))) := by
  rw [List.filter_cons_of_pos (Deed.concerns_use_self key use)]
  exact (onward (find?_put_self ..)).after_self _

/-- A limiter that is there goes through the uses of its key, and no others. -/
theorem run_of_made (made : Holds key ls c) (clock : Clock) (deeds : List Deed) :
    (ls.run clock deeds).IsShare (Holds key) key
      (c.run clock (deeds.filter (·.concerns key))) := by
  induction deeds generalizing ls c clock with
  | nil => exact ⟨rfl, made, rfl⟩
  | cons deed rest ih =>
    cases deed with
    | advance span => exact ih made (clock.advance span)
    | use other use =>
      by_cases same : other = key
      · subst same
        have found : (ls.obtain clock other).1 = c := congrArg Prod.fst (made.obtain clock)
        rw [← found]
        exact run_use_self ls clock other use fun found => ih found clock
      · have kept : Holds key (ls.serve clock other use).2 c :=
          (agreeOn_serve ls clock use same).find.trans made
        rw [List.filter_cons_of_neg (Deed.not_concerns_use use same)]
        exact (ih kept clock).after_of_ne same _

/-- A limiter that is not there is made at the first use of its key, and goes through the uses of
its key from then on. -/
theorem run_of_new (new : ls.find? key = none) (clock : Clock) (used : key ∈ Deed.keys deeds) :
    let life := Deed.lifeOf key clock deeds
    (ls.run clock deeds).IsShare (Holds key) key
      ((create ls.settings key life.2).1.run life.2 life.1) := by
  induction deeds generalizing ls clock with
  | nil => cases used
  | cons deed rest ih =>
    cases deed with
    | advance span => exact ih new (clock.advance span) used
    | use other use =>
      by_cases same : other = key
      · subst same
        have made : (ls.obtain clock other).1 = (create ls.settings other clock).1 := by
          rw [obtain, new]
        simp only [Deed.lifeOf, if_pos, ← made]
        exact run_use_self ls clock other use fun found => run_of_made found clock rest
      · have kept : (ls.serve clock other use).2.find? key = none :=
          (agreeOn_serve ls clock use same).find.trans new
        have later : key ∈ Deed.keys rest := (List.mem_cons.mp used).resolve_left (Ne.symm same)
        simp only [Deed.lifeOf, if_neg same]
        exact (ih kept clock later).after_of_ne same _

/-- The deeds that do not concern a key can be left out for it. -/
theorem AgreeOn.run_filter (h : AgreeOn key ls ms) (clock : Clock) (deeds : List Deed) :
    (ls.run clock deeds).IsShare (AgreeOn key) key
      (ms.run clock (deeds.filter (·.concerns key))) := by
  induction deeds generalizing ls ms clock with
  | nil => exact ⟨rfl, h, rfl⟩
  | cons deed rest ih =>
    cases deed with
    | advance span => exact ih h (clock.advance span)
    | use other use =>
      by_cases same : other = key
      · subst same
        obtain ⟨reply, next⟩ := h.serve clock use
        rw [List.filter_cons_of_pos (Deed.concerns_use_self other use)]
        simp only [run, reply]
        exact (ih next clock).after_self _
      · rw [List.filter_cons_of_neg (Deed.not_concerns_use use same)]
        exact (ih ((agreeOn_serve ls clock use same).symm.trans h) clock).after_of_ne same _

/-- Uses of one key in a row are nothing to the others. -/
theorem agreeOn_serveAll (ls : Limiters) (clock : Clock) (uses : List Use) (apart : other ≠ key) :
    AgreeOn key ls (ls.serveAll clock other uses) := by
  induction uses generalizing ls with
  | nil => exact .refl key ls
  | cons use rest ih => exact (agreeOn_serve ls clock use apart).trans (ih _)

theorem serveAll_append (ls : Limiters) (clock : Clock) (key : String) (uses more : List Use) :
    ls.serveAll clock key (uses ++ more) =
      (ls.serveAll clock key uses).serveAll clock key more := by
  induction uses generalizing ls with
  | nil => rfl
  | cons use rest ih => exact ih _

/-! ## Their names -/

/-- Every limiter has the name of its key. -/
def IsNamed (ls : Limiters) : Prop := ∀ key c, ls.find? key = some c → c.name = key

theorem isNamed_ofSettings (s : LimiterSettings) : (ofSettings s).IsNamed := nofun

/-- The limiter that is found for a key, or made for it. -/
theorem IsNamed.obtain (named : ls.IsNamed) (clock : Clock) (key : String) :
    (ls.obtain clock key).1.name = key := by
  rw [Limiters.obtain]
  cases found : ls.find? key with
  | some c => exact named key c found
  | none => exact (create_frame ls.settings key clock).1

theorem IsNamed.put (named : ls.IsNamed) (own : c.name = key) : (ls.put key c).IsNamed := by
  intro other d found
  by_cases same : other = key
  · subst same
    rw [find?_put_self] at found
    cases found
    exact own
  · rw [find?_put_of_ne c same] at found
    exact named other d found

/-- The limiter of a key has one name, before it is used and after. -/
theorem name_obtain_serve (ls : Limiters) (clock : Clock) (key : String) (use : Use) :
    ((ls.serve clock key use).2.obtain clock key).1.name = (ls.obtain clock key).1.name := by
  have found : Holds key (ls.serve clock key use).2 _ := find?_put_self ..
  rw [found.obtain]
  exact ((ls.obtain clock key).1.serve_frame clock use).1

theorem IsNamed.serve (named : ls.IsNamed) (clock : Clock) (key : String) (use : Use) :
    (ls.serve clock key use).2.IsNamed :=
  named.put (((ls.obtain clock key).1.serve_frame clock use).1.trans (named.obtain clock key))

theorem IsNamed.serveAll (named : ls.IsNamed) (clock : Clock) (key : String) (uses : List Use) :
    (ls.serveAll clock key uses).IsNamed := by
  induction uses generalizing ls with
  | nil => exact named
  | cons use rest ih => exact ih (named.serve clock key use)

/-! ## Their number -/

/-- The keys that have a limiter. -/
def keys (ls : Limiters) : List String := ls.entries.map (·.1)

theorem find?_eq_none_iff : ls.find? key = none ↔ key ∉ ls.keys := by
  rw [find?, List.lookup_eq_none_iff]
  constructor
  · intro apart there
    obtain ⟨entry, among, rfl⟩ := List.mem_map.mp there
    simpa using apart entry among
  · intro absent entry among
    simpa using fun same : key = entry.1 => absent (same ▸ List.mem_map_of_mem among)

/-- A limiter that is put under a key is one more only if there is none. -/
theorem keys_put (ls : Limiters) (key : String) (c : Controller) :
    (ls.put key c).keys = if key ∈ ls.keys then ls.keys else ls.keys ++ [key] := by
  obtain ⟨settings, entries⟩ := ls
  show (putInto key c entries).map (·.1) =
    if key ∈ entries.map (·.1) then entries.map (·.1) else entries.map (·.1) ++ [key]
  induction entries with
  | nil => rfl
  | cons entry rest ih =>
    obtain ⟨k, d⟩ := entry
    by_cases same : key = k
    · simp [putInto, same]
    · rw [putInto, if_neg same, List.map_cons, ih]
      simp only [List.map_cons, List.mem_cons, same, false_or]
      split <;> rfl

/-- The keys that have a limiter are those that had one and those that are used, each once. -/
theorem keys_run (ls : Limiters) (clock : Clock) (deeds : List Deed) (apart : ls.keys.Nodup) :
    (ls.run clock deeds).state.keys.Nodup ∧
    ∀ key, key ∈ (ls.run clock deeds).state.keys ↔ key ∈ ls.keys ∨ key ∈ Deed.keys deeds := by
  induction deeds generalizing ls clock with
  | nil => exact ⟨apart, fun key => by simp [run, Deed.keys]⟩
  | cons deed rest ih =>
    cases deed with
    | advance span => exact ih ls (clock.advance span) apart
    | use other use =>
      have put : (ls.serve clock other use).2.keys = _ := keys_put ls other _
      have kept : (ls.serve clock other use).2.keys.Nodup := by
        rw [put]
        split
        · exact apart
        · rename_i new
          rw [← List.concat_eq_append]
          exact apart.concat new
      obtain ⟨nodup, mem⟩ := ih _ clock kept
      refine ⟨nodup, fun key => (mem key).trans ?_⟩
      have all : Deed.keys (.use other use :: rest) = other :: Deed.keys rest := rfl
      rw [put, all, List.mem_cons, ← or_assoc]
      refine or_congr_left ?_
      split
      · rename_i there
        exact ⟨.inl, fun h => h.elim id fun same => same ▸ there⟩
      · rw [List.mem_append, List.mem_singleton]

/-- There are as many limiters as keys that were used. -/
theorem size_run (s : LimiterSettings) (clock : Clock) (deeds : List Deed) :
    ((ofSettings s).run clock deeds).state.size = (Deed.keys deeds).dedup.length := by
  obtain ⟨nodup, mem⟩ := keys_run (ofSettings s) clock deeds List.nodup_nil
  have perm : ((ofSettings s).run clock deeds).state.keys.Perm (Deed.keys deeds).dedup := by
    refine (List.perm_ext_iff_of_nodup nodup (List.nodup_dedup _)).mpr fun key => ?_
    rw [mem, List.mem_dedup]
    exact or_iff_right List.not_mem_nil
  rw [← perm.length_eq, keys, List.length_map, size]

end Limiters
end Failover
