import Mathlib.Tactic
import ModuleHost.Settings

namespace ModuleHost

open Data (Tree fieldOr)

namespace Data.Tree

/-- A record gives some fields: a table has an entry of a name for each of them, whatever else it
has, and an array has the first ones. -/
inductive Gives (names : List String) (fields : List (Option Tree)) : Tree → Prop
  | table {entries : List (Option String × Tree)}
    (named : ∀ e ∈ entries, e.1.isSome = true)
    (found : List.Forall₂ (fun name field =>
      entries.filter (fun e => e.1 = some name) = (field.map (some name, ·)).toList) names fields) :
    Gives names fields (.table entries)
  | array {items : List Tree} (rest : Nat)
    (leading : fields = items.map some ++ List.replicate rest none) :
    Gives names fields (.array items)

variable {names : List String} {fields : List (Option Tree)} {name : String}

theorem entry_of_filter {entries : List (Option String × Tree)} {found : Option Tree}
    (once : entries.filter (fun e => e.1 = some name) = (found.map (some name, ·)).toList) :
    entry entries name = some found := by
  unfold entry
  rw [once]
  cases found <;> rfl

theorem mapM_entry {entries : List (Option String × Tree)}
    (found : List.Forall₂ (fun name field =>
      entries.filter (fun e => e.1 = some name) = (field.map (some name, ·)).toList) names fields) :
    names.mapM (entry entries) = some fields := by
  induction found with
  | nil => rfl
  | cons once found ih =>
    rw [List.mapM_cons, entry_of_filter once, ih]
    rfl

theorem fields_of_gives {t : Tree} (gives : Gives names fields t) (mayGoOn : Bool)
    (count : names.length = fields.length) : t.fields names mayGoOn = some fields := by
  cases gives with
  | @table entries named found =>
    rw [Tree.fields, if_pos (List.all_eq_true.mpr named)]
    exact mapM_entry found
  | @array items rest leading =>
    have short : items.length ≤ names.length := by
      rw [count, leading]
      simp
    have passes : (mayGoOn || decide (items.length ≤ names.length)) = true := by
      rw [decide_eq_true short, Bool.or_true]
    rw [Tree.fields, if_pos passes, count, leading]
    refine congrArg some (List.ext_getElem? fun k => ?_)
    rw [List.getElem?_map]
    by_cases inside : k < (items.map some ++ List.replicate rest none).length
    · rw [List.getElem?_range inside, Option.map_some]
      by_cases early : k < items.length
      · rw [List.getElem?_append_left (by simpa using early)]
        simp [early]
      · have late : items.length ≤ k := Nat.le_of_not_lt early
        have bound : k - items.length < rest := by
          simp at inside
          omega
        simp [List.getElem?_append_right, late, bound]
    · have outside := Nat.le_of_not_lt inside
      rw [List.getElem?_eq_none (by simpa using outside), List.getElem?_eq_none outside]
      rfl

inductive GivesOptional (names : List String) (fields : List (Option Tree)) : Option Tree → Prop
  | leftOut (nothing : ∀ f ∈ fields, f = none) : GivesOptional names fields none
  | record {t : Tree} (gives : Gives names fields t) : GivesOptional names fields (some t)

end Data.Tree

namespace Settings

open Data.Tree (Gives GivesOptional fields_of_gives)

/-- Values for some of the fields. Numbers may be beyond what a field can hold. -/
structure Assignment where
  pooling : Option Bool
  poolSize : Option Int
  slotMb : Option Int
  metered : Option Bool
  wasi : Option Bool
  stackKb : Option Int
  memoryMb : Option Int
  fuel : Option Int

namespace Assignment

variable (a : Assignment)

def words : List Int :=
  a.poolSize.toList ++ a.slotMb.toList ++ a.stackKb.toList ++ a.memoryMb.toList

structure InRange : Prop where
  words : ∀ n ∈ a.words, 0 ≤ n ∧ n < 2 ^ 32
  fuel : ∀ n ∈ a.fuel, 0 ≤ n ∧ n < 2 ^ 63

/-- Some number fits into no field of its kind. -/
def OutOfRange : Prop :=
  (∃ n ∈ a.words, n < 0 ∨ 2 ^ 32 ≤ n) ∨ ∃ n ∈ a.fuel, n < 0 ∨ 2 ^ 64 ≤ n

def word (given : Option Int) (default : UInt32) : UInt32 :=
  (given.map fun n => UInt32.ofNat n.toNat).getD default

def settings : Settings where
  engine := {
    pooling := a.pooling.getD false
    poolSize := word a.poolSize 1000
    slotMb := word a.slotMb 64
    metered := a.metered.getD true
    wasi := a.wasi.getD false
    stackKb := word a.stackKb 512 }
  limits := {
    memoryMb := word a.memoryMb 128
    fuel := a.fuel.map fun n => UInt64.ofNat n.toNat }

section Fields

variable {β : Type} (boolean : Bool → β)

def engineGiven (number : Int → β) : List (Option β) :=
  [a.pooling.map boolean, a.poolSize.map number, a.slotMb.map number, a.metered.map boolean,
    a.wasi.map boolean, a.stackKb.map number]

def limitsGiven (number : Int → β) : List (Option β) :=
  [a.memoryMb.map number, a.fuel.map number]

variable (number : Int → Tree)

def engineFields : List (Option Tree) :=
  a.engineGiven .boolean number

def limitsFields : List (Option Tree) :=
  a.limitsGiven number

structure ShowsNumbers : Prop where
  asNat : ∀ bound n, bound ≤ 2 ^ 64 →
    (number n).asNat bound = if 0 ≤ n ∧ n < bound then some n.toNat else none
  ne_null : ∀ n, number n ≠ .null

end Fields

/-- A document gives the fields of an assignment, of each record in a way of its own. -/
inductive GivenBy (number : Int → Tree) : Tree → Prop
  | intro {engine limits : Option Tree} {t : Tree}
    (engine_given : GivesOptional Engine.names (a.engineFields number) engine)
    (limits_given : GivesOptional Limits.names (a.limitsFields number) limits)
    (records : Gives ["engine", "limits"] [engine, limits] t) : GivenBy number t

variable {a} {number : Int → Tree} {mayGoOn : Bool} {t : Tree}

theorem fieldOr_boolean (given : Option Bool) (default : Bool) :
    fieldOr Tree.asBoolean default (given.map .boolean) = some (given.getD default) := by
  cases given <;> rfl

theorem fieldOr_word32 (shows : ShowsNumbers number) (given : Option Int) (default : UInt32) :
    fieldOr word32 default (given.map number) =
      if ∀ n ∈ given, 0 ≤ n ∧ n < 2 ^ 32 then some (word given default) else none := by
  cases given with
  | none => simp [fieldOr, word]
  | some n =>
    simp only [Option.map_some, fieldOr, word32, shows.asNat UInt32.size n (by decide)]
    by_cases fits : 0 ≤ n ∧ n < 2 ^ 32
    · have fits' : 0 ≤ n ∧ n < (UInt32.size : Int) := fits
      rw [if_pos fits', if_pos (by simpa using fits)]
      rfl
    · have fits' : ¬ (0 ≤ n ∧ n < (UInt32.size : Int)) := fits
      rw [if_neg fits', if_neg (by simpa using fits)]
      rfl

theorem fieldOr_word64 (shows : ShowsNumbers number) (given : Option Int) :
    fieldOr optionalWord64 none (given.map number) =
      if ∀ n ∈ given, 0 ≤ n ∧ n < 2 ^ 64 then some (given.map fun n => UInt64.ofNat n.toNat)
      else none := by
  cases given with
  | none => simp [fieldOr]
  | some n =>
    have asNat := shows.asNat UInt64.size n (by decide)
    have optional : (number n).asOptionalNat UInt64.size =
        ((number n).asNat UInt64.size).map some := by
      have isSome := shows.ne_null n
      cases shown : number n <;> first | rfl | exact absurd shown isSome
    simp only [Option.map_some, fieldOr, optionalWord64, optional, asNat]
    by_cases fits : 0 ≤ n ∧ n < 2 ^ 64
    · have fits' : 0 ≤ n ∧ n < (UInt64.size : Int) := fits
      rw [if_pos fits', if_pos (by simpa using fits)]
      rfl
    · have fits' : ¬ (0 ≤ n ∧ n < (UInt64.size : Int)) := fits
      rw [if_neg fits', if_neg (by simpa using fits)]
      rfl

theorem bind_ite {α β : Type} {P : Prop} [Decidable P] (x : α) (f : α → Option β) :
    (if P then some x else none).bind f = if P then f x else none := by
  split <;> rfl

theorem engine_of_given (shows : ShowsNumbers number) {given : Option Tree}
    (gives : GivesOptional Engine.names (a.engineFields number) given) :
    fieldOr (Engine.ofTree mayGoOn) {} given =
      if ∀ n ∈ a.poolSize.toList ++ a.slotMb.toList ++ a.stackKb.toList, 0 ≤ n ∧ n < 2 ^ 32 then
        some a.settings.engine
      else none := by
  cases gives with
  | leftOut nothing =>
    simp only [engineFields, engineGiven, List.mem_cons, List.not_mem_nil, or_false,
      forall_eq_or_imp, forall_eq, Option.map_eq_none_iff] at nothing
    obtain ⟨pooling, poolSize, slotMb, metered, wasi, stackKb⟩ := nothing
    simp only [settings, pooling, poolSize, slotMb, metered, wasi, stackKb]
    rfl
  | @record t gives =>
    have fields := fields_of_gives gives mayGoOn rfl
    show Engine.ofTree mayGoOn t = _
    simp only [Engine.ofTree, fields, engineFields, engineGiven, Option.bind_eq_bind,
      Option.bind_some, fieldOr_boolean, fieldOr_word32 shows]
    simp only [bind_ite, List.forall_mem_append, Option.mem_toList, ite_and]
    rfl

theorem limits_of_given (shows : ShowsNumbers number) {given : Option Tree}
    (gives : GivesOptional Limits.names (a.limitsFields number) given) :
    fieldOr (Limits.ofTree mayGoOn) {} given =
      if (∀ n ∈ a.memoryMb, 0 ≤ n ∧ n < 2 ^ 32) ∧ ∀ n ∈ a.fuel, 0 ≤ n ∧ n < 2 ^ 64 then
        some a.settings.limits
      else none := by
  cases gives with
  | leftOut nothing =>
    simp only [limitsFields, limitsGiven, List.mem_cons, List.not_mem_nil, or_false,
      forall_eq_or_imp, forall_eq, Option.map_eq_none_iff] at nothing
    obtain ⟨memoryMb, fuel⟩ := nothing
    simp only [settings, memoryMb, fuel]
    rfl
  | @record t gives =>
    have fields := fields_of_gives gives mayGoOn rfl
    show Limits.ofTree mayGoOn t = _
    simp only [Limits.ofTree, fields, limitsFields, limitsGiven, Option.bind_eq_bind,
      Option.bind_some, fieldOr_word32 shows, fieldOr_word64 shows]
    simp only [bind_ite, ite_and]
    rfl

theorem ofTree_of_givenBy (shows : ShowsNumbers number) (given : a.GivenBy number t) :
    ofTree mayGoOn t =
      if (∀ n ∈ a.words, 0 ≤ n ∧ n < 2 ^ 32) ∧ ∀ n ∈ a.fuel, 0 ≤ n ∧ n < 2 ^ 64 then
        some a.settings
      else none := by
  obtain ⟨engine, limits, records⟩ := given
  have fields := fields_of_gives records mayGoOn rfl
  simp only [ofTree, fields, Option.bind_eq_bind, Option.bind_some, engine_of_given shows engine,
    limits_of_given shows limits, bind_ite, words]
  simp only [List.forall_mem_append, Option.mem_toList, ite_and]
  rfl

theorem ofTree_of_inRange (fits : a.InRange) (shows : ShowsNumbers number)
    (given : a.GivenBy number t) : ofTree mayGoOn t = some a.settings := by
  rw [ofTree_of_givenBy shows given, if_pos]
  refine ⟨fits.words, fun n asked => ⟨(fits.fuel n asked).1, ?_⟩⟩
  exact (fits.fuel n asked).2.trans (by decide)

theorem ofTree_of_outOfRange (misfits : a.OutOfRange) (shows : ShowsNumbers number)
    (given : a.GivenBy number t) : ofTree mayGoOn t = none := by
  rw [ofTree_of_givenBy shows given, if_neg]
  rintro ⟨words, fuel⟩
  rcases misfits with ⟨n, asked, misfit⟩ | ⟨n, asked, misfit⟩
  · have fits := words n asked
    omega
  · have fits := fuel n asked
    omega

end Assignment

end Settings

end ModuleHost
