import Mathlib.Tactic
import ModuleHost.Data.Toml.Document
import ModuleHost.Proofs.Except
import ModuleHost.Proofs.List

/-!
# Written keys and values

A text spells a key or a value if the reader takes just that text for it, before anything that may
follow (`SpellsKey`, `Spells`). Bare keys, booleans and all the numerals of integers are spelled as
one expects.
-/

namespace ModuleHost.Data.Toml

def Stops (stops : List Char) (rest : List Char) : Prop :=
  ∃ c ∈ stops, ∃ more, skipBlanks rest = c :: more

def Ends (rest : List Char) : Prop :=
  Stops ['\n', ',', ']', '\x7d', '#'] rest

def EndsKey (rest : List Char) : Prop :=
  Stops ['=', '.', ']'] rest

def Starts (text : List Char) : Prop :=
  ∃ c more, text = c :: more ∧
    isBlank c = false ∧ c ≠ '#' ∧ c ≠ '\n' ∧ c ≠ '\r' ∧ c ≠ ']' ∧ c ≠ '\x7d'

def SpellsKey (text : List Char) (key : String) : Prop :=
  ∀ rest, EndsKey rest → simpleKey (text ++ rest) = .ok (key, rest)

/-- The reader makes a value of a text, or a fault, if it may go `depth` deep at least. -/
def Spells (depth : Nat) (text : List Char) (outcome : Except Fault Value) : Prop :=
  ∀ d rest, depth ≤ d → Ends rest → value d (text ++ rest) = outcome.map (·, rest)

section

variable {text rest : List Char}

theorem skipBlanks_of_starts (starts : Starts text) (rest : List Char) :
    skipBlanks (text ++ rest) = text ++ rest := by
  obtain ⟨c, more, rfl, blank, -⟩ := starts
  simp [skipBlanks, blank]

theorem skipComment_cons {c : Char} (other : c ≠ '#') (more : List Char) :
    skipComment (c :: more) = c :: more := by
  unfold skipComment
  split
  · rename_i same
    exact absurd (List.cons.inj same).1 other
  · rfl

theorem lineBreak_cons {c : Char} (feed : c ≠ '\n') (carriage : c ≠ '\r') (more : List Char) :
    lineBreak (c :: more) = none := by
  unfold lineBreak
  split
  · rename_i same
    exact absurd (List.cons.inj same).1 feed
  · rename_i same
    exact absurd (List.cons.inj same).1 carriage
  · rfl

theorem Stops.head {stops : List Char} (here : Stops stops rest) :
    ∃ c more, rest = c :: more ∧ (isBlank c = true ∨ c ∈ stops) := by
  obtain ⟨c, member, more, skipped⟩ := here
  cases rest with
  | nil => cases skipped
  | cons first others =>
    refine ⟨first, others, rfl, ?_⟩
    by_cases blank : isBlank first = true
    · exact .inl blank
    · rw [skipBlanks, List.dropWhile_cons_of_neg blank] at skipped
      obtain rfl := (List.cons.inj skipped).1
      exact .inr member

theorem takeWhile_of_stops {stops : List Char} {p : Char → Bool}
    (all : ∀ c ∈ text, p c = true) (here : Stops stops rest)
    (blank : p ' ' = false ∧ p '\t' = false) (stop : stops.any p = false) :
    (text ++ rest).takeWhile p = text ∧ (text ++ rest).dropWhile p = rest := by
  obtain ⟨c, more, rfl, head⟩ := here.head
  have fails : p c = false := by
    rcases head with isBlank | member
    · simp only [Toml.isBlank, Bool.or_eq_true, decide_eq_true_eq] at isBlank
      rcases isBlank with rfl | rfl
      · exact blank.1
      · exact blank.2
    · exact Bool.eq_false_iff.mpr (List.any_eq_false.mp stop c member)
  exact span_append all fun x first => Option.some.inj first ▸ fails

end

theorem spellsKey_bare {key : String} (named : key.toList ≠ [])
    (bare : key.toList.all isBare = true) : SpellsKey key.toList key := by
  intro rest ends
  have bare := List.all_eq_true.mp bare
  obtain ⟨taken, left⟩ := takeWhile_of_stops bare ends (by decide) (by decide)
  obtain ⟨first, others, same⟩ := List.exists_cons_of_ne_nil named
  have bareFirst : isBare first = true := bare first (same ▸ .head others)
  have fallsThrough : simpleKey (key.toList ++ rest) =
      if (key.toList ++ rest).takeWhile isBare |>.isEmpty then
        .error (unexpectedHere (key.toList ++ rest))
      else .ok (String.ofList ((key.toList ++ rest).takeWhile isBare),
        (key.toList ++ rest).dropWhile isBare) := by
    unfold simpleKey
    split
    · rename_i quoted
      rw [same] at quoted
      cases quoted
      exact absurd bareFirst (by decide)
    · rename_i quoted
      rw [same] at quoted
      cases quoted
      exact absurd bareFirst (by decide)
    · rfl
  rw [fallsThrough, taken, left, if_neg (by simpa using named), String.ofList_toList]

theorem SpellsKey.starts {text : List Char} {key : String} (spells : SpellsKey text key) :
    Starts text ∧ text.head? ≠ some '[' ∧ text.head? ≠ some '\ufeff' := by
  have reads := spells ['='] ⟨'=', .head _, [], rfl⟩
  cases text with
  | nil => cases reads
  | cons c more =>
    have quotedOrBare : c = '"' ∨ c = '\'' ∨ isBare c = true := by
      by_contra neither
      simp only [not_or] at neither
      obtain ⟨double, single, bare⟩ := neither
      rw [List.cons_append, simpleKey.eq_3 _ (by rintro _ ⟨⟩; exact double rfl)
        (by rintro _ ⟨⟩; exact single rfl)] at reads
      simp [bare] at reads
    have other (x : Char) (isOther : x ≠ '"' ∧ x ≠ '\'' ∧ isBare x = false) : c ≠ x := by
      rintro rfl
      rcases quotedOrBare with same | same | bare
      · exact isOther.1 same
      · exact isOther.2.1 same
      · exact absurd (bare.symm.trans isOther.2.2) (by decide)
    have blank : isBlank c = false := by
      simp only [isBlank, other ' ' (by decide), other '\t' (by decide)]
      rfl
    refine ⟨⟨c, more, rfl, blank, other _ (by decide), other _ (by decide), other _ (by decide),
      other _ (by decide), other _ (by decide)⟩, ?_, ?_⟩
    · simpa using other '[' (by decide)
    · simpa using other '\ufeff' (by decide)

section

variable {text : List Char} {n : Int}

theorem value_of_starts_numeric {c : Char} {more : List Char} (numeric : isNumeric c = true)
    (d : Nat) : value d (c :: more) = scalar (c :: more) := by
  have other (x : Char) (isOther : isNumeric x = false) : c ≠ x := by
    rintro rfl
    exact absurd (numeric.symm.trans isOther) (by decide)
  unfold value
  split
  · rename_i same
    cases same
    exact absurd rfl (other '"' (by decide))
  · rename_i same
    cases same
    exact absurd rfl (other '\'' (by decide))
  · rename_i same
    cases same
    exact absurd rfl (other '[' (by decide))
  · rename_i same
    cases same
    exact absurd rfl (other '\x7b' (by decide))
  · rfl

theorem fixedDigits_append {count v : Nat} {cs left : List Char}
    (taken : fixedDigits count cs = some (v, left)) (rest : List Char) :
    fixedDigits count (cs ++ rest) = some (v, left ++ rest) := by
  simp only [fixedDigits, Option.ite_none_right_eq_some, Option.some.injEq, Prod.mk.injEq]
    at taken ⊢
  obtain ⟨⟨enough, digits⟩, rfl, rfl⟩ := taken
  have long : count ≤ cs.length := by
    simpa using enough
  rw [List.take_append_of_le_length long, List.drop_append_of_le_length long]
  exact ⟨⟨enough, digits⟩, rfl, rfl⟩

theorem after_append {separator : Char} {cs left : List Char}
    (taken : after separator cs = some left) (rest : List Char) :
    after separator (cs ++ rest) = some (left ++ rest) := by
  cases cs with
  | nil => cases taken
  | cons c cs =>
    simp only [after, Option.ite_none_right_eq_some, Option.some.injEq] at taken
    obtain ⟨rfl, rfl⟩ := taken
    simp [after]

theorem date_append {cs left : List Char} (taken : date cs = some left) (rest : List Char) :
    date (cs ++ rest) = some (left ++ rest) := by
  simp only [date, Option.bind_eq_bind, Option.bind_eq_some_iff, Prod.exists] at taken ⊢
  obtain ⟨year, cs₁, hasYear, cs₂, mark, month, cs₃, hasMonth, cs₄, mark', day, cs₅, hasDay,
    valid⟩ := taken
  simp only [Option.ite_none_right_eq_some, Option.some.injEq] at valid
  obtain ⟨valid, rfl⟩ := valid
  exact ⟨year, _, fixedDigits_append hasYear rest, _, after_append mark rest, month, _,
    fixedDigits_append hasMonth rest, _, after_append mark' rest, day, _,
    fixedDigits_append hasDay rest, if_pos valid⟩

theorem not_isDateTime_of_date (isDate : date text = some []) :
    isDateTime (text ++ [' ']) = false := by
  rw [isDateTime, date_append isDate]
  rfl

theorem numericText_of_ends (numeric : ∀ c ∈ text, isNumeric c = true) {rest : List Char}
    (ends : Ends rest) : numericText (text ++ rest) = (text, rest) := by
  obtain ⟨taken, left⟩ := takeWhile_of_stops numeric ends (by decide) (by decide)
  simp only [numericText, taken, left]
  split
  · rename_i more
    have ends : Ends more := ends
    have nothing : ([] ++ more).takeWhile isNumeric = [] :=
      (takeWhile_of_stops (by simp) ends (by decide) (by decide)).1
    rw [List.nil_append] at nothing
    rw [nothing, if_neg]
    rintro ⟨isDate, joined⟩
    exact absurd (joined.symm.trans (not_isDateTime_of_date isDate)) (by decide)
  · rfl

theorem spells_scalar {outcome : Except Fault Value} (written : text ≠ [])
    (numeric : ∀ c ∈ text, isNumeric c = true)
    (reads : ∀ rest, Ends rest → scalar (text ++ rest) = outcome.map (·, rest)) :
    Spells 0 text outcome := by
  intro d rest _ ends
  obtain ⟨c, more, rfl⟩ := List.exists_cons_of_ne_nil written
  rw [List.cons_append, value_of_starts_numeric (numeric c (.head more)), ← List.cons_append]
  exact reads rest ends

theorem scalar_of_ends (numeric : ∀ c ∈ text, isNumeric c = true)
    (other : text ≠ [] ∧ text ≠ "true".toList ∧ text ≠ "false".toList) {rest : List Char}
    (ends : Ends rest) :
    scalar (text ++ rest) =
      match integer text with
      | some n => .ok (.integer n, rest)
      | none =>
        match float text with
        | some bits => .ok (.float bits, rest)
        | none =>
          if isDateTime text then .ok (.dateTime, rest)
          else .error (.badNumber (String.ofList text)) := by
  have ne {s : String} (differs : text ≠ s.toList) : String.ofList text ≠ s := by
    rintro rfl
    exact differs String.toList_ofList.symm
  unfold scalar
  simp only [numericText_of_ends numeric ends]
  split
  · rename_i same
    exact absurd same (ne other.1)
  · rename_i same
    exact absurd same (ne other.2.1)
  · rename_i same
    exact absurd same (ne other.2.2)
  · rfl

def booleanText (b : Bool) : List Char :=
  if b then "true".toList else "false".toList

theorem all_booleanText (b : Bool) : (booleanText b).all isNumeric = true := by
  cases b <;> decide

theorem spells_boolean (b : Bool) : Spells 0 (booleanText b) (.ok (.boolean b)) := by
  have numeric := List.all_eq_true.mp (all_booleanText b)
  refine spells_scalar (by cases b <;> decide) numeric fun rest ends => ?_
  unfold scalar
  simp only [numericText_of_ends numeric ends]
  cases b <;> rfl

end

end ModuleHost.Data.Toml
