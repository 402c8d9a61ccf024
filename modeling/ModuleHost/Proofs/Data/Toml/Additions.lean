import Mathlib.Logic.Function.Basic
import Mathlib.Tactic
import ModuleHost.Data.Toml.Document
import ModuleHost.Proofs.Except

namespace ModuleHost.Data.Toml

/-- A value, if it could be read, for a key of a table or of a table in it. -/
structure Addition where
  group : Option String
  key : String
  outcome : Except Fault Value

namespace Addition

def add (entries : Entries) (a : Addition) : Except Fault Entries := do
  entries.addDotted a.group.toList a.key (← a.outcome)

def Readable (a : Addition) : Prop :=
  ∃ v, a.outcome = .ok v

variable (as : List Addition)

def direct : List Addition :=
  as.filter (·.group = none)

def under (group : String) : List Addition :=
  as.filter (·.group = some group)

def entries : Entries :=
  as.filterMap fun a => a.outcome.toOption.map (a.key, ·)

def found (name : String) : Option Value :=
  match (direct as).find? (·.key = name) with
  | some a => a.outcome.toOption
  | none =>
    if under as name = [] then none
    else some (.table .dotted (entries (under as name)))

def Unused (name : String) : Prop :=
  ∀ a ∈ as, a.group ≠ some name ∧ (a.group = none → a.key ≠ name)

structure Distinct : Prop where
  direct : ((direct as).map key).Nodup
  under : ∀ group, ((under as group).map key).Nodup
  apart : ∀ a ∈ Addition.direct as, Addition.under as a.key = []

end Addition

structure Holds (entries : Entries) (content : String → Option Value) : Prop where
  nodup : (entries.map Prod.fst).Nodup
  lookup : ∀ name, entries.lookup name = content name

section Tables

variable {es : Entries} {content : String → Option Value} {key : String} {v : Value}

theorem holds_nil : Holds [] fun _ => none :=
  ⟨.nil, fun _ => rfl⟩

theorem lookup_cons (name : String) (e : String × Value) :
    List.lookup name (e :: es) = if name = e.1 then some e.2 else es.lookup name := by
  rw [List.lookup_cons]
  by_cases same : name = e.1
  · simp [same]
  · rw [beq_false_of_ne same, if_neg same]

theorem lookup_eq_none_iff : es.lookup key = none ↔ key ∉ es.map Prod.fst := by
  induction es with
  | nil => simp
  | cons e es ih =>
    rw [lookup_cons, List.map_cons, List.mem_cons]
    by_cases same : key = e.1
    · simp [same]
    · rw [if_neg same, ih]
      simp [same]

theorem Holds.append (holds : Holds es content) (fresh : content key = none) :
    Holds (es ++ [(key, v)]) (Function.update content key (some v)) where
  nodup := by
    have absent := lookup_eq_none_iff.mp ((holds.lookup key).trans fresh)
    rw [List.map_append, List.map_singleton, List.nodup_append]
    refine ⟨holds.nodup, List.nodup_singleton key, fun name member other isKey same => ?_⟩
    obtain rfl := List.mem_singleton.mp isKey
    exact absent (same ▸ member)
  lookup name := by
    rw [List.lookup_append, holds.lookup, lookup_cons]
    by_cases same : name = key
    · simp [same, fresh]
    · simp [same]

theorem lookup_replace (name : String) :
    (es.replace key v).lookup name =
      if name = key then (es.lookup key).map fun _ => v else es.lookup name := by
  induction es with
  | nil => simp [Entries.replace]
  | cons e es ih =>
    have parts : Entries.replace (e :: es) key v =
        (if e.1 = key then (key, v) else e) :: Entries.replace es key v := rfl
    rw [parts, lookup_cons, ih, lookup_cons, lookup_cons]
    by_cases here : e.1 = key
    · by_cases same : name = key <;> simp [here, same]
    · have there : key ≠ e.1 := fun same => here same.symm
      by_cases same : name = key <;> simp [here, there, same]

theorem Holds.replace (holds : Holds es content) (known : content key ≠ none) :
    Holds (es.replace key v) (Function.update content key (some v)) where
  nodup := by
    have keys : (es.replace key v).map Prod.fst = es.map Prod.fst := by
      rw [Entries.replace, List.map_map]
      refine List.map_congr_left fun e _ => ?_
      by_cases same : e.1 = key <;> simp [same]
    rw [keys]
    exact holds.nodup
  lookup name := by
    rw [lookup_replace, holds.lookup, holds.lookup]
    by_cases same : name = key
    · obtain ⟨old, isOld⟩ := Option.ne_none_iff_exists'.mp known
      simp [same, isOld]
    · simp [same]

end Tables

namespace Addition

variable {as : List Addition} {a : Addition} {v : Value} {es : Entries}
  {group name : String}

theorem mem_direct : a ∈ direct as ↔ a ∈ as ∧ a.group = none := by
  simp [direct]

theorem mem_under : a ∈ under as group ↔ a ∈ as ∧ a.group = some group := by
  simp [under]

theorem direct_append (as bs : List Addition) : direct (as ++ bs) = direct as ++ direct bs :=
  List.filter_append ..

theorem under_append (as bs : List Addition) (group : String) :
    under (as ++ bs) group = under as group ++ under bs group :=
  List.filter_append ..

theorem Distinct.of_append {bs : List Addition} (distinct : Distinct (as ++ bs)) :
    Distinct as where
  direct := by
    have all := distinct.direct
    rw [direct_append, List.map_append] at all
    exact (List.nodup_append.mp all).1
  under group := by
    have all := distinct.under group
    rw [under_append, List.map_append] at all
    exact (List.nodup_append.mp all).1
  apart b member := by
    have all := distinct.apart b (by rw [direct_append]; exact List.mem_append_left _ member)
    rw [under_append] at all
    exact (List.append_eq_nil_iff.mp all).1

theorem direct_singleton (isDirect : a.group = none) : direct [a] = [a] := by
  simp [direct, isDirect]

theorem under_singleton (isUnder : a.group = some group) : under [a] group = [a] := by
  simp [under, isUnder]

theorem direct_eq_self (all : ∀ a ∈ as, a.group = none) : direct as = as :=
  List.filter_eq_self.mpr fun a member => decide_eq_true (all a member)

theorem under_eq_nil (all : ∀ a ∈ as, a.group = none) (group : String) : under as group = [] :=
  List.filter_eq_nil_iff.mpr fun a member => by simp [all a member]

theorem distinct_of_direct (all : ∀ a ∈ as, a.group = none) (nodup : (as.map key).Nodup) :
    Distinct as where
  direct := by rwa [direct_eq_self all]
  under group := by
    rw [under_eq_nil all]
    exact .nil
  apart a _ := under_eq_nil all a.key

theorem map_fst_entries_sublist (as : List Addition) :
    ((entries as).map Prod.fst).Sublist (as.map key) := by
  induction as with
  | nil => exact .slnil
  | cons a as ih =>
    cases reads : a.outcome with
    | error fault =>
      have skipped : entries (a :: as) = entries as := by simp [entries, reads, Except.toOption]
      rw [skipped]
      exact ih.cons _
    | ok v =>
      have added : entries (a :: as) = (a.key, v) :: entries as := by
        simp [entries, reads, Except.toOption]
      rw [added]
      exact ih.cons_cons _

theorem found_key_of_distinct (distinct : Distinct (as ++ [a])) (isDirect : a.group = none) :
    (direct as).find? (·.key = a.key) = none ∧ under as a.key = [] := by
  have all := distinct.direct
  rw [direct_append, direct_singleton isDirect, List.map_append] at all
  have apart := distinct.apart a (by rw [direct_append, direct_singleton isDirect]; simp)
  rw [under_append] at apart
  refine ⟨List.find?_eq_none.mpr fun b member same => ?_, (List.append_eq_nil_iff.mp apart).1⟩
  have same : b.key = a.key := by simpa using same
  exact (List.nodup_append.mp all).2.2 _ (List.mem_map_of_mem member) a.key (by simp) same

theorem found_group_of_distinct (distinct : Distinct (as ++ [a]))
    (isUnder : a.group = some group) :
    (direct as).find? (·.key = group) = none ∧ a.key ∉ (under as group).map key := by
  have all := distinct.under group
  rw [under_append, under_singleton isUnder, List.map_append] at all
  refine ⟨List.find?_eq_none.mpr fun b member same => ?_, fun member => ?_⟩
  · have same : b.key = group := by simpa using same
    have apart := distinct.apart b (by rw [direct_append]; exact List.mem_append_left _ member)
    rw [under_append, same, under_singleton isUnder] at apart
    exact absurd (List.append_eq_nil_iff.mp apart).2 (by simp)
  · exact (List.nodup_append.mp all).2.2 _ member a.key (by simp) rfl

theorem found_of_unused (unused : Unused as name) : found as name = none := by
  have absent : (direct as).find? (·.key = name) = none := by
    refine List.find?_eq_none.mpr fun a member same => ?_
    obtain ⟨member, isDirect⟩ := mem_direct.mp member
    exact (unused a member).2 isDirect (by simpa using same)
  have apart : under as name = [] := by
    refine List.filter_eq_nil_iff.mpr fun a member same => ?_
    exact (unused a member).1 (by simpa using same)
  rw [found, absent, apart]
  rfl

theorem found_append_singleton (distinct : Distinct (as ++ [a])) (reads : a.outcome = .ok v) :
    found (as ++ [a]) = match a.group with
      | none => Function.update (found as) a.key (some v)
      | some group => Function.update (found as) group
        (some (.table .dotted (entries (under as group) ++ [(a.key, v)]))) := by
  funext name
  cases isIn : a.group with
  | none =>
    obtain ⟨absent, apart⟩ := found_key_of_distinct distinct isIn
    have here : under [a] name = [] := by simp [under, isIn]
    by_cases same : name = a.key
    · subst same
      simp [found, direct_append, direct_singleton isIn, absent, reads, Except.toOption]
    · have other : a.key ≠ name := fun eq => same eq.symm
      simp [found, direct_append, direct_singleton isIn, under_append, here, same, other]
  | some group =>
    obtain ⟨absent, -⟩ := found_group_of_distinct distinct isIn
    have here : direct [a] = [] := by simp [direct, isIn]
    by_cases same : name = group
    · subst same
      simp [found, direct_append, here, absent, under_append, under_singleton isIn, entries, reads,
        Except.toOption]
    · have there : under [a] name = [] := by
        have other : group ≠ name := fun eq => same eq.symm
        simp [under, isIn, other]
      simp [found, direct_append, here, under_append, there, same]

theorem add_holds (distinct : Distinct (as ++ [a])) (reads : a.outcome = .ok v)
    (holds : Holds es (found as)) :
    ∃ es', a.add es = .ok es' ∧ Holds es' (found (as ++ [a])) := by
  rw [found_append_singleton distinct reads, add, reads]
  cases isIn : a.group with
  | none =>
    obtain ⟨absent, apart⟩ := found_key_of_distinct distinct isIn
    have fresh : found as a.key = none := by
      simp [found, absent, apart]
    refine ⟨es ++ [(a.key, v)], ?_, holds.append fresh⟩
    show es.add a.key v = _
    rw [Entries.add, holds.lookup, fresh]
  | some group =>
    obtain ⟨absent, fresh⟩ := found_group_of_distinct distinct isIn
    show ∃ es', es.addDotted [group] a.key v = _ ∧ Holds es' (Function.update (found as) group
      (some (.table .dotted (entries (under as group) ++ [(a.key, v)]))))
    -- The first addition to an inner table makes it, and later ones find it there.
    by_cases first : under as group = []
    · have fresh : found as group = none := by
        simp [found, absent, first]
      rw [Entries.addDotted, holds.lookup, fresh, first]
      exact ⟨_, rfl, holds.append fresh⟩
    · have known : found as group = some (.table .dotted (entries (under as group))) := by
        simp [found, absent, first]
      have unknown : (entries (under as group)).lookup a.key = none := by
        refine lookup_eq_none_iff.mpr fun member => fresh ?_
        exact (map_fst_entries_sublist _).subset member
      rw [Entries.addDotted, holds.lookup, known]
      refine ⟨_, ?_, holds.replace (by simp [known])⟩
      show (Entries.add (entries (under as group)) a.key v >>= _) = _
      rw [Entries.add, unknown]
      rfl

theorem foldlM_add (distinct : Distinct as) (readable : ∀ a ∈ as, Readable a) :
    ∃ es, as.foldlM add [] = .ok es ∧ Holds es (found as) := by
  induction as using List.reverseRecOn with
  | nil => exact ⟨[], rfl, holds_nil⟩
  | append_singleton as a ih =>
    obtain ⟨es, built, holds⟩ := ih distinct.of_append fun b member =>
      readable b (List.mem_append_left _ member)
    obtain ⟨v, reads⟩ := readable a (by simp)
    obtain ⟨es', added, holds⟩ := add_holds distinct reads holds
    refine ⟨es', ?_, holds⟩
    rw [List.foldlM_append, built]
    show (a.add es >>= pure) = _
    rw [added]
    rfl

theorem readable_of_foldlM {es' : Entries} (added : as.foldlM add es = .ok es') :
    ∀ a ∈ as, Readable a := by
  intro a member
  by_contra unread
  have fails (es : Entries) : ∃ fault, a.add es = .error fault := by
    cases outcome : a.outcome with
    | error fault => exact ⟨fault, by rw [add, outcome]; rfl⟩
    | ok v => exact absurd ⟨v, outcome⟩ unread
  obtain ⟨fault, failed⟩ := foldlM_eq_error es ⟨a, member, fails⟩
  cases added.symm.trans failed

end Addition

end ModuleHost.Data.Toml
