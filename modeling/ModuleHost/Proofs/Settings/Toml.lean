import ModuleHost.Proofs.Data.Toml.Documents
import ModuleHost.Proofs.Settings.Assignment

namespace ModuleHost

namespace Data.Toml

open Data.Tree (Gives GivesOptional)

/-- What a value for a field is read as: itself, or nothing if it is a number beyond sixty-four
bits. -/
inductive Field : Tree → Except Fault Value → Prop
  | read (v : Value) : Field v.toTree (.ok v)
  | beyond {n : Int} (far : n < -2 ^ 63 ∨ 2 ^ 63 ≤ n) :
    Field (.integer n) (.error (.badNumber (String.ofList (Digits.decimal n))))

structure Record (names : List String) (fields : List (Option Tree)) (as : List Addition) :
    Prop where
  given : List.Forall₂ (fun name field => Option.Rel Field field
    (((Addition.direct as).find? (·.key = name)).map Addition.outcome)) names fields
  apart : ∀ name ∈ names, Addition.under as name = []
  others : ∀ a ∈ as, (a.group = none → a.key ∉ names) → a.Readable

inductive InlineRecord {depth : Nat} (names : List String) (fields : List (Option Tree)) :
    Written (depth + 1) → Prop
  | table (ps : List (Pair depth)) (distinct : Addition.Distinct (ps.map Pair.addition))
    (record : Record names fields (ps.map Pair.addition)) : InlineRecord names fields (.inline ps)
  | array (items : List (Item depth)) (trees : List Tree) (rest : Nat)
    (leading : fields = trees.map some ++ List.replicate rest none)
    (shown : List.Forall₂ Field trees (items.map Item.outcome)) :
    InlineRecord names fields (.array items)

def Addition.inner (as : List Addition) (group : String) : List Addition :=
  (under as group).map fun a => { a with group := none }

inductive Document.Gives (d : Document) (name : String) (names : List String)
    (fields : List (Option Tree)) : Prop
  | leftOut (nothing : ∀ f ∈ fields, f = none) (unused : Addition.Unused d.additions name)
    (unopened : ∀ s ∈ d.sections, s.name.name ≠ name)
  | opened {s : Section} (isSection : s ∈ d.sections) (named : s.name.name = name)
    (record : Record names fields s.additions)
  | dotted (used : Addition.under d.additions name ≠ [])
    (record : Record names fields (Addition.inner d.additions name))
  | inline {e : Entry} (isTop : e ∈ d.top) (isDirect : e.group = none)
    (named : e.pair.key.name = name) (record : @InlineRecord 78 names fields e.pair.value)

/-! ## Trees -/

section Trees

variable {es : Entries} {content : String → Option Value} {names : List String}

theorem entriesToTrees_eq_map (es : Entries) :
    entriesToTrees es = es.map fun e => (some e.1, e.2.toTree) := by
  induction es with
  | nil => rw [entriesToTrees, List.map_nil]
  | cons e es ih => rw [entriesToTrees, ih, List.map_cons]

theorem listToTrees_eq_map (vs : List Value) : listToTrees vs = vs.map Value.toTree := by
  induction vs with
  | nil => rw [listToTrees, List.map_nil]
  | cons v vs ih => rw [listToTrees, ih, List.map_cons]

theorem filter_entriesToTrees (nodup : (es.map Prod.fst).Nodup) (name : String) :
    (entriesToTrees es).filter (fun e => e.1 = some name) =
      (((es.lookup name).map Value.toTree).map (some name, ·)).toList := by
  rw [entriesToTrees_eq_map]
  induction es with
  | nil => rfl
  | cons e es ih =>
    obtain ⟨fresh, nodup⟩ := List.nodup_cons.mp nodup
    rw [List.map_cons, List.filter_cons, ih nodup, lookup_cons]
    by_cases same : name = e.1
    · have absent := lookup_eq_none_iff.mpr fresh
      simp [same, absent]
    · have other : e.1 ≠ name := fun eq => same eq.symm
      simp [same, other]

theorem gives_of_holds (holds : Holds es content) (names : List String) :
    Gives names (names.map fun name => (content name).map Value.toTree)
      (.table (entriesToTrees es)) := by
  refine .table ?_ (List.forall₂_map_right_iff.mpr (List.forall₂_same.mpr fun name _ => ?_))
  · rw [entriesToTrees_eq_map]
    exact List.forall_mem_map.mpr fun _ _ => rfl
  · rw [filter_entriesToTrees holds.nodup, holds.lookup]

end Trees

/-! ## Records -/

section Records

variable {names : List String} {fields : List (Option Tree)} {as : List Addition} {name : String}

theorem Field.of_ok {t : Tree} {v : Value} (field : Field t (.ok v)) : v.toTree = t := by
  cases field
  rfl

def Beyond (fields : List (Option Tree)) : Prop :=
  ∃ n, some (.integer n) ∈ fields ∧ (n < -2 ^ 63 ∨ 2 ^ 63 ≤ n)

theorem Record.fields_eq (record : Record names fields as) (readable : ∀ a ∈ as, a.Readable) :
    fields = names.map fun name => (Addition.found as name).map Value.toTree := by
  obtain ⟨given, apart, -⟩ := record
  induction given with
  | nil => rfl
  | @cons name field names fields here given ih =>
    obtain ⟨first, apart⟩ := List.forall_mem_cons.mp apart
    rw [List.map_cons, ← ih apart]
    refine congrArg (· :: fields) ?_
    cases added : (Addition.direct as).find? (·.key = name) with
    | none =>
      rw [added] at here
      cases here
      rw [Addition.found, added, first]
      rfl
    | some a =>
      obtain ⟨v, reads⟩ := readable a (List.mem_of_mem_filter (List.mem_of_find?_eq_some added))
      rw [added, Option.map_some, reads] at here
      cases here with
      | some field =>
        rw [← field.of_ok, Addition.found, added]
        simp [reads, Except.toOption]

theorem Record.gives {es : Entries} (record : Record names fields as)
    (readable : ∀ a ∈ as, a.Readable) (holds : Holds es (Addition.found as)) :
    Gives names fields (.table (entriesToTrees es)) := by
  rw [record.fields_eq readable]
  exact gives_of_holds holds names

theorem find?_direct (distinct : Addition.Distinct as) {a : Addition} (member : a ∈ as)
    (isDirect : a.group = none) : (Addition.direct as).find? (·.key = a.key) = some a := by
  have member := Addition.mem_direct.mpr ⟨member, isDirect⟩
  have nodup := distinct.direct
  generalize Addition.direct as = bs at member nodup
  induction bs with
  | nil => cases member
  | cons b bs ih =>
    obtain ⟨fresh, nodup⟩ := List.nodup_cons.mp nodup
    rcases List.mem_cons.mp member with rfl | later
    · simp
    · have other : b.key ≠ a.key := fun same =>
        fresh (List.mem_map.mpr ⟨a, later, same.symm⟩)
      simpa [other] using ih later nodup

theorem Record.beyond (record : Record names fields as) (distinct : Addition.Distinct as)
    (unreadable : ¬ ∀ a ∈ as, a.Readable) : Beyond fields := by
  push Not at unreadable
  obtain ⟨a, member, unread⟩ := unreadable
  have known : ¬ (a.group = none → a.key ∉ names) := fun other =>
    unread (record.others a member other)
  push Not at known
  obtain ⟨isDirect, isKnown⟩ := known
  obtain ⟨field, isField, here⟩ := exists_of_forall₂ record.given isKnown
  rw [find?_direct distinct member isDirect, Option.map_some] at here
  cases here with
  | some here =>
    cases outcome : a.outcome with
    | ok v => exact absurd ⟨v, outcome⟩ unread
    | error fault =>
      rw [outcome] at here
      cases here with
      | beyond far => exact ⟨_, isField, far⟩

/-! ## Inner tables -/

theorem Addition.group_of_mem_inner {a : Addition} (member : a ∈ inner as name) :
    a.group = none := by
  obtain ⟨b, -, rfl⟩ := List.mem_map.mp member
  rfl

theorem Addition.distinct_inner (distinct : Distinct as) (name : String) :
    Distinct (inner as name) := by
  refine distinct_of_direct (fun a => group_of_mem_inner) ?_
  rw [inner, List.map_map]
  exact distinct.under name

theorem Addition.entries_of_foldlM {es es' : Entries} (all : ∀ a ∈ as, a.group = none)
    (added : as.foldlM add es = .ok es') : es' = es ++ entries as := by
  induction as generalizing es with
  | nil =>
    cases added
    exact (List.append_nil _).symm
  | cons a as ih =>
    obtain ⟨isDirect, others⟩ := List.forall_mem_cons.mp all
    rw [List.foldlM_cons] at added
    obtain ⟨es₁, first, rest⟩ := bind_eq_ok.mp added
    obtain ⟨v, reads, adds⟩ := bind_eq_ok.mp first
    rw [isDirect] at adds
    have adds : es.add a.key v = .ok es₁ := adds
    have here : es₁ = es ++ [(a.key, v)] := by
      unfold Entries.add at adds
      split at adds
      · cases adds
        rfl
      · cases adds
    have more : entries (a :: as) = (a.key, v) :: entries as := by
      simp [entries, reads, Except.toOption]
    rw [ih others rest, here, more]
    simp

theorem Addition.entries_inner (as : List Addition) (name : String) :
    entries (inner as name) = entries (under as name) := by
  rw [entries, entries, inner, List.filterMap_map]
  rfl

theorem Record.gives_inner (record : Record names fields (Addition.inner as name))
    (distinct : Addition.Distinct as) (readable : ∀ a ∈ as, a.Readable) :
    Gives names fields (.table (entriesToTrees (Addition.entries (Addition.under as name)))) := by
  have readable : ∀ a ∈ Addition.inner as name, a.Readable := by
    intro a member
    obtain ⟨b, isUnder, rfl⟩ := List.mem_map.mp member
    exact readable b (List.mem_of_mem_filter isUnder)
  obtain ⟨es, added, holds⟩ :=
    Addition.foldlM_add (Addition.distinct_inner distinct name) readable
  have same := Addition.entries_of_foldlM (fun a => Addition.group_of_mem_inner) added
  rw [← Addition.entries_inner]
  rw [List.nil_append] at same
  exact same ▸ record.gives readable holds

/-! ## Inline records -/

section Inline

variable {depth : Nat} {w : Written (depth + 1)}

theorem inline_outcome (ps : List (Pair depth)) :
    (Written.inline ps).outcome =
      ((ps.map Pair.addition).foldlM Addition.add []).map (.table .inline) := by
  rw [List.foldlM_map]
  rfl

theorem InlineRecord.gives {v : Value} (record : InlineRecord names fields w)
    (reads : w.outcome = .ok v) : Gives names fields v.toTree := by
  cases record with
  | table ps distinct record =>
    rw [inline_outcome] at reads
    obtain ⟨es', added, rfl⟩ := map_eq_ok.mp reads
    have readable := Addition.readable_of_foldlM added
    obtain ⟨es, added', holds⟩ := Addition.foldlM_add distinct readable
    obtain rfl := Except.ok.inj (added'.symm.trans added)
    exact record.gives readable holds
  | array items trees rest leading shown =>
    obtain ⟨vs, all, rfl⟩ := map_eq_ok.mp reads
    have shown : trees = vs.map Value.toTree := by
      have each := forall₂_of_mapM all
      clear all leading reads
      induction each generalizing trees with
      | nil =>
        cases shown
        rfl
      | cons here each ih =>
        rw [List.map_cons, here] at shown
        cases shown with
        | cons field shown => rw [List.map_cons, ih _ shown, field.of_ok]
    rw [Value.toTree, listToTrees_eq_map, ← shown]
    exact .array rest leading

theorem InlineRecord.beyond {fault : Fault} (record : InlineRecord names fields w)
    (fails : w.outcome = .error fault) : Beyond fields := by
  cases record with
  | table ps distinct record =>
    refine record.beyond distinct fun readable => ?_
    obtain ⟨es, added, -⟩ := Addition.foldlM_add distinct readable
    rw [inline_outcome, added] at fails
    cases fails
  | array items trees rest leading shown =>
    obtain ⟨i, member, failed⟩ := exists_of_mapM_eq_error (map_eq_error.mp fails)
    obtain ⟨t, isShown, field⟩ := exists_of_forall₂ shown.flip (List.mem_map_of_mem member)
    rw [failed] at field
    cases field with
    | beyond far =>
      refine ⟨_, ?_, far⟩
      rw [leading]
      exact List.mem_append_left _ (List.mem_map_of_mem isShown)

end Inline

end Records

/-! ## Documents -/

section Documents

variable {d : Document} {name : String} {names : List String} {fields : List (Option Tree)}
  {as : List Addition}

theorem Addition.key_ne_of_used (distinct : Addition.Distinct as)
    (used : Addition.under as name ≠ []) {a : Addition} (isDirect : a ∈ Addition.direct as) :
    a.key ≠ name := by
  rintro rfl
  exact used (distinct.apart a isDirect)

theorem find?_of_used (distinct : Addition.Distinct as) (used : Addition.under as name ≠ []) :
    (Addition.direct as).find? (·.key = name) = none := by
  refine List.find?_eq_none.mpr fun a isDirect same => ?_
  exact Addition.key_ne_of_used distinct used isDirect (by simpa using same)

theorem Document.Gives.givesOptional (gives : d.Gives name names fields) (distinct : d.Distinct)
    (readable : d.Readable) {content : String → Option Value} (holds : d.Content content) :
    GivesOptional names fields ((content name).map Value.toTree) := by
  -- A name that is given in one way is in none of the other places that the table is made of.
  cases gives with
  | leftOut nothing unused unopened =>
    have absent : name ∉ d.sections.map (·.name.name) := fun member => by
      obtain ⟨s, isSection, named⟩ := List.mem_map.mp member
      exact unopened s isSection named
    rw [holds.top name absent, Addition.found_of_unused unused]
    exact .leftOut nothing
  | @opened s isSection named record =>
    subst named
    obtain ⟨es, here, inside⟩ := holds.opened s isSection
    rw [here]
    exact .record (record.gives (readable.inside s isSection) inside)
  | dotted used record =>
    have absent : name ∉ d.sections.map (·.name.name) := fun member => by
      obtain ⟨s, isSection, named⟩ := List.mem_map.mp member
      obtain ⟨a, isUnder⟩ := List.exists_mem_of_ne_nil _ used
      obtain ⟨isTop, same⟩ := Addition.mem_under.mp isUnder
      exact (distinct.apart s isSection a isTop).1 (same.trans (congrArg some named.symm))
    have found : Addition.found d.additions name =
        some (.table .dotted (Addition.entries (Addition.under d.additions name))) := by
      simp [Addition.found, find?_of_used distinct.top used, used]
    rw [holds.top name absent, found]
    exact .record (record.gives_inner distinct.top readable.top)
  | @inline e isTop isDirect named record =>
    have isTop := List.mem_map_of_mem (f := Entry.addition) isTop
    have isDirect : e.addition.group = none := by simp [Entry.addition, isDirect]
    have absent : name ∉ d.sections.map (·.name.name) := fun member => by
      obtain ⟨s, isSection, same⟩ := List.mem_map.mp member
      exact (distinct.apart s isSection _ isTop).2 isDirect (named.trans same.symm)
    obtain ⟨v, reads⟩ := readable.top _ isTop
    have found : Addition.found d.additions name = some v := by
      have here := find?_direct distinct.top isTop isDirect
      rw [show e.addition.key = name from named] at here
      rw [Addition.found, here]
      simp [reads, Except.toOption]
    rw [holds.top name absent, found]
    exact .record (record.gives reads)

inductive Document.Concerns (d : Document) (name : String) (a : Addition) : Prop
  | top (isTop : a ∈ d.additions) (named : a.group.getD a.key = name)
  | inside {s : Section} (isSection : s ∈ d.sections) (named : s.name.name = name)
    (isInside : a ∈ s.additions)

theorem Addition.Unused.ne {a : Addition} (unused : Unused as name) (member : a ∈ as) :
    a.group.getD a.key ≠ name := by
  obtain ⟨notUnder, notDirect⟩ := unused a member
  cases isIn : a.group with
  | none => exact notDirect isIn
  | some group => exact fun same => notUnder (isIn.trans (congrArg some same))

theorem Document.Gives.beyond (gives : d.Gives name names fields) (distinct : d.Distinct)
    {a : Addition} (concerns : d.Concerns name a) (unread : ¬ a.Readable) : Beyond fields := by
  -- Whichever way the record is given, names are used once, so what concerns it is a part of it.
  cases gives with
  | leftOut nothing unused unopened =>
    cases concerns with
    | top isTop named => exact absurd named (unused.ne isTop)
    | inside isSection named => exact absurd named (unopened _ isSection)
  | @opened s isSection named record =>
    cases concerns with
    | top isTop same =>
      exact absurd (same.trans named.symm) ((distinct.apart s isSection).ne isTop)
    | @inside s' isSection' same isInside =>
      obtain rfl : s' = s :=
        List.inj_on_of_nodup_map distinct.sections isSection' isSection (same.trans named.symm)
      exact record.beyond (distinct.inside s' isSection) fun readable =>
        unread (readable a isInside)
  | dotted used record =>
    cases concerns with
    | top isTop same =>
      cases isIn : a.group with
      | none =>
        rw [isIn] at same
        have isDirect := Addition.mem_direct.mpr ⟨isTop, isIn⟩
        exact absurd same (Addition.key_ne_of_used distinct.top used isDirect)
      | some group =>
        rw [isIn] at same
        obtain rfl : group = name := same
        refine record.beyond (Addition.distinct_inner distinct.top group) fun readable => ?_
        have isUnder := Addition.mem_under.mpr ⟨isTop, isIn⟩
        exact unread (readable { a with group := none } (List.mem_map.mpr ⟨a, isUnder, rfl⟩))
    | @inside s isSection same =>
      obtain ⟨b, isUnder⟩ := List.exists_mem_of_ne_nil _ used
      obtain ⟨isTop, isIn⟩ := Addition.mem_under.mp isUnder
      exact absurd (isIn.trans (congrArg some same.symm)) (distinct.apart s isSection b isTop).1
  | @inline e isTop isDirect named record =>
    have isTop := List.mem_map_of_mem (f := Entry.addition) isTop
    have isDirect : e.addition.group = none := by simp [Entry.addition, isDirect]
    have here := find?_direct distinct.top isTop isDirect
    rw [show e.addition.key = name from named] at here
    cases concerns with
    | top isTop' same =>
      cases isIn : a.group with
      | none =>
        have there := find?_direct distinct.top isTop' isIn
        rw [isIn] at same
        rw [show a.key = name from same, here] at there
        obtain rfl := Option.some.inj there
        cases outcome : e.pair.value.outcome with
        | ok v => exact absurd ⟨v, outcome⟩ unread
        | error fault => exact record.beyond outcome
      | some group =>
        rw [isIn] at same
        obtain rfl : group = name := same
        have used := List.ne_nil_of_mem (Addition.mem_under.mpr ⟨isTop', isIn⟩)
        have isDirect := Addition.mem_direct.mpr ⟨isTop, isDirect⟩
        exact absurd named (Addition.key_ne_of_used distinct.top used isDirect)
    | @inside s isSection same =>
      exact absurd (named.trans same.symm) ((distinct.apart s isSection _ isTop).2 isDirect)

end Documents

end Data.Toml

namespace Settings.Assignment

open Data.Toml

/-- A document gives the fields of an assignment. It may say more, if that can be read. -/
structure WrittenBy (a : Assignment) (d : Document) : Prop where
  distinct : d.Distinct
  engine : d.Gives "engine" Engine.names (a.engineFields .integer)
  limits : d.Gives "limits" Limits.names (a.limitsFields .integer)
  others : ∀ name b, name ≠ "engine" → name ≠ "limits" → d.Concerns name b → b.Readable

variable {a : Assignment} {d : Document}

theorem integer_showsNumbers : ShowsNumbers .integer where
  asNat _ _ _ := rfl
  ne_null _ := nofun

theorem WrittenBy.readable_or_beyond (written : a.WrittenBy d) :
    d.Readable ∨ Beyond (a.engineFields .integer) ∨ Beyond (a.limitsFields .integer) := by
  by_contra neither
  simp only [not_or] at neither
  obtain ⟨unread, engine, limits⟩ := neither
  have readable {name : String} {b : Addition} (concerns : d.Concerns name b) : b.Readable := by
    by_contra unreadable
    by_cases isEngine : name = "engine"
    · exact engine (written.engine.beyond written.distinct (isEngine ▸ concerns) unreadable)
    · by_cases isLimits : name = "limits"
      · exact limits (written.limits.beyond written.distinct (isLimits ▸ concerns) unreadable)
      · exact unreadable (written.others name b isEngine isLimits concerns)
  exact unread ⟨fun b isTop => readable (.top isTop rfl), fun s isSection b isInside =>
    readable (.inside isSection rfl isInside)⟩

theorem InRange.not_beyond (fits : a.InRange) :
    ¬ (Beyond (a.engineFields .integer) ∨ Beyond (a.limitsFields .integer)) := by
  have small {n : Int} (isWord : n ∈ a.words) : ¬ (n < -2 ^ 63 ∨ 2 ^ 63 ≤ n) := by
    have fit := fits.words n isWord
    omega
  rintro (⟨n, isField, far⟩ | ⟨n, isField, far⟩)
  · refine small ?_ far
    simp [engineFields, engineGiven] at isField
    simp [Assignment.words]
    tauto
  · simp [limitsFields, limitsGiven] at isField
    rcases isField with isWord | isFuel
    · exact small (by simp [Assignment.words, isWord]) far
    · have fit := fits.fuel n isFuel
      omega

theorem WrittenBy.read (written : a.WrittenBy d) :
    (∃ t, Data.Toml.read d.text = .ok t ∧ a.GivenBy .integer t) ∨
      (∃ fault, Data.Toml.read d.text = .error fault) ∧ ¬ a.InRange := by
  by_cases readable : d.Readable
  · obtain ⟨root, content, reads, holds, whole⟩ := d.read_eq_ok written.distinct readable
    exact .inl ⟨_, reads, .intro (written.engine.givesOptional written.distinct readable whole)
      (written.limits.givesOptional written.distinct readable whole)
      (gives_of_holds holds ["engine", "limits"])⟩
  · rcases written.readable_or_beyond with reads | beyond
    · exact absurd reads readable
    · exact .inr ⟨d.read_eq_error readable, fun fits => fits.not_beyond beyond⟩

theorem WrittenBy.ofToml_of_inRange (written : a.WrittenBy d) (fits : a.InRange) :
    ofToml d.text = .ok a.settings := by
  rcases written.read with ⟨t, reads, given⟩ | ⟨-, misfits⟩
  · rw [ofToml, reads]
    simp only [ofTree_of_inRange fits integer_showsNumbers given]
  · exact absurd fits misfits

theorem WrittenBy.ofToml_of_outOfRange (written : a.WrittenBy d) (misfits : a.OutOfRange) :
    ∃ text, ofToml d.text = .error (.settings text) := by
  rcases written.read with ⟨t, reads, given⟩ | ⟨⟨fault, fails⟩, -⟩
  · rw [ofToml, reads]
    simp only [ofTree_of_outOfRange misfits integer_showsNumbers given]
    exact ⟨_, rfl⟩
  · rw [ofToml, fails]
    exact ⟨_, rfl⟩

end Settings.Assignment

end ModuleHost
