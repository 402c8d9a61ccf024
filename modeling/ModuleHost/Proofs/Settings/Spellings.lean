import ModuleHost.Proofs.Settings.Json
import ModuleHost.Proofs.Settings.Toml

/-!
# Spellings of settings

An assignment can be written with tables in either order, with dotted keys, with inline tables and
as an object. These and all other ways to write it are read as the same settings, and none is read
at all if a number fits no field of its kind (`spellings_agree`).
-/

namespace ModuleHost

/-! ## Fields with their names -/

section Named

variable {α β : Type}

def named (keys : List α) (fields : List (Option β)) : List (α × β) :=
  (keys.zip fields).filterMap fun f => f.2.map (f.1, ·)

theorem filter_named {name : α → String} {keys : List α} {fields : List (Option β)}
    (distinct : (keys.map name).Nodup) (count : keys.length = fields.length)
    (before : List (α × β)) (apart : ∀ e ∈ before, name e.1 ∉ keys.map name) :
    List.Forall₂ (fun n field =>
      ((before ++ named keys fields).filter fun e => name e.1 = n).map Prod.snd = field.toList)
      (keys.map name) fields := by
  induction keys generalizing fields before with
  | nil =>
    cases fields with
    | nil => exact .nil
    | cons field fields => cases count
  | cons key keys ih =>
    cases fields with
    | nil => cases count
    | cons field fields =>
      obtain ⟨fresh, distinct⟩ := List.nodup_cons.mp distinct
      have split : named (key :: keys) (field :: fields) =
          (field.map (key, ·)).toList ++ named keys fields := by
        cases field <;> rfl
      have others : (named keys fields).filter (fun e => name e.1 = name key) = [] := by
        refine List.filter_eq_nil_iff.mpr fun e member same => fresh ?_
        obtain ⟨f, paired, given⟩ := List.mem_filterMap.mp member
        obtain ⟨value, -, rfl⟩ := Option.map_eq_some_iff.mp given
        have same : name f.1 = name key := by simpa using same
        exact List.mem_map.mpr ⟨f.1, (List.of_mem_zip paired).1, same⟩
      have earlier : before.filter (fun e => name e.1 = name key) = [] := by
        refine List.filter_eq_nil_iff.mpr fun e member same => apart e member ?_
        have same : name e.1 = name key := by simpa using same
        simp [same]
      rw [split]
      refine .cons ?_ ?_
      · rw [List.filter_append, List.filter_append, earlier, others]
        cases field <;> simp
      · rw [← List.append_assoc]
        refine ih distinct (Nat.succ.inj count) _ fun e member => ?_
        rcases List.mem_append.mp member with old | new
        · exact fun inside => apart e old (.tail _ inside)
        · obtain ⟨value, -, rfl⟩ := Option.map_eq_some_iff.mp (Option.mem_toList.mp new)
          exact fresh

theorem map_fst_named_sublist (keys : List α) (fields : List (Option β)) :
    ((named keys fields).map Prod.fst).Sublist keys := by
  induction keys generalizing fields with
  | nil => exact .slnil
  | cons key keys ih =>
    cases fields with
    | nil => exact List.nil_sublist _
    | cons field fields =>
      cases field with
      | none => exact (ih fields).cons key
      | some value => exact (ih fields).cons_cons key

end Named

namespace Data.Toml

/-! ## Writing TOML -/

def oneBlank : Blanks :=
  ⟨[' '], List.all_eq_true.mp rfl⟩

def newline : Ending :=
  ⟨⟨noBlanks, none⟩, []⟩

def Key.bare (name : String) (named : name.toList ≠ [])
    (bare : name.toList.all isBare = true) : Key :=
  ⟨name.toList, name, spellsKey_bare named bare⟩

def bareKeys (names : List String)
    (bare : ∀ name ∈ names, name.toList ≠ [] ∧ name.toList.all isBare = true) : List Key :=
  names.attach.map fun name => .bare name.1 (bare name.1 name.2).1 (bare name.1 name.2).2

theorem map_name_bareKeys (names : List String)
    (bare : ∀ name ∈ names, name.toList ≠ [] ∧ name.toList.all isBare = true) :
    (bareKeys names bare).map Key.name = names := by
  rw [bareKeys, List.map_map]
  exact List.attach_map_subtype_val names

section Pairs

variable {depth : Nat} {names : List String} {fields : List (Option Tree)} {keys : List Key}
  {values : List (Option (Written depth))}

def pairs (keys : List Key) (values : List (Option (Written depth))) : List (Pair depth) :=
  (named keys values).map fun f => ⟨f.1, f.2, noBlanks, oneBlank, oneBlank, noBlanks⟩

theorem group_of_mem_pairs {a : Addition} (member : a ∈ (pairs keys values).map Pair.addition) :
    a.group = none := by
  obtain ⟨p, -, rfl⟩ := List.mem_map.mp member
  rfl

theorem map_key_pairs :
    ((pairs keys values).map Pair.addition).map Addition.key =
      ((named keys values).map Prod.fst).map Key.name := by
  simp [pairs, Pair.addition]

theorem nodup_pairs (distinct : (keys.map Key.name).Nodup) :
    (((pairs keys values).map Pair.addition).map Addition.key).Nodup := by
  rw [map_key_pairs]
  exact distinct.sublist ((map_fst_named_sublist keys values).map Key.name)

theorem record_pairs (distinct : (keys.map Key.name).Nodup)
    (shown : List.Forall₂ (Option.Rel fun t (w : Written depth) => Field t w.outcome) fields values)
    (count : keys.length = values.length) :
    Record (keys.map Key.name) fields ((pairs keys values).map Pair.addition) where
  given := by
    refine forall₂_of_common (fun name value field once shown => ?_)
      (filter_named distinct count [] nofun) shown
    have first : ((named keys values).find? fun f => f.1.name = name).map Prod.snd = value := by
      rw [← List.head?_filter, ← List.head?_map]
      refine (congrArg List.head? once).trans ?_
      cases value <;> rfl
    have found : (((pairs keys values).map Pair.addition).find? fun a => a.key = name).map
        Addition.outcome = value.map Written.outcome := by
      rw [pairs, List.map_map, List.find?_map, ← first, Option.map_map, Option.map_map]
      rfl
    rw [Addition.direct_eq_self (fun a => group_of_mem_pairs), found]
    cases shown with
    | none => exact .none
    | some field => exact .some field
  apart name _ := Addition.under_eq_nil (fun a => group_of_mem_pairs) name
  others a member other := by
    have isKey : a.key ∈ keys.map Key.name := by
      have inside := List.mem_map_of_mem (f := Addition.key) member
      rw [map_key_pairs] at inside
      exact ((map_fst_named_sublist keys values).map Key.name).subset inside
    exact absurd isKey (other (group_of_mem_pairs member))

end Pairs

def sectionOf (name : Key) (ps : List (Pair depthBound)) : Section :=
  ⟨name, newline, ps.map (⟨none, ·, newline⟩)⟩

def dottedLines (name : Key) (ps : List (Pair depthBound)) : List Entry :=
  ps.map (⟨some (name, noBlanks), ·, newline⟩)

def inGroup (group : String) (ps : List (Pair depthBound)) : List Addition :=
  ps.map fun p => ⟨some group, p.key.name, p.value.outcome⟩

theorem additions_dottedLines (name : Key) (ps : List (Pair depthBound)) :
    (dottedLines name ps).map Entry.addition = inGroup name.name ps := by
  rw [dottedLines, List.map_map]
  rfl

theorem direct_inGroup (group : String) (ps : List (Pair depthBound)) :
    Addition.direct (inGroup group ps) = [] := by
  refine List.filter_eq_nil_iff.mpr fun a member => ?_
  obtain ⟨p, -, rfl⟩ := List.mem_map.mp member
  simp

theorem under_inGroup (group name : String) (ps : List (Pair depthBound)) :
    Addition.under (inGroup group ps) name = if group = name then inGroup group ps else [] := by
  split
  · rename_i same
    refine List.filter_eq_self.mpr fun a member => ?_
    obtain ⟨p, -, rfl⟩ := List.mem_map.mp member
    simpa using same
  · rename_i other
    refine List.filter_eq_nil_iff.mpr fun a member => ?_
    obtain ⟨p, -, rfl⟩ := List.mem_map.mp member
    simpa using other

theorem map_key_inGroup (group : String) (ps : List (Pair depthBound)) :
    (inGroup group ps).map Addition.key = (ps.map Pair.addition).map Addition.key := by
  rw [inGroup, List.map_map, List.map_map]
  rfl

theorem additions_sectionOf (name : Key) (ps : List (Pair depthBound)) :
    (sectionOf name ps).additions = ps.map Pair.addition := by
  rw [sectionOf, Section.additions, List.map_map]
  rfl

end Data.Toml

namespace Data.Json

/-! ## Writing JSON -/

def oneBlank : Blanks :=
  ⟨[' '], List.all_eq_true.mp rfl⟩

def plainKeys (names : List String)
    (plain : ∀ name ∈ names, name.toList.all isPlain = true) : List Key :=
  names.attach.map fun name => .plain name.1 (plain name.1 name.2)

theorem map_name_plainKeys (names : List String)
    (plain : ∀ name ∈ names, name.toList.all isPlain = true) :
    (plainKeys names plain).map Key.name = names := by
  rw [plainKeys, List.map_map]
  exact List.attach_map_subtype_val names

def members (keys : List Key) (given : List (Option Written)) : List Member :=
  (named keys given).map fun f => ⟨f.1, f.2, noBlanks, noBlanks, oneBlank, noBlanks⟩

theorem record_members {keys : List Key} {fields : List (Option Tree)}
    {given : List (Option Written)} (distinct : (keys.map Key.name).Nodup)
    (shown : List.Forall₂ (Option.Rel Field) fields given) (count : keys.length = given.length) :
    Record (keys.map Key.name) fields (.object (members keys given)) := by
  refine .object _ (forall₂_of_common (fun name value field once shown => ?_)
    (filter_named distinct count [] nofun) shown)
  have found : values (members keys given) name = value.toList := by
    rw [values, members, List.filter_map, List.map_map]
    exact once
  rw [found]
  cases shown with
  | none => exact .nil
  | some field => exact .cons field .nil

end Data.Json

namespace Settings.Assignment

/-! ## TOML -/

section Toml

open Data.Toml

variable (a : Assignment)

def engineKey : Key :=
  .bare "engine" (by decide) (by decide)

def limitsKey : Key :=
  .bare "limits" (by decide) (by decide)

def engineKeys : List Key :=
  bareKeys Engine.names (by decide)

def limitsKeys : List Key :=
  bareKeys Limits.names (by decide)

def enginePairs (depth : Nat) : List (Pair depth) :=
  pairs engineKeys (a.engineGiven .boolean .decimal)

def limitsPairs (depth : Nat) : List (Pair depth) :=
  pairs limitsKeys (a.limitsGiven .decimal)

theorem name_engineKeys : engineKeys.map Key.name = Engine.names :=
  map_name_bareKeys ..

theorem name_limitsKeys : limitsKeys.map Key.name = Limits.names :=
  map_name_bareKeys ..

theorem field_decimal {depth : Nat} (n : Int) :
    Field (.integer n) (Written.decimal n : Written depth).outcome := by
  unfold Written.decimal
  dsimp only
  split
  · exact .read (.integer n)
  · exact .beyond (by omega)

theorem rel_map {β γ δ : Type} {R : β → γ → Prop} {f : δ → β} {g : δ → γ}
    (relates : ∀ x, R (f x) (g x)) (given : Option δ) :
    Option.Rel R (given.map f) (given.map g) := by
  cases given with
  | none => exact .none
  | some x => exact .some (relates x)

theorem engineGiven_rel {β γ : Type} {R : β → γ → Prop} {boolean : Bool → β} {boolean' : Bool → γ}
    {number : Int → β} {number' : Int → γ} (booleans : ∀ b, R (boolean b) (boolean' b))
    (numbers : ∀ n, R (number n) (number' n)) :
    List.Forall₂ (Option.Rel R) (a.engineGiven boolean number) (a.engineGiven boolean' number') :=
  .cons (rel_map booleans _) (.cons (rel_map numbers _) (.cons (rel_map numbers _)
    (.cons (rel_map booleans _) (.cons (rel_map booleans _) (.cons (rel_map numbers _) .nil)))))

theorem limitsGiven_rel {β γ : Type} {R : β → γ → Prop} {number : Int → β} {number' : Int → γ}
    (numbers : ∀ n, R (number n) (number' n)) :
    List.Forall₂ (Option.Rel R) (a.limitsGiven number) (a.limitsGiven number') :=
  .cons (rel_map numbers _) (.cons (rel_map numbers _) .nil)

theorem record_enginePairs (depth : Nat) :
    Record Engine.names (a.engineFields .integer)
      ((a.enginePairs depth).map Pair.addition) := by
  have shown : List.Forall₂ (Option.Rel fun t (w : Written depth) => Field t w.outcome)
      (a.engineFields .integer) (a.engineGiven .boolean .decimal) :=
    a.engineGiven_rel (fun b => Field.read (.boolean b)) field_decimal
  have record := record_pairs (by rw [name_engineKeys]; decide) shown rfl
  rwa [name_engineKeys] at record

theorem record_limitsPairs (depth : Nat) :
    Record Limits.names (a.limitsFields .integer)
      ((a.limitsPairs depth).map Pair.addition) := by
  have shown : List.Forall₂ (Option.Rel fun t (w : Written depth) => Field t w.outcome)
      (a.limitsFields .integer) (a.limitsGiven .decimal) :=
    a.limitsGiven_rel field_decimal
  have record := record_pairs (by rw [name_limitsKeys]; decide) shown rfl
  rwa [name_limitsKeys] at record

theorem nodup_enginePairs (depth : Nat) :
    (((a.enginePairs depth).map Pair.addition).map Addition.key).Nodup :=
  nodup_pairs (by rw [name_engineKeys]; decide)

theorem nodup_limitsPairs (depth : Nat) :
    (((a.limitsPairs depth).map Pair.addition).map Addition.key).Nodup :=
  nodup_pairs (by rw [name_limitsKeys]; decide)

theorem distinct_enginePairs (depth : Nat) :
    Addition.Distinct ((a.enginePairs depth).map Pair.addition) :=
  Addition.distinct_of_direct (fun _ => group_of_mem_pairs) (a.nodup_enginePairs depth)

theorem distinct_limitsPairs (depth : Nat) :
    Addition.Distinct ((a.limitsPairs depth).map Pair.addition) :=
  Addition.distinct_of_direct (fun _ => group_of_mem_pairs) (a.nodup_limitsPairs depth)

theorem writtenBy_tables {sections : List Section}
    (perm : sections.Perm
      [sectionOf engineKey (a.enginePairs depthBound),
        sectionOf limitsKey (a.limitsPairs depthBound)]) :
    a.WrittenBy ⟨[], [], sections⟩ where
  distinct := {
    top := Addition.distinct_of_direct nofun .nil
    sections := ((perm.map _).nodup_iff).mpr (by
      show [engineKey.name, limitsKey.name].Nodup
      decide)
    apart := fun _ _ => nofun
    inside := fun s member => by
      rcases List.mem_pair.mp (perm.mem_iff.mp member) with rfl | rfl
      · rw [additions_sectionOf]
        exact a.distinct_enginePairs _
      · rw [additions_sectionOf]
        exact a.distinct_limitsPairs _ }
  engine := .opened (perm.mem_iff.mpr (.head _)) rfl (by
    rw [additions_sectionOf]
    exact a.record_enginePairs _)
  limits := .opened (perm.mem_iff.mpr (.tail _ (.head _))) rfl (by
    rw [additions_sectionOf]
    exact a.record_limitsPairs _)
  others name b engine limits concerns := by
    cases concerns with
    | top isTop => cases isTop
    | inside isSection named =>
      rcases List.mem_pair.mp (perm.mem_iff.mp isSection) with rfl | rfl
      · exact absurd named.symm engine
      · exact absurd named.symm limits

def dotted : Document :=
  ⟨[], dottedLines engineKey (a.enginePairs depthBound) ++
    dottedLines limitsKey (a.limitsPairs depthBound), []⟩

theorem additions_dotted :
    a.dotted.additions = inGroup "engine" (a.enginePairs depthBound) ++
      inGroup "limits" (a.limitsPairs depthBound) := by
  rw [dotted, Document.additions, List.map_append, additions_dottedLines, additions_dottedLines]
  rfl

theorem under_dotted_engine :
    Addition.under a.dotted.additions "engine" = inGroup "engine" (a.enginePairs depthBound) := by
  rw [additions_dotted, Addition.under_append, under_inGroup, under_inGroup, if_pos rfl,
    if_neg (by decide), List.append_nil]

theorem under_dotted_limits :
    Addition.under a.dotted.additions "limits" = inGroup "limits" (a.limitsPairs depthBound) := by
  rw [additions_dotted, Addition.under_append, under_inGroup, under_inGroup, if_pos rfl,
    if_neg (by decide), List.nil_append]

theorem group_of_mem_dotted {b : Addition} (member : b ∈ a.dotted.additions) :
    b.group = some "engine" ∨ b.group = some "limits" := by
  rw [additions_dotted] at member
  rcases List.mem_append.mp member with inside | inside
  · obtain ⟨p, -, rfl⟩ := List.mem_map.mp inside
    exact .inl rfl
  · obtain ⟨p, -, rfl⟩ := List.mem_map.mp inside
    exact .inr rfl

theorem gives_dotted {names : List String} {fields : List (Option Data.Tree)} {name : String}
    {ps : List (Pair depthBound)}
    (isUnder : Addition.under a.dotted.additions name = inGroup name ps)
    (record : Record names fields (ps.map Pair.addition)) :
    a.dotted.Gives name names fields := by
  cases ps with
  | nil =>
    refine .leftOut (fun field isField => ?_) (fun b member => ⟨fun isIn => ?_, fun isDirect => ?_⟩)
      nofun
    · obtain ⟨name, -, given⟩ := exists_of_forall₂ record.given.flip isField
      cases given
      rfl
    · have inside := Addition.mem_under.mpr ⟨member, isIn⟩
      rw [isUnder] at inside
      cases inside
    · rcases a.group_of_mem_dotted member with isIn | isIn <;> cases isIn.symm.trans isDirect
  | cons p ps =>
    refine .dotted (by rw [isUnder]; exact List.cons_ne_nil _ _) ?_
    have same : Addition.inner a.dotted.additions name = (p :: ps).map Pair.addition := by
      rw [Addition.inner, isUnder, inGroup, List.map_map]
      rfl
    rwa [same]

theorem writtenBy_dotted : a.WrittenBy a.dotted where
  distinct := {
    top := {
      direct := by
        rw [additions_dotted, Addition.direct_append, direct_inGroup, direct_inGroup]
        exact .nil
      under := fun group => by
        rw [additions_dotted, Addition.under_append, under_inGroup, under_inGroup]
        by_cases isEngine : "engine" = group
        · have notLimits : "limits" ≠ group := fun isLimits =>
            absurd (isEngine.trans isLimits.symm) (by decide)
          rw [if_pos isEngine, if_neg notLimits, List.append_nil, map_key_inGroup]
          exact a.nodup_enginePairs _
        · rw [if_neg isEngine, List.nil_append]
          split
          · rw [map_key_inGroup]
            exact a.nodup_limitsPairs _
          · exact .nil
      apart := fun b member => by
        rw [additions_dotted, Addition.direct_append, direct_inGroup, direct_inGroup] at member
        cases member }
    sections := .nil
    apart := nofun
    inside := nofun }
  engine := a.gives_dotted a.under_dotted_engine (a.record_enginePairs _)
  limits := a.gives_dotted a.under_dotted_limits (a.record_limitsPairs _)
  others name b engine limits concerns := by
    cases concerns with
    | top isTop named =>
      rcases a.group_of_mem_dotted isTop with isIn | isIn
      · rw [isIn] at named
        exact absurd named.symm engine
      · rw [isIn] at named
        exact absurd named.symm limits
    | inside isSection => cases isSection

def inlined : Document where
  notes := []
  top := [
    ⟨none, ⟨engineKey, .inline (a.enginePairs 78), noBlanks, oneBlank, oneBlank,
      noBlanks⟩, newline⟩,
    ⟨none, ⟨limitsKey, .inline (a.limitsPairs 78), noBlanks, oneBlank, oneBlank,
      noBlanks⟩, newline⟩]
  sections := []

theorem writtenBy_inlined : a.WrittenBy a.inlined where
  distinct := {
    top := Addition.distinct_of_direct (by
      intro b member
      rcases List.mem_pair.mp member with rfl | rfl <;> rfl) (by
      show [engineKey.name, limitsKey.name].Nodup
      decide)
    sections := .nil
    apart := nofun
    inside := nofun }
  engine := .inline (.head _) rfl rfl (.table _ (a.distinct_enginePairs _) (a.record_enginePairs _))
  limits := .inline (.tail _ (.head _)) rfl rfl
    (.table _ (a.distinct_limitsPairs _) (a.record_limitsPairs _))
  others name b engine limits concerns := by
    cases concerns with
    | top isTop named =>
      rcases List.mem_pair.mp isTop with rfl | rfl
      · exact absurd named.symm engine
      · exact absurd named.symm limits
    | inside isSection => cases isSection

end Toml

/-! ## JSON -/

section Json

open Data.Json (Written plainKeys members noBlanks oneBlank)

variable (a : Assignment)

def engineObject : Written :=
  .object (members (plainKeys Engine.names (by decide)) (a.engineGiven .boolean .decimal))

def limitsObject : Written :=
  .object (members (plainKeys Limits.names (by decide)) (a.limitsGiven .decimal))

def object : Written :=
  .object [⟨.plain "engine" (by decide), a.engineObject, noBlanks, noBlanks, oneBlank,
      noBlanks⟩,
    ⟨.plain "limits" (by decide), a.limitsObject, noBlanks, noBlanks, oneBlank, noBlanks⟩]

theorem record_engineObject :
    Data.Json.Record Engine.names (a.engineFields Data.Json.integerTree) a.engineObject := by
  have shown : List.Forall₂ (Option.Rel Data.Json.Field)
      (a.engineFields Data.Json.integerTree) (a.engineGiven .boolean .decimal) :=
    a.engineGiven_rel (fun b => .read (.boolean b) nofun) .decimal
  have names := Data.Json.map_name_plainKeys Engine.names (by decide)
  have record := Data.Json.record_members (by rw [names]; decide) shown rfl
  rwa [names] at record

theorem record_limitsObject :
    Data.Json.Record Limits.names (a.limitsFields Data.Json.integerTree) a.limitsObject := by
  have shown : List.Forall₂ (Option.Rel Data.Json.Field)
      (a.limitsFields Data.Json.integerTree) (a.limitsGiven .decimal) :=
    a.limitsGiven_rel .decimal
  have names := Data.Json.map_name_plainKeys Limits.names (by decide)
  have record := Data.Json.record_members (by rw [names]; decide) shown rfl
  rwa [names] at record

theorem writtenAs_object : a.WrittenAs a.object :=
  .object _ (.record a.record_engineObject) (.record a.record_limitsObject)

end Json

/-! ## All spellings -/

open Data.Toml (Section depthBound sectionOf)

theorem spellings_agree (a : Assignment) :
    ((∀ sections : List Section, sections.Perm
        [sectionOf engineKey (a.enginePairs depthBound),
          sectionOf limitsKey (a.limitsPairs depthBound)] →
          a.WrittenBy ⟨[], [], sections⟩) ∧
      a.WrittenBy a.dotted ∧ a.WrittenBy a.inlined ∧ a.WrittenAs a.object) ∧
    (a.InRange →
      (∀ d, a.WrittenBy d → ofToml d.text = .ok a.settings) ∧
      ∀ i : Data.Json.Item, a.WrittenAs i.value →
        ofJson (String.ofList i.text) = some a.settings) ∧
    (a.OutOfRange →
      (∀ d, a.WrittenBy d → ∃ text, ofToml d.text = .error (.settings text)) ∧
      ∀ i : Data.Json.Item, a.WrittenAs i.value → ofJson (String.ofList i.text) = none) :=
  ⟨⟨fun _ => a.writtenBy_tables, a.writtenBy_dotted, a.writtenBy_inlined, a.writtenAs_object⟩,
    fun fits => ⟨fun _ written => written.ofToml_of_inRange fits,
      fun _ written => written.ofJson_of_inRange fits⟩,
    fun misfits => ⟨fun _ written => written.ofToml_of_outOfRange misfits,
      fun _ written => written.ofJson_of_outOfRange misfits⟩⟩

/-! One assignment written in five ways, and one that is out of range. -/

section Sample

open Data.Json (Item Written noBlanks)

def sample : Assignment :=
  ⟨some true, some 7, none, none, none, none, some 256, some 1000000⟩

def sampleItem (w : Written) : Item :=
  ⟨w, noBlanks, noBlanks⟩

def sampleEngine : Written :=
  .array [sampleItem (.boolean true), sampleItem (.decimal 7)]

def sampleLimits : Written :=
  .array [sampleItem (.decimal 256), sampleItem (.decimal 1000000)]

def negative : Assignment :=
  ⟨none, some (-1), none, none, none, none, none, none⟩

theorem writtenAs_sample :
    sample.WrittenAs (.array [sampleItem sampleEngine, sampleItem sampleLimits]) := by
  refine .array _ [sampleEngine] [sampleLimits] rfl nofun (.record ?_) (.record ?_)
  · exact .array _ [.boolean true, .integer 7] 4 rfl
      (.cons (.read (.boolean true) nofun) (.cons (.decimal 7) .nil))
  · exact .array _ [.integer 256, .integer 1000000] 0 rfl
      (.cons (.decimal 256) (.cons (.decimal 1000000) .nil))

theorem spellings_agree_sample :
    let host : Settings := ⟨{ pooling := true, poolSize := 7 }, ⟨256, some 1000000⟩⟩
    ofToml ("[limits]\nmax_memory_mb = 256\ndefault_fuel = 1000000\n" ++
        "[engine]\npooling_allocator = true\nmax_instances = 7\n") = .ok host ∧
      ofToml ("engine.pooling_allocator = true\nengine.max_instances = 7\n" ++
        "limits.max_memory_mb = 256\nlimits.default_fuel = 1000000\n") = .ok host ∧
      ofToml ("engine = \x7bpooling_allocator = true,max_instances = 7\x7d\n" ++
        "limits = \x7bmax_memory_mb = 256,default_fuel = 1000000\x7d\n") = .ok host ∧
      ofJson "[[true,7],[256,1000000]]" = some host ∧
      (∃ text, ofToml "engine.max_instances = -1\n" = .error (.settings text)) ∧
      ofJson "\x7b\"engine\": \x7b\"max_instances\": -1\x7d,\"limits\": \x7b\x7d\x7d" = none := by
  have fits : sample.InRange := ⟨by decide, by decide⟩
  have misfits : negative.OutOfRange := .inl ⟨-1, by decide, by decide⟩
  have host : sample.settings = ⟨{ pooling := true, poolSize := 7 }, ⟨256, some 1000000⟩⟩ := by
    decide
  obtain ⟨⟨tables, dotted, inlined, -⟩, reads, -⟩ := spellings_agree sample
  obtain ⟨⟨-, dotted', -, object⟩, -, fails⟩ := spellings_agree negative
  rw [host] at reads
  refine ⟨?_, ?_, ?_, ?_, ?_, ?_⟩
  · have text : (⟨[], [], [sectionOf limitsKey (sample.limitsPairs depthBound),
        sectionOf engineKey (sample.enginePairs depthBound)]⟩ : Data.Toml.Document).text =
        "[limits]\nmax_memory_mb = 256\ndefault_fuel = 1000000\n" ++
          "[engine]\npooling_allocator = true\nmax_instances = 7\n" := by
      decide +kernel
    rw [← text]
    exact (reads fits).1 _ (tables _ (List.Perm.swap ..))
  · have text : sample.dotted.text =
        "engine.pooling_allocator = true\nengine.max_instances = 7\n" ++
          "limits.max_memory_mb = 256\nlimits.default_fuel = 1000000\n" := by
      decide +kernel
    rw [← text]
    exact (reads fits).1 _ dotted
  · have text : sample.inlined.text =
        "engine = \x7bpooling_allocator = true,max_instances = 7\x7d\n" ++
          "limits = \x7bmax_memory_mb = 256,default_fuel = 1000000\x7d\n" := by
      decide +kernel
    rw [← text]
    exact (reads fits).1 _ inlined
  · have text : String.ofList (sampleItem (.array [sampleItem sampleEngine,
        sampleItem sampleLimits])).text = "[[true,7],[256,1000000]]" := by
      decide +kernel
    rw [← text]
    exact (reads fits).2 (sampleItem _) writtenAs_sample
  · have text : negative.dotted.text = "engine.max_instances = -1\n" := by
      decide +kernel
    rw [← text]
    exact (fails misfits).1 _ dotted'
  · have text : String.ofList (sampleItem negative.object).text =
        "\x7b\"engine\": \x7b\"max_instances\": -1\x7d,\"limits\": \x7b\x7d\x7d" := by
      decide +kernel
    rw [← text]
    exact (fails misfits).2 (sampleItem _) object

end Sample

end Settings.Assignment

end ModuleHost
