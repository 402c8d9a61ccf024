import ModuleHost.Proofs.Data.Json.Writing
import ModuleHost.Proofs.Settings.Assignment

namespace ModuleHost

namespace Data.Json

open Data.Tree (Gives GivesOptional)

/-- What a value for a field is read as. Of integers, those beyond sixty-four bits are floats. -/
inductive Field : Tree → Written → Prop
  | read (w : Written) (exactly : w.tree ≠ .float) : Field w.tree w
  | decimal (n : Int) : Field (integerTree n) (.decimal n)

def values (ms : List Member) (name : String) : List Written :=
  (ms.filter (·.key.name = name)).map Member.value

inductive Record (names : List String) (fields : List (Option Tree)) : Written → Prop
  | object (ms : List Member)
    (given : List.Forall₂ (fun name (field : Option Tree) =>
      List.Forall₂ Field field.toList (values ms name)) names fields) :
    Record names fields (.object ms)
  | array (items : List Item) (trees : List Tree) (rest : Nat)
    (leading : fields = trees.map some ++ List.replicate rest none)
    (shown : List.Forall₂ Field trees (items.map Item.value)) : Record names fields (.array items)

inductive OptionalRecord (names : List String) (fields : List (Option Tree)) : List Written → Prop
  | leftOut (nothing : ∀ f ∈ fields, f = none) : OptionalRecord names fields []
  | record {w : Written} (record : Record names fields w) : OptionalRecord names fields [w]

variable {names : List String} {fields : List (Option Tree)} {w : Written} {ws : List Written}

theorem Field.tree_eq {t : Tree} (field : Field t w) : w.tree = t := by
  cases field <;> rfl

theorem trees_eq {trees : List Tree} (shown : List.Forall₂ Field trees ws) :
    ws.map Written.tree = trees := by
  induction shown with
  | nil => rfl
  | cons field _ ih => rw [List.map_cons, field.tree_eq, ih]

theorem filter_entries (ms : List Member) (name : String) :
    (ms.map Member.entry).filter (fun e => e.1 = some name) =
      ((values ms name).map Written.tree).map (some name, ·) := by
  induction ms with
  | nil => rfl
  | cons m ms ih =>
    rw [List.map_cons, List.filter_cons, ih]
    by_cases same : m.key.name = name <;> simp [values, Member.entry, same]

theorem entries_named (ms : List Member) :
    ∀ e ∈ ms.map Member.entry, e.1.isSome = true :=
  List.forall_mem_map.mpr fun _ _ => rfl

theorem Record.gives (record : Record names fields w) : Gives names fields w.tree := by
  cases record with
  | object ms given =>
    refine .table (entries_named ms) (given.imp fun name field shown => ?_)
    rw [filter_entries, trees_eq shown]
    cases field <;> rfl
  | array items trees rest leading shown =>
    have same : items.map Item.tree = (items.map Item.value).map Written.tree := by
      rw [List.map_map]
      rfl
    rw [Written.array]
    dsimp only
    rw [same, trees_eq shown]
    exact .array rest leading

theorem OptionalRecord.gives (record : OptionalRecord names fields ws) :
    GivesOptional names fields (ws.head?.map Written.tree) := by
  cases record with
  | leftOut nothing => exact .leftOut nothing
  | record record => exact .record record.gives

end Data.Json

namespace Settings.Assignment

open Data.Json

/-- A value gives the fields of an assignment: an object has at most one member for each record, and
an array starts with the engine. -/
inductive WrittenAs (a : Assignment) : Written → Prop
  | object (ms : List Member)
    (engine : OptionalRecord Engine.names (a.engineFields integerTree) (values ms "engine"))
    (limits : OptionalRecord Limits.names (a.limitsFields integerTree) (values ms "limits")) :
    WrittenAs a (.object ms)
  | array (items : List Item) (engine limits : List Written)
    (parts : items.map Item.value = engine ++ limits) (inOrder : engine = [] → limits = [])
    (engine_given : OptionalRecord Engine.names (a.engineFields integerTree) engine)
    (limits_given : OptionalRecord Limits.names (a.limitsFields integerTree) limits) :
    WrittenAs a (.array items)

variable {a : Assignment} {i : Item}

theorem integerTree_showsNumbers : ShowsNumbers integerTree where
  asNat bound n small := by
    unfold integerTree
    split
    · rfl
    · rename_i far
      rw [if_neg fun fits => far (by omega)]
      rfl
  ne_null n := by
    unfold integerTree
    split <;> exact nofun

theorem WrittenAs.givenBy {w : Written} (written : a.WrittenAs w) :
    a.GivenBy integerTree w.tree := by
  cases written with
  | object ms engine limits =>
    have once {name : String} {names : List String} {fields : List (Option Data.Tree)}
        (record : OptionalRecord names fields (values ms name)) :
        (ms.map Member.entry).filter (fun e => e.1 = some name) =
          (((values ms name).head?.map Written.tree).map (some name, ·)).toList := by
      rw [filter_entries]
      generalize values ms name = ws at record ⊢
      cases record <;> rfl
    exact .intro engine.gives limits.gives
      (.table (entries_named ms) (.cons (once engine) (.cons (once limits) .nil)))
  | array items engine limits parts inOrder engine_given limits_given =>
    have trees : items.map Item.tree = (engine ++ limits).map Written.tree := by
      rw [← parts, List.map_map]
      rfl
    refine .intro engine_given.gives limits_given.gives ?_
    rw [Written.array]
    dsimp only
    rw [trees]
    cases engine_given with
    | leftOut =>
      rw [inOrder rfl]
      exact .array 2 rfl
    | record =>
      cases limits_given with
      | leftOut => exact .array 1 rfl
      | record => exact .array 0 rfl

theorem WrittenAs.ofJson_of_inRange (written : a.WrittenAs i.value) (fits : a.InRange) :
    ofJson (String.ofList i.text) = some a.settings := by
  rw [ofJson, read_text]
  exact ofTree_of_inRange fits integerTree_showsNumbers written.givenBy

theorem WrittenAs.ofJson_of_outOfRange (written : a.WrittenAs i.value) (misfits : a.OutOfRange) :
    ofJson (String.ofList i.text) = none := by
  rw [ofJson, read_text]
  exact ofTree_of_outOfRange misfits integerTree_showsNumbers written.givenBy

end Settings.Assignment

end ModuleHost
