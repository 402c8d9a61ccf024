import ModuleHost.Proofs.Data.Toml.Decimal
import ModuleHost.Proofs.List

namespace ModuleHost.Data.Toml

abbrev Blanks := {cs : List Char // ∀ c ∈ cs, isBlank c = true}

def noBlanks : Blanks :=
  ⟨[], List.forall_mem_nil _⟩

structure Key where
  text : List Char
  name : String
  spells : SpellsKey text name

/-- A value as it is written, with what it is read as. -/
structure Written (depth : Nat) where
  text : List Char
  outcome : Except Fault Value
  starts : Starts text
  spells : Spells depth text outcome

structure Item (depth : Nat) where
  value : Written depth
  indent : Blanks
  margin : Blanks

structure Pair (depth : Nat) where
  key : Key
  value : Written depth
  indent : Blanks
  gap : Blanks
  gap' : Blanks
  margin : Blanks

variable {depth : Nat} {rest : List Char}

def Item.text (i : Item depth) : List Char :=
  i.indent.val ++ i.value.text ++ i.margin.val

def Item.outcome (i : Item depth) : Except Fault Value :=
  i.value.outcome

namespace Pair

def body (p : Pair depth) : List Char :=
  p.key.text ++ p.gap.val ++ '=' :: p.gap'.val ++ p.value.text ++ p.margin.val

def text (p : Pair depth) : List Char :=
  p.indent.val ++ p.body

def add (entries : Entries) (p : Pair depth) : Except Fault Entries := do
  entries.add p.key.name (← p.value.outcome)

end Pair

theorem skipBlanks_blanks (bs : Blanks) (rest : List Char) :
    skipBlanks (bs.val ++ rest) = skipBlanks rest :=
  List.dropWhile_append_of_pos bs.property

theorem Stops.blanks {stops : List Char} (bs : Blanks) (here : Stops stops rest) :
    Stops stops (bs.val ++ rest) := by
  obtain ⟨c, member, more, skipped⟩ := here
  exact ⟨c, member, more, (skipBlanks_blanks bs rest).trans skipped⟩

theorem skipLines_of_skipBlanks {c : Char} {more cs : List Char}
    (skipped : skipBlanks cs = c :: more)
    (other : c ≠ '#' ∧ c ≠ '\n' ∧ c ≠ '\r') : skipLines cs.length cs = c :: more := by
  cases cs with
  | nil => cases skipped
  | cons first others =>
    have here : skipComment (skipBlanks (first :: others)) = c :: more := by
      rw [skipped, skipComment_cons other.1]
    have unbroken := lineBreak_cons other.2.1 other.2.2 more
    simp only [List.length_cons, skipLines, here, unbroken]

theorem starts_of_numeric {text : List Char} (written : text ≠ [])
    (numeric : ∀ c ∈ text, isNumeric c = true) : Starts text := by
  obtain ⟨c, more, rfl⟩ := List.exists_cons_of_ne_nil written
  have other (x : Char) (isOther : isNumeric x = false) : c ≠ x := by
    rintro rfl
    exact absurd ((numeric c (.head more)).symm.trans isOther) (by decide)
  refine ⟨c, more, rfl, ?_, other _ (by decide), other _ (by decide), other _ (by decide),
    other _ (by decide), other _ (by decide)⟩
  simp [isBlank, other ' ' (by decide), other '\t' (by decide)]

def Written.boolean (b : Bool) : Written depth where
  text := booleanText b
  outcome := .ok (.boolean b)
  starts := starts_of_numeric (by cases b <;> decide)
    (List.all_eq_true.mp (all_booleanText b))
  spells := fun d rest _ => spells_boolean b d rest (Nat.zero_le d)

def Written.decimal (n : Int) : Written depth where
  text := Digits.decimal n
  outcome := if -2 ^ 63 ≤ n ∧ n < 2 ^ 63 then .ok (.integer n)
    else .error (.badNumber (String.ofList (Digits.decimal n)))
  starts := starts_of_numeric Digits.decimal_ne_nil fun _ => isNumeric_of_mem_decimal
  spells := fun d rest _ => spells_decimal n d rest (Nat.zero_le d)

section Keys

variable {key : Key} {cs more : List Char} {parts : Nat}

theorem dottedKey_last {c : Char} (here : skipBlanks cs = key.text ++ rest)
    (skipped : skipBlanks rest = c :: more) (ends : c = '=' ∨ c = ']') :
    dottedKey (parts + 1) cs = .ok ([key.name], c :: more) := by
  have stops : EndsKey rest := by
    refine ⟨c, ?_, more, skipped⟩
    rcases ends with rfl | rfl <;> decide
  rw [dottedKey, here, key.spells rest stops]
  simp only [bind, Except.bind, skipped]
  rcases ends with rfl | rfl <;> rfl

theorem dottedKey_more {gap : Blanks}
    (here : skipBlanks cs = key.text ++ (gap.val ++ '.' :: more)) :
    dottedKey (parts + 1) cs =
      (dottedKey parts more).map fun (others, rest) => (key.name :: others, rest) := by
  have skipped : skipBlanks (gap.val ++ '.' :: more) = '.' :: more := skipBlanks_blanks gap _
  have stops : EndsKey (gap.val ++ '.' :: more) := ⟨'.', by decide, more, skipped⟩
  rw [dottedKey, here, key.spells _ stops]
  simp only [bind, Except.bind, skipped]
  cases dottedKey parts more <;> rfl

end Keys

namespace Pair

variable (p : Pair depth) {d : Nat}

def said (p : Pair depth) (rest : List Char) : List Char :=
  p.gap'.val ++ (p.value.text ++ (p.margin.val ++ rest))

theorem body_append (rest : List Char) :
    p.body ++ rest = p.key.text ++ (p.gap.val ++ '=' :: p.said rest) := by
  simp [body, said]

theorem skipBlanks_body (rest : List Char) : skipBlanks (p.body ++ rest) = p.body ++ rest := by
  rw [body_append, skipBlanks_of_starts p.key.spells.starts.1]

theorem skipBlanks_text (rest : List Char) : skipBlanks (p.text ++ rest) = p.body ++ rest := by
  rw [text, List.append_assoc, skipBlanks_blanks, skipBlanks_body]

theorem dottedKey_of_skipBlanks {cs : List Char} (here : skipBlanks cs = p.body ++ rest)
    (parts : Nat) : dottedKey (parts + 1) cs = .ok ([p.key.name], '=' :: p.said rest) :=
  dottedKey_last (here.trans (p.body_append rest)) (skipBlanks_blanks p.gap _) (.inl rfl)

theorem value_said (deep : depth ≤ d) (ends : Ends rest) :
    Toml.value d (skipBlanks (p.said rest)) = p.value.outcome.map (·, p.margin.val ++ rest) := by
  rw [said, skipBlanks_blanks, skipBlanks_of_starts p.value.starts]
  exact p.value.spells d _ deep (ends.blanks p.margin)

theorem keyValue_of_keyPath {cs : List Char} {key : List String × String}
    (path : keyPath cs = .ok (key, '=' :: p.said rest)) (deep : depth ≤ d) (ends : Ends rest) :
    keyValue (Toml.value d) cs =
      p.value.outcome.map fun v => ((key, v), p.margin.val ++ rest) := by
  rw [keyValue, path]
  show (Toml.value d (skipBlanks (p.said rest)) >>= _) = _
  rw [p.value_said deep ends]
  cases p.value.outcome <;> rfl

theorem keyValue_body (deep : depth ≤ d) (ends : Ends rest) :
    keyValue (Toml.value d) (p.body ++ rest) =
      p.value.outcome.map fun v => ((([], p.key.name), v), p.margin.val ++ rest) := by
  have path : keyPath (p.body ++ rest) = .ok (([], p.key.name), '=' :: p.said rest) := by
    rw [keyPath, depthBound, p.dottedKey_of_skipBlanks (p.skipBlanks_body rest)]
    rfl
  exact p.keyValue_of_keyPath path deep ends

theorem keyValue_dotted (group : Key) (gap : Blanks) (deep : depth ≤ d) (ends : Ends rest) :
    keyValue (Toml.value d) (group.text ++ (gap.val ++ '.' :: (p.text ++ rest))) =
      p.value.outcome.map fun v => ((([group.name], p.key.name), v), p.margin.val ++ rest) := by
  have path : keyPath (group.text ++ (gap.val ++ '.' :: (p.text ++ rest))) =
      .ok (([group.name], p.key.name), '=' :: p.said rest) := by
    rw [keyPath, depthBound, dottedKey_more (skipBlanks_of_starts group.spells.starts.1 _),
      p.dottedKey_of_skipBlanks (p.skipBlanks_text rest)]
    rfl
  exact p.keyValue_of_keyPath path deep ends

end Pair

section Inline

variable {d steps : Nat}

theorem inlineEntries_pair (p : Pair depth) (deep : depth ≤ d) (entries : Entries) {c : Char}
    (follows : c = ',' ∨ c = '\x7d') (rest : List Char) :
    inlineEntries (value d) (steps + 1) entries (p.text ++ c :: rest) =
      (p.add entries).bind fun entries =>
        if c = ',' then inlineEntries (value d) steps entries rest else .ok (entries, rest) := by
  have passed : skipBlanks (c :: rest) = c :: rest := by
    rcases follows with rfl | rfl <;> rfl
  have ends : Ends (c :: rest) := by
    refine ⟨c, ?_, rest, passed⟩
    rcases follows with rfl | rfl <;> decide
  rw [inlineEntries, p.skipBlanks_text, p.keyValue_body deep ends]
  rw [Pair.add]
  cases p.value.outcome with
  | error fault => rfl
  | ok v =>
    show (entries.add p.key.name v >>= _) = (entries.add p.key.name v).bind _
    cases entries.add p.key.name v with
    | error fault => rfl
    | ok entries =>
      simp only [bind, Except.bind, skipBlanks_blanks, passed]
      rcases follows with rfl | rfl <;> rfl

theorem inlineEntries_pairs (p : Pair depth) (ps : List (Pair depth)) (deep : depth ≤ d)
    (enough : ps.length < steps) (entries : Entries) (rest : List Char) :
    inlineEntries (value d) steps entries
        (separated ',' ((p :: ps).map Pair.text) ++ '\x7d' :: rest) =
      ((p :: ps).foldlM Pair.add entries).map (·, rest) := by
  induction ps generalizing p steps entries with
  | nil =>
    obtain ⟨steps, rfl⟩ := Nat.exists_eq_succ_of_ne_zero (Nat.ne_of_gt enough)
    simp only [List.map_cons, List.map_nil, separated, List.flatMap_nil, List.append_nil]
    rw [inlineEntries_pair p deep entries (.inr rfl)]
    show _ = ((p.add entries).bind .ok).map _
    cases p.add entries <;> rfl
  | cons q ps ih =>
    obtain ⟨steps, rfl⟩ := Nat.exists_eq_succ_of_ne_zero (Nat.ne_zero_of_lt enough)
    have further := ih q (Nat.lt_of_succ_lt_succ enough)
    simp only [List.map_cons, separated, List.flatMap_cons, List.append_assoc, List.cons_append]
      at further ⊢
    rw [inlineEntries_pair p deep entries (.inl rfl), List.foldlM_cons]
    cases p.add entries with
    | error fault => rfl
    | ok entries => exact further entries

end Inline

theorem value_inline (ps : List (Pair depth)) {d : Nat} (deep : depth ≤ d) (rest : List Char) :
    value (d + 1) ('\x7b' :: (separated ',' (ps.map Pair.text) ++ '\x7d' :: rest)) =
      ((ps.foldlM Pair.add []).map (.table .inline)).map (·, rest) := by
  cases ps with
  | nil => rfl
  | cons p ps =>
    -- The blanks before the first pair are passed over before anything is counted.
    let p' : Pair depth := { p with indent := noBlanks }
    let texts := separated ',' ((p' :: ps).map Pair.text) ++ '\x7d' :: rest
    have passed : skipBlanks (separated ',' ((p :: ps).map Pair.text) ++ '\x7d' :: rest) =
        texts := by
      simp only [List.map_cons, separated, List.append_assoc, texts]
      exact p.skipBlanks_text _
    have enough : ps.length < texts.length + 1 := by
      have counted := length_le_flatMap_cons ',' (ps.map Pair.text)
      rw [List.length_map] at counted
      simp only [List.map_cons, separated, List.length_append, texts]
      omega
    have read : inlineEntries (value d) (texts.length + 1) [] texts =
        ((p' :: ps).foldlM Pair.add []).map (·, rest) :=
      inlineEntries_pairs p' ps deep enough [] rest
    obtain ⟨c, more, starts, -, -, -, -, -, ne⟩ := p.key.spells.starts.1
    have here : texts = c :: (more ++ (p.gap.val ++ '=' :: p.said
        ((ps.map Pair.text).flatMap (',' :: ·) ++ '\x7d' :: rest))) := by
      simp only [List.map_cons, separated, List.append_assoc, texts]
      exact (p.body_append _).trans (by rw [starts]; rfl)
    clear_value texts
    simp only [value, passed]
    split
    · exact absurd (List.cons.inj here).1.symm ne
    · rw [read]
      show _ = (((p' :: ps).foldlM Pair.add []).map _).map _
      cases (p' :: ps).foldlM Pair.add [] <;> rfl

def Written.inline (ps : List (Pair depth)) : Written (depth + 1) where
  text := '\x7b' :: (separated ',' (ps.map Pair.text) ++ ['\x7d'])
  outcome := (ps.foldlM Pair.add []).map (.table .inline)
  starts := ⟨'\x7b', _, rfl, by decide⟩
  spells := by
    intro d rest deep ends
    obtain ⟨d, rfl⟩ : ∃ d', d = d' + 1 := Nat.exists_eq_succ_of_ne_zero (by omega)
    rw [List.cons_append, List.append_assoc]
    exact value_inline ps (Nat.le_of_succ_le_succ deep) rest

section Array

variable {d steps : Nat}

theorem arrayItems_item (i : Item depth) (deep : depth ≤ d) (items : List Value) {c : Char}
    (follows : c = ',' ∨ c = ']') (rest : List Char) :
    arrayItems (value d) (steps + 1) items (i.text ++ c :: rest) =
      i.outcome.bind fun v =>
        if c = ',' then arrayItems (value d) steps (v :: items) rest
        else .ok ((v :: items).reverse, rest) := by
  have follow : c ≠ '#' ∧ c ≠ '\n' ∧ c ≠ '\r' := by
    rcases follows with rfl | rfl <;> decide
  have passed : skipBlanks (i.margin.val ++ c :: rest) = c :: rest := by
    rw [skipBlanks_blanks]
    rcases follows with rfl | rfl <;> rfl
  have ends : Ends (i.margin.val ++ c :: rest) := by
    refine ⟨c, ?_, rest, passed⟩
    rcases follows with rfl | rfl <;> decide
  obtain ⟨first, more, starts, blank, comment, feed, carriage, bracket, -⟩ := i.value.starts
  have before : skipLines (i.text ++ c :: rest).length (i.text ++ c :: rest) =
      first :: (more ++ (i.margin.val ++ c :: rest)) := by
    refine skipLines_of_skipBlanks ?_ ⟨comment, feed, carriage⟩
    rw [Item.text, List.append_assoc, List.append_assoc, skipBlanks_blanks,
      skipBlanks_of_starts i.value.starts, starts]
    rfl
  have item : value d (first :: (more ++ (i.margin.val ++ c :: rest))) =
      i.value.outcome.map (·, i.margin.val ++ c :: rest) := by
    rw [← List.cons_append, ← starts]
    exact i.value.spells d _ deep ends
  have behind := skipLines_of_skipBlanks passed follow
  rw [arrayItems, before]
  split
  · rename_i closed
    exact absurd (List.cons.inj closed).1 bracket
  · rw [item, Item.outcome]
    cases i.value.outcome with
    | error fault => rfl
    | ok v =>
      simp only [Except.map, bind, Except.bind, behind]
      rcases follows with rfl | rfl <;> rfl

theorem arrayItems_items (i : Item depth) (others : List (Item depth)) (deep : depth ≤ d)
    (enough : others.length < steps) (items : List Value) (rest : List Char) :
    arrayItems (value d) steps items (separated ',' ((i :: others).map Item.text) ++ ']' :: rest) =
      ((i :: others).mapM Item.outcome).map (items.reverse ++ ·, rest) := by
  induction others generalizing i steps items with
  | nil =>
    obtain ⟨steps, rfl⟩ := Nat.exists_eq_succ_of_ne_zero (Nat.ne_of_gt enough)
    simp only [List.map_cons, List.map_nil, separated, List.flatMap_nil, List.append_nil]
    rw [arrayItems_item i deep items (.inr rfl)]
    cases read : i.outcome <;> simp [read, Except.map, Except.bind, bind, pure, Except.pure]
  | cons j others ih =>
    obtain ⟨steps, rfl⟩ := Nat.exists_eq_succ_of_ne_zero (Nat.ne_zero_of_lt enough)
    have further := ih j (Nat.lt_of_succ_lt_succ enough)
    simp only [List.map_cons, separated, List.flatMap_cons, List.append_assoc, List.cons_append]
      at further ⊢
    rw [arrayItems_item i deep items (.inl rfl), List.mapM_cons]
    cases i.outcome with
    | error fault => rfl
    | ok v =>
      show arrayItems (value d) steps (v :: items) _ =
        ((j :: others).mapM Item.outcome >>= fun vs => pure (v :: vs)).map _
      refine (further (v :: items)).trans ?_
      cases (j :: others).mapM Item.outcome <;>
        simp [Except.map, bind, Except.bind, pure, Except.pure]

theorem value_array (items : List (Item depth)) (deep : depth ≤ d) (rest : List Char) :
    value (d + 1) ('[' :: (separated ',' (items.map Item.text) ++ ']' :: rest)) =
      ((items.mapM Item.outcome).map .array).map (·, rest) := by
  cases items with
  | nil => rfl
  | cons i others =>
    let texts := separated ',' ((i :: others).map Item.text) ++ ']' :: rest
    have enough : others.length < texts.length + 1 := by
      have counted := length_le_flatMap_cons ',' (others.map Item.text)
      rw [List.length_map] at counted
      simp only [List.map_cons, separated, List.length_append, texts]
      omega
    show (arrayItems (value d) (texts.length + 1) [] texts >>= _) = _
    rw [arrayItems_items i others deep enough [] rest]
    cases (i :: others).mapM Item.outcome <;> rfl

end Array

def Written.array (items : List (Item depth)) : Written (depth + 1) where
  text := '[' :: (separated ',' (items.map Item.text) ++ [']'])
  outcome := (items.mapM Item.outcome).map .array
  starts := ⟨'[', _, rfl, by decide⟩
  spells := by
    intro d rest deep ends
    obtain ⟨d, rfl⟩ : ∃ d', d = d' + 1 := Nat.exists_eq_succ_of_ne_zero (by omega)
    rw [List.cons_append, List.append_assoc]
    exact value_array items (Nat.le_of_succ_le_succ deep) rest

end ModuleHost.Data.Toml
