import ModuleHost.Data.Json
import ModuleHost.Proofs.List
import ModuleHost.Proofs.Text.Digits
import Mathlib.Tactic

namespace ModuleHost.Data.Json

def Ends (rest : List Char) : Prop :=
  ∀ c more, skipBlanks rest = c :: more → c = ',' ∨ c = ']' ∨ c = '\x7d'

def Starts (text : List Char) : Prop :=
  ∃ c more, text = c :: more ∧ isBlank c = false ∧ c ≠ ']' ∧ c ≠ '\x7d'

abbrev Blanks := {cs : List Char // ∀ c ∈ cs, isBlank c = true}

def noBlanks : Blanks :=
  ⟨[], List.forall_mem_nil _⟩

structure Key where
  text : List Char
  name : String
  reads : ∀ rest, string (text ++ rest) = some (some name, rest)

/-- A value as it is written, with what it is read as. -/
structure Written where
  text : List Char
  tree : Tree
  starts : Starts text
  spells : ∀ depth rest, text.length ≤ depth → Ends rest →
    value depth (text ++ rest) = some (tree, rest)

structure Item where
  value : Written
  indent : Blanks
  margin : Blanks

structure Member where
  key : Key
  value : Written
  indent : Blanks
  gap : Blanks
  gap' : Blanks
  margin : Blanks

def Item.text (i : Item) : List Char :=
  i.indent.val ++ (i.value.text ++ i.margin.val)

def Item.tree (i : Item) : Tree :=
  i.value.tree

namespace Member

def body (m : Member) : List Char :=
  '"' :: (m.key.text ++ (m.gap.val ++ ':' :: (m.gap'.val ++ m.value.text)))

def text (m : Member) : List Char :=
  m.indent.val ++ (m.body ++ m.margin.val)

def entry (m : Member) : Option String × Tree :=
  (some m.key.name, m.value.tree)

end Member

variable {text rest : List Char} {depth steps : Nat}

theorem skipBlanks_blanks (bs : Blanks) (rest : List Char) :
    skipBlanks (bs.val ++ rest) = skipBlanks rest :=
  List.dropWhile_append_of_pos bs.property

theorem skipBlanks_of_starts (starts : Starts text) (rest : List Char) :
    skipBlanks (text ++ rest) = text ++ rest := by
  obtain ⟨c, more, rfl, blank, -⟩ := starts
  simp [skipBlanks, blank]

theorem Ends.blanks (bs : Blanks) (ends : Ends rest) : Ends (bs.val ++ rest) := by
  intro c more skipped
  rw [skipBlanks_blanks] at skipped
  exact ends c more skipped

theorem value_skipBlanks (bs : Blanks) (depth : Nat) (rest : List Char) :
    value depth (bs.val ++ rest) = value depth rest := by
  unfold value
  rw [skipBlanks_blanks]

def isPlain (c : Char) : Bool :=
  c ≠ '"' && c ≠ '\\' && ' ' ≤ c

theorem stringRest_plain {cs acc : List Char} (plain : cs.all isPlain = true) (rest : List Char) :
    stringRest ⟨some acc, none⟩ (cs ++ '"' :: rest) =
      some (some (String.ofList (acc.reverse ++ cs)), rest) := by
  induction cs generalizing acc with
  | nil => simp [stringRest, StringState.text]
  | cons c cs ih =>
    simp only [List.all_cons, isPlain, Bool.and_eq_true, decide_eq_true_eq] at plain
    obtain ⟨⟨⟨quote, slash⟩, printable⟩, plain⟩ := plain
    rw [List.cons_append, stringRest]
    · simp [slash, printable, StringState.push, ih plain]
    · exact quote
    · exact fun _ _ _ _ _ same => absurd same slash
    · exact fun _ _ same => absurd same slash

def Key.plain (name : String) (plain : name.toList.all isPlain = true) : Key where
  text := name.toList ++ ['"']
  name := name
  reads rest := by
    rw [List.append_assoc]
    refine (stringRest_plain plain rest).trans ?_
    rw [List.reverse_nil, List.nil_append, String.ofList_toList]

def integerTree (n : Int) : Tree :=
  if -2 ^ 63 ≤ n ∧ n < 2 ^ 64 then .integer n else .float

theorem not_numeric_of_ends (ends : Ends rest) :
    (∀ c more, rest = c :: more → Digits.isDecimal c = false ∧ c ≠ '.' ∧ c ≠ 'e' ∧ c ≠ 'E') := by
  rintro c more rfl
  by_cases blank : isBlank c = true
  · simp only [isBlank, Bool.or_eq_true, decide_eq_true_eq] at blank
    rcases blank with ((rfl | rfl) | rfl) | rfl <;> decide
  · have here := ends c more (by simp [skipBlanks, blank])
    rcases here with rfl | rfl | rfl <;> decide

theorem unsignedNumber_write (k : Nat) (ends : Ends rest) :
    unsignedNumber (Digits.write 10 k ++ rest) = some (Digits.write 10 k, true, rest) := by
  have all : ∀ c ∈ Digits.write 10 k, Digits.isDecimal c = true := fun c =>
    Digits.isDecimal_of_mem_write
  have other := not_numeric_of_ends ends
  have stops : ∀ c ∈ rest.head?, Digits.isDecimal c = false := fun c first => by
    obtain ⟨more, rfl⟩ := List.head?_eq_some_iff.mp first
    exact (other c more rfl).1
  obtain ⟨taken, left⟩ := span_append all stops
  unfold unsignedNumber
  simp only [taken, left]
  refine (if_pos ?_).trans ?_
  · split
    · rename_i none
      exact absurd none Digits.write_ne_nil
    · rfl
    · rename_i c more single same
      refine decide_eq_true fun zero => ?_
      subst zero
      obtain rfl := Digits.write_zero_cons same
      exact single rfl rfl
  · cases rest with
    | nil => rfl
    | cons c more =>
      obtain ⟨-, point, low, high⟩ := other c more rfl
      split
      · rename_i same
        exact absurd (List.cons.inj same).1 point
      · simp [low, high]

theorem number_decimal (n : Int) (ends : Ends rest) :
    number (Digits.decimal n ++ rest) = some (integerTree n, rest) := by
  have value : digitsValue (Digits.write 10 n.natAbs) = n.natAbs := Digits.foldl_write _
  have size : UInt64.size = 2 ^ 64 := rfl
  unfold Digits.decimal integerTree
  by_cases negative : n < 0
  · have signed : -(n.natAbs : Int) = n := by omega
    have exact : (0 < n.natAbs ∧ n.natAbs ≤ 0x8000_0000_0000_0000) ↔ -2 ^ 63 ≤ n ∧ n < 2 ^ 64 := by
      omega
    rw [if_pos negative, List.cons_append]
    simp only [number, unsignedNumber_write _ ends, value, signed, Option.bind_eq_bind,
      Option.bind_some, true_and, if_true, exact]
    split <;> rfl
  · have signed : (n.natAbs : Int) = n := by omega
    have exact : n.natAbs < UInt64.size ↔ -2 ^ 63 ≤ n ∧ n < 2 ^ 64 := by
      omega
    rw [if_neg negative, number]
    · simp only [unsignedNumber_write _ ends, value, signed, Option.bind_eq_bind, Option.bind_some,
        true_and, Bool.false_eq_true, if_false, exact]
      split <;> rfl
    · intro _ same
      obtain ⟨c, more, digits⟩ := List.exists_cons_of_ne_nil (Digits.write_ne_nil (n := n.natAbs))
      rw [digits, List.cons_append] at same
      obtain rfl := (List.cons.inj same).1
      exact absurd digits (Digits.write_ne_cons (by decide) more)

def Written.boolean (b : Bool) : Written where
  text := if b then "true".toList else "false".toList
  tree := .boolean b
  starts := by cases b <;> exact ⟨_, _, rfl, by decide⟩
  spells := by
    intro depth rest _ _
    cases b <;> unfold value <;> rfl

theorem head_decimal (n : Int) :
    ∃ c more, Digits.decimal n = c :: more ∧ (c = '-' ∨ Digits.isDecimal c = true) := by
  unfold Digits.decimal
  split
  · exact ⟨_, _, rfl, .inl rfl⟩
  · obtain ⟨c, more, same⟩ := List.exists_cons_of_ne_nil (Digits.write_ne_nil (n := n.natAbs))
    refine ⟨c, more, same, .inr (Digits.isDecimal_of_mem_write (n := n.natAbs) ?_)⟩
    rw [same]
    exact .head more

theorem ne_of_head {c x : Char} (head : c = '-' ∨ Digits.isDecimal c = true)
    (other : x ≠ '-' ∧ Digits.isDecimal x = false) : c ≠ x := by
  rintro rfl
  rcases head with same | digit
  · exact other.1 same
  · exact absurd (digit.symm.trans other.2) (by decide)

theorem starts_decimal (n : Int) : Starts (Digits.decimal n) := by
  obtain ⟨c, more, same, head⟩ := head_decimal n
  refine ⟨c, more, same, ?_, ne_of_head head (by decide), ne_of_head head (by decide)⟩
  simp [isBlank, ne_of_head (x := ' ') head (by decide), ne_of_head (x := '\n') head (by decide),
    ne_of_head (x := '\t') head (by decide), ne_of_head (x := '\r') head (by decide)]

theorem value_of_head {c : Char} {more : List Char} (head : c = '-' ∨ Digits.isDecimal c = true)
    (passed : skipBlanks (c :: more) = c :: more) (depth : Nat) :
    value depth (c :: more) = number (c :: more) := by
  unfold value
  rw [passed]
  split
  · rename_i same
    exact absurd (List.cons.inj same).1 (ne_of_head head (by decide))
  · rename_i same
    exact absurd (List.cons.inj same).1 (ne_of_head head (by decide))
  · rename_i same
    exact absurd (List.cons.inj same).1 (ne_of_head head (by decide))
  · rename_i same
    exact absurd (List.cons.inj same).1 (ne_of_head head (by decide))
  · rename_i same
    exact absurd (List.cons.inj same).1 (ne_of_head head (by decide))
  · rename_i same
    exact absurd (List.cons.inj same).1 (ne_of_head head (by decide))
  · rfl

def Written.decimal (n : Int) : Written where
  text := Digits.decimal n
  tree := integerTree n
  starts := starts_decimal n
  spells := by
    intro depth rest _ ends
    obtain ⟨c, more, same, head⟩ := head_decimal n
    have reads := number_decimal n ends
    have passed := skipBlanks_of_starts (starts_decimal n) rest
    rw [same, List.cons_append] at reads passed ⊢
    rw [value_of_head head passed, reads]

theorem value_item (i : Item) (enough : i.value.text.length ≤ depth)
    (ends : Ends rest) : value depth (i.text ++ rest) = some (i.tree, i.margin.val ++ rest) := by
  rw [Item.text, List.append_assoc, List.append_assoc, value_skipBlanks]
  exact i.value.spells depth _ enough (ends.blanks i.margin)

theorem ends_of_cons {c : Char} (closes : c = ',' ∨ c = ']' ∨ c = '\x7d') : Ends (c :: rest) := by
  intro c' more skipped
  have passed : skipBlanks (c :: rest) = c :: rest := by
    rcases closes with rfl | rfl | rfl <;> rfl
  obtain rfl := (List.cons.inj (passed.symm.trans skipped)).1
  exact closes

theorem moreItems_items (items : List Item) (acc : List Tree) (margin : Blanks)
    (enough : ∀ i ∈ items, i.value.text.length ≤ depth) (count : items.length < steps)
    (rest : List Char) :
    moreItems (value depth) steps acc
        (margin.val ++ ((items.map Item.text).flatMap (',' :: ·) ++ ']' :: rest)) =
      some (acc.reverse ++ items.map Item.tree, rest) := by
  induction items generalizing acc margin steps with
  | nil =>
    obtain ⟨steps, rfl⟩ := Nat.exists_eq_succ_of_ne_zero (Nat.ne_of_gt count)
    rw [moreItems, skipBlanks_blanks]
    simp [skipBlanks, isBlank]
  | cons i items ih =>
    obtain ⟨steps, rfl⟩ := Nat.exists_eq_succ_of_ne_zero (Nat.ne_zero_of_lt count)
    obtain ⟨here, others⟩ := List.forall_mem_cons.mp enough
    have ends : Ends ((items.map Item.text).flatMap (',' :: ·) ++ ']' :: rest) := by
      cases items <;> exact ends_of_cons (by simp)
    have further := ih (i.tree :: acc) i.margin others (Nat.lt_of_succ_lt_succ count)
    rw [moreItems, skipBlanks_blanks]
    simp only [List.map_cons, List.flatMap_cons, List.cons_append, List.append_assoc]
    show (value depth (i.text ++ _)).bind _ = _
    rw [value_item i here ends]
    simpa using further

theorem value_array (items : List Item) (enough : ∀ i ∈ items, i.value.text.length ≤ depth)
    (rest : List Char) :
    value (depth + 1) ('[' :: (separated ',' (items.map Item.text) ++ ']' :: rest)) =
      some (.array (items.map Item.tree), rest) := by
  cases items with
  | nil => rfl
  | cons i items =>
    let others := (items.map Item.text).flatMap (',' :: ·) ++ ']' :: rest
    obtain ⟨here, later⟩ := List.forall_mem_cons.mp enough
    have ends : Ends others := by
      cases items <;> exact ends_of_cons (by simp)
    have passed : skipBlanks (separated ',' ((i :: items).map Item.text) ++ ']' :: rest) =
        i.value.text ++ (i.margin.val ++ others) := by
      simp only [List.map_cons, separated, Item.text, List.append_assoc, others]
      rw [skipBlanks_blanks, skipBlanks_of_starts i.value.starts]
    have first := i.value.spells depth (i.margin.val ++ others) here (ends.blanks i.margin)
    have count : items.length < (i.margin.val ++ others).length + 1 := by
      have counted := length_le_flatMap_cons ',' (items.map Item.text)
      rw [List.length_map] at counted
      simp only [List.length_append, others]
      omega
    have further := moreItems_items items [i.tree] i.margin later count rest
    obtain ⟨c, more, starts, -, ne, -⟩ := i.value.starts
    unfold value
    rw [show skipBlanks ('[' :: (separated ',' ((i :: items).map Item.text) ++ ']' :: rest)) =
      '[' :: (separated ',' ((i :: items).map Item.text) ++ ']' :: rest) from rfl]
    simp only [passed]
    rw [starts, List.cons_append] at first ⊢
    split
    · rename_i zero
      exact absurd zero (Nat.succ_ne_zero depth)
    · rename_i same
      exact absurd (List.cons.inj same).1 ne
    · rename_i same _
      cases same
      rw [first]
      show (moreItems (value depth) ((i.margin.val ++ others).length + 1) [i.tree]
        (i.margin.val ++ others)).bind _ = _
      rw [further]
      rfl

def Written.array (items : List Item) : Written where
  text := '[' :: (separated ',' (items.map Item.text) ++ [']'])
  tree := .array (items.map Item.tree)
  starts := ⟨'[', _, rfl, by decide⟩
  spells := by
    intro depth rest enough _
    rw [List.length_cons, List.length_append] at enough
    obtain ⟨depth, rfl⟩ : ∃ d, depth = d + 1 := Nat.exists_eq_succ_of_ne_zero (by omega)
    rw [List.cons_append, List.append_assoc]
    refine value_array items (fun i member => ?_) rest
    have inside := length_le_separated ',' (List.mem_map_of_mem (f := Item.text) member)
    simp only [Item.text, List.length_append] at inside
    omega

theorem member_text (m : Member) (enough : m.value.text.length ≤ depth) (ends : Ends rest) :
    member (value depth) (m.text ++ rest) = some (m.entry, m.margin.val ++ rest) := by
  have passed : skipBlanks (m.text ++ rest) = '"' :: (m.key.text ++
      (m.gap.val ++ ':' :: (m.gap'.val ++ (m.value.text ++ (m.margin.val ++ rest))))) := by
    rw [Member.text, List.append_assoc, skipBlanks_blanks]
    simp [Member.body, skipBlanks, isBlank]
  have colon : skipBlanks (m.gap.val ++
      ':' :: (m.gap'.val ++ (m.value.text ++ (m.margin.val ++ rest)))) =
      ':' :: (m.gap'.val ++ (m.value.text ++ (m.margin.val ++ rest))) := by
    rw [skipBlanks_blanks]
    rfl
  have reads := m.value.spells depth (m.margin.val ++ rest) enough (ends.blanks m.margin)
  rw [member, passed]
  show (string (m.key.text ++ _)).bind _ = _
  rw [m.key.reads]
  simp only [Option.bind_some, colon]
  show (value depth (m.gap'.val ++ (m.value.text ++ (m.margin.val ++ rest)))).bind _ = _
  rw [value_skipBlanks, reads]
  rfl

theorem moreMembers_members (ms : List Member) (acc : List (Option String × Tree))
    (margin : Blanks) (enough : ∀ m ∈ ms, m.value.text.length ≤ depth) (count : ms.length < steps)
    (rest : List Char) :
    moreMembers (value depth) steps acc
        (margin.val ++ ((ms.map Member.text).flatMap (',' :: ·) ++ '\x7d' :: rest)) =
      some (acc.reverse ++ ms.map Member.entry, rest) := by
  induction ms generalizing acc margin steps with
  | nil =>
    obtain ⟨steps, rfl⟩ := Nat.exists_eq_succ_of_ne_zero (Nat.ne_of_gt count)
    rw [moreMembers, skipBlanks_blanks]
    simp [skipBlanks, isBlank]
  | cons m ms ih =>
    obtain ⟨steps, rfl⟩ := Nat.exists_eq_succ_of_ne_zero (Nat.ne_zero_of_lt count)
    obtain ⟨here, others⟩ := List.forall_mem_cons.mp enough
    have ends : Ends ((ms.map Member.text).flatMap (',' :: ·) ++ '\x7d' :: rest) := by
      cases ms <;> exact ends_of_cons (by simp)
    have further := ih (m.entry :: acc) m.margin others (Nat.lt_of_succ_lt_succ count)
    rw [moreMembers, skipBlanks_blanks]
    simp only [List.map_cons, List.flatMap_cons, List.cons_append, List.append_assoc]
    show (member (value depth) (m.text ++ _)).bind _ = _
    rw [member_text m here ends]
    simpa using further

theorem value_object (ms : List Member) (enough : ∀ m ∈ ms, m.value.text.length ≤ depth)
    (rest : List Char) :
    value (depth + 1) ('\x7b' :: (separated ',' (ms.map Member.text) ++ '\x7d' :: rest)) =
      some (.table (ms.map Member.entry), rest) := by
  cases ms with
  | nil => rfl
  | cons m ms =>
    let others := (ms.map Member.text).flatMap (',' :: ·) ++ '\x7d' :: rest
    obtain ⟨here, later⟩ := List.forall_mem_cons.mp enough
    have ends : Ends others := by
      cases ms <;> exact ends_of_cons (by simp)
    let m' : Member := { m with indent := noBlanks }
    have passed : skipBlanks (separated ',' ((m :: ms).map Member.text) ++ '\x7d' :: rest) =
        m'.text ++ others := by
      simp only [List.map_cons, separated, Member.text, List.append_assoc, others]
      rw [skipBlanks_blanks]
      simp [Member.body, skipBlanks, isBlank, noBlanks, m']
    have first := member_text m' here ends
    have count : ms.length < (m.margin.val ++ others).length + 1 := by
      have counted := length_le_flatMap_cons ',' (ms.map Member.text)
      rw [List.length_map] at counted
      simp only [List.length_append, others]
      omega
    have further := moreMembers_members ms [m.entry] m.margin later count rest
    unfold value
    rw [show skipBlanks ('\x7b' :: (separated ',' ((m :: ms).map Member.text) ++ '\x7d' :: rest)) =
      '\x7b' :: (separated ',' ((m :: ms).map Member.text) ++ '\x7d' :: rest) from rfl]
    simp only [passed]
    show (member (value depth) (m'.text ++ others)).bind _ = _
    rw [first]
    show (moreMembers (value depth) ((m.margin.val ++ others).length + 1) [m.entry]
      (m.margin.val ++ others)).bind _ = _
    rw [further]
    rfl

def Written.object (ms : List Member) : Written where
  text := '\x7b' :: (separated ',' (ms.map Member.text) ++ ['\x7d'])
  tree := .table (ms.map Member.entry)
  starts := ⟨'\x7b', _, rfl, by decide⟩
  spells := by
    intro depth rest enough _
    rw [List.length_cons, List.length_append] at enough
    obtain ⟨depth, rfl⟩ : ∃ d, depth = d + 1 := Nat.exists_eq_succ_of_ne_zero (by omega)
    rw [List.cons_append, List.append_assoc]
    refine value_object ms (fun m member => ?_) rest
    have inside := length_le_separated ',' (List.mem_map_of_mem (f := Member.text) member)
    simp only [Member.text, Member.body, List.length_append, List.length_cons] at inside
    omega

theorem read_text (i : Item) : read (String.ofList i.text) = some i.tree := by
  have ends : Ends [] := nofun
  have enough : i.value.text.length ≤ i.text.length + 1 := by
    simp only [Item.text, List.length_append]
    omega
  have reads := value_item i enough ends
  rw [List.append_nil, List.append_nil] at reads
  have nothing : skipBlanks i.margin.val = [] := by
    have passed := skipBlanks_blanks i.margin []
    rwa [List.append_nil] at passed
  simp only [read, String.toList_ofList, reads, nothing]
  rfl

end ModuleHost.Data.Json
