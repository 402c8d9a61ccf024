import ModuleHost.Proofs.Data.Toml.Layout

namespace ModuleHost.Data.Toml

/-- Blanks and perhaps a comment. -/
structure Remark where
  blanks : Blanks
  comment : Option {cs : List Char // ∀ c ∈ cs, isPlain c = true}

inductive Statement where
  | pair (p : Pair depthBound)
  | dotted (group : Key) (gap : Blanks) (p : Pair depthBound)
  | header (name : Key)

structure Ending where
  remark : Remark
  notes : List Remark

structure Line where
  statement : Statement
  ending : Ending

variable {state : State} {rest : List Char}

def Remark.text (r : Remark) : List Char :=
  r.blanks.val ++ (r.comment.elim [] ('#' :: ·.val))

def notesText (notes : List Remark) : List Char :=
  notes.flatMap fun r => r.text ++ ['\n']

def State.add (state : State) (path : List String) (p : Pair depthBound) : Except Fault State := do
  let v ← p.value.outcome
  let root ← state.root.at (fun entries => entries.addDotted path p.key.name v) state.current
  return ⟨root, state.current⟩

namespace Statement

def text : Statement → List Char
  | pair p => p.text
  | dotted group gap p => group.text ++ gap.val ++ '.' :: p.text
  | header name => '[' :: (name.text ++ [']'])

def apply (state : State) : Statement → Except Fault State
  | pair p => state.add [] p
  | dotted group _ p => state.add [group.name] p
  | header name => do
    let root ← state.root.openTable name.name
    return ⟨root, [name.name]⟩

end Statement

namespace Line

def text (l : Line) : List Char :=
  l.statement.text ++ (l.ending.remark.text ++ '\n' :: notesText l.ending.notes)

def apply (state : State) (l : Line) : Except Fault State :=
  l.statement.apply state

end Line

theorem skipComment_remark (r : Remark) (rest : List Char) :
    skipComment (skipBlanks (r.text ++ '\n' :: rest)) = '\n' :: rest := by
  rw [Remark.text, List.append_assoc, skipBlanks_blanks]
  cases r.comment with
  | none => rfl
  | some words =>
    show (words.val ++ '\n' :: rest).dropWhile isPlain = '\n' :: rest
    rw [List.dropWhile_append_of_pos words.property]
    rfl

theorem ends_remark (r : Remark) (rest : List Char) : Ends (r.text ++ '\n' :: rest) := by
  rw [Remark.text, List.append_assoc]
  refine Stops.blanks r.blanks ?_
  cases r.comment with
  | none => exact ⟨'\n', by decide, rest, rfl⟩
  | some words => exact ⟨'#', by decide, words.val ++ '\n' :: rest, rfl⟩

theorem endOfLine_remark (r : Remark) (rest : List Char) :
    endOfLine (r.text ++ '\n' :: rest) = .ok rest := by
  rw [endOfLine, skipComment_remark]
  rfl

theorem line_remark (r : Remark) (rest : List Char) :
    line state (r.text ++ '\n' :: rest) = .ok (state, rest) := by
  have passed : skipBlanks (r.text ++ '\n' :: rest) = (r.comment.elim [] ('#' :: ·.val)) ++
      '\n' :: rest := by
    rw [Remark.text, List.append_assoc, skipBlanks_blanks]
    cases r.comment <;> rfl
  have skipped := skipComment_remark r rest
  rw [passed] at skipped
  unfold line
  rw [passed]
  cases comment : r.comment with
  | none => rfl
  | some words =>
    rw [comment] at skipped
    simp only [Option.elim_some, List.cons_append] at skipped ⊢
    split
    · rename_i same
      exact absurd (List.cons.inj same).1 (by decide)
    · rename_i same
      exact absurd (List.cons.inj same).1 (by decide)
    · rw [skipped]
      rfl

theorem line_of_key {cs : List Char} (key : Key) (more : List Char)
    (here : skipBlanks cs = key.text ++ more) :
    line state cs = do
      let (((path, key), v), rest) ← keyValue (value depthBound) (key.text ++ more)
      let root ← state.root.at (fun entries => entries.addDotted path key v) state.current
      let rest ← endOfLine rest
      return (⟨root, state.current⟩, rest) := by
  obtain ⟨⟨c, others, starts, -, comment, feed, carriage, -⟩, bracket, -⟩ := key.spells.starts
  rw [starts] at bracket here ⊢
  rw [List.cons_append] at here ⊢
  have noHeader : c ≠ '[' := fun same => bracket (congrArg some same)
  have noComment := skipComment_cons comment (others ++ more)
  have unbroken := lineBreak_cons feed carriage (others ++ more)
  unfold line
  rw [here]
  split
  · rename_i same
    exact absurd (List.cons.inj same).1 noHeader
  · rename_i same
    exact absurd (List.cons.inj same).1 noHeader
  · rw [noComment]
    simp only [unbroken]

theorem bind_endOfLine (x : Except Fault Entries) (f : Entries → State) (margin : Blanks)
    (r : Remark) (rest : List Char) :
    (do
      let root ← x
      let rest ← endOfLine (margin.val ++ (r.text ++ '\n' :: rest))
      return (f root, rest)) =
    (do
      let root ← x
      return f root : Except Fault State).map (·, rest) := by
  have ended : endOfLine (margin.val ++ (r.text ++ '\n' :: rest)) = .ok rest := by
    rw [endOfLine, skipBlanks_blanks]
    exact endOfLine_remark r rest
  rw [ended]
  cases x <;> rfl

theorem line_of_pair {cs more : List Char} {key : Key} {path : List String} (p : Pair depthBound)
    (r : Remark) (here : skipBlanks cs = key.text ++ more)
    (reads : keyValue (value depthBound) (key.text ++ more) = p.value.outcome.map fun v =>
      (((path, p.key.name), v), p.margin.val ++ (r.text ++ '\n' :: rest))) :
    line state cs = (state.add path p).map (·, rest) := by
  rw [line_of_key key more here, reads, State.add]
  cases p.value.outcome with
  | error fault => rfl
  | ok v => exact bind_endOfLine _ (⟨·, state.current⟩) p.margin r rest

theorem line_header (name : Key) (r : Remark) (rest : List Char) :
    line state ('[' :: (name.text ++ ']' :: (r.text ++ '\n' :: rest))) =
      (Statement.apply state (.header name)).map (·, rest) := by
  obtain ⟨starts, bracket, -⟩ := name.spells.starts
  have path : keyPath (name.text ++ ']' :: (r.text ++ '\n' :: rest)) =
      .ok (([], name.name), ']' :: (r.text ++ '\n' :: rest)) := by
    rw [keyPath, depthBound, dottedKey_last (skipBlanks_of_starts starts _) rfl (.inr rfl)]
    rfl
  have header : headerName [']'] (name.text ++ ']' :: (r.text ++ '\n' :: rest)) =
      .ok (([], name.name), r.text ++ '\n' :: rest) := by
    rw [headerName, path]
    rfl
  unfold line
  rw [show skipBlanks ('[' :: (name.text ++ ']' :: (r.text ++ '\n' :: rest))) =
    '[' :: (name.text ++ ']' :: (r.text ++ '\n' :: rest)) from rfl]
  split
  · rename_i same
    obtain ⟨c, others, first, -⟩ := starts
    rw [first, List.cons_append] at same
    obtain rfl := (List.cons.inj (List.cons.inj same).2).1
    rw [first] at bracket
    exact absurd rfl bracket
  · rename_i same
    obtain rfl := (List.cons.inj same).2
    rw [header]
    exact bind_endOfLine _ (⟨·, [name.name]⟩) noBlanks r rest
  · rename_i other
    exact absurd rfl (other _)

theorem line_statement (state : State) (s : Statement) (r : Remark) (rest : List Char) :
    line state (s.text ++ (r.text ++ '\n' :: rest)) = (s.apply state).map (·, rest) := by
  cases s with
  | pair p =>
    have here := p.skipBlanks_text (r.text ++ '\n' :: rest)
    have reads := p.keyValue_body (Nat.le_refl depthBound) (ends_remark r rest)
    rw [p.body_append] at here reads
    exact line_of_pair p r here reads
  | dotted group gap p =>
    have reads := p.keyValue_dotted group gap (Nat.le_refl depthBound) (ends_remark r rest)
    rw [Statement.text, List.append_assoc, List.append_assoc]
    exact line_of_pair p r (skipBlanks_of_starts group.spells.starts.1 _) reads
  | header name =>
    rw [Statement.text, List.cons_append, List.append_assoc]
    exact line_header name r rest

theorem lines_of_line {s : State} {cs : List Char} {steps : Nat} (written : cs ≠ [])
    (reads : line state cs = .ok (s, rest)) :
    lines (steps + 1) state cs = lines steps s rest := by
  obtain ⟨c, more, rfl⟩ := List.exists_cons_of_ne_nil written
  show (line state (c :: more) >>= _) = _
  rw [reads]
  rfl

theorem lines_notes (state : State) (notes : List Remark) {steps : Nat}
    (enough : (notesText notes ++ rest).length ≤ steps) :
    ∃ left, rest.length ≤ left ∧
      lines steps state (notesText notes ++ rest) = lines left state rest := by
  induction notes generalizing steps with
  | nil => exact ⟨steps, enough, rfl⟩
  | cons r notes ih =>
    have parts : notesText (r :: notes) ++ rest = r.text ++ '\n' :: (notesText notes ++ rest) := by
      simp [notesText]
    rw [parts, List.length_append, List.length_cons] at enough
    obtain ⟨steps, rfl⟩ : ∃ n, steps = n + 1 := Nat.exists_eq_succ_of_ne_zero (by omega)
    obtain ⟨left, more, same⟩ := @ih steps (by omega)
    exact ⟨left, more, by rw [parts, lines_of_line (by simp) (line_remark r _), same]⟩

theorem lines_text (ls : List Line) {steps : Nat}
    (enough : (ls.flatMap Line.text).length ≤ steps) :
    lines steps state (ls.flatMap Line.text) = (ls.foldlM Line.apply state).map State.root := by
  -- Every line takes a step, and the bound on steps leaves one for each of its characters.
  induction ls generalizing state steps with
  | nil =>
    cases steps <;> rfl
  | cons l ls ih =>
    have parts : (l :: ls).flatMap Line.text = l.statement.text ++
        (l.ending.remark.text ++ '\n' :: (notesText l.ending.notes ++ ls.flatMap Line.text)) := by
      simp [Line.text]
    rw [parts, List.length_append, List.length_append, List.length_cons] at enough
    obtain ⟨steps, rfl⟩ : ∃ n, steps = n + 1 := Nat.exists_eq_succ_of_ne_zero (by omega)
    have here := line_statement state l.statement l.ending.remark
      (notesText l.ending.notes ++ ls.flatMap Line.text)
    rw [parts, List.foldlM_cons, Line.apply]
    cases done : l.statement.apply state with
    | error fault =>
      rw [done] at here
      obtain ⟨c, more, same⟩ := List.exists_cons_of_ne_nil (l := l.statement.text ++
        (l.ending.remark.text ++ '\n' :: (notesText l.ending.notes ++ ls.flatMap Line.text)))
        (by simp)
      rw [same] at here ⊢
      show (line state (c :: more) >>= _) = _
      rw [here]
      rfl
    | ok s =>
      rw [done] at here
      have enough : (notesText l.ending.notes ++ ls.flatMap Line.text).length ≤ steps := by omega
      obtain ⟨left, more, same⟩ := lines_notes s l.ending.notes enough
      rw [lines_of_line (by simp) here, same]
      exact ih more

-- No document starts with a byte order mark.

theorem head_blanks (bs : Blanks) {cs : List Char} (unmarked : cs.head? ≠ some '\ufeff') :
    (bs.val ++ cs).head? ≠ some '\ufeff' := by
  cases texts : bs.val with
  | nil => exact unmarked
  | cons c more =>
    rintro same
    obtain rfl := Option.some.inj same
    have member : '\ufeff' ∈ bs.val := by
      rw [texts]
      exact .head more
    exact absurd (bs.property _ member) (by decide)

theorem head_key (key : Key) (more : List Char) : (key.text ++ more).head? ≠ some '\ufeff' := by
  obtain ⟨⟨c, others, starts, -⟩, -, unmarked⟩ := key.spells.starts
  rw [starts] at unmarked ⊢
  exact unmarked

theorem head_line (l : Line) (more : List Char) : (l.text ++ more).head? ≠ some '\ufeff' := by
  unfold Line.text
  cases l.statement with
  | pair p =>
    simp only [Statement.text, Pair.text, Pair.body, List.append_assoc]
    exact head_blanks p.indent (head_key p.key _)
  | dotted group gap p =>
    simp only [Statement.text, List.append_assoc]
    exact head_key group _
  | header name => exact fun same => absurd (Option.some.inj same) (by decide)

theorem head_notes (notes : List Remark) {cs : List Char} (unmarked : cs.head? ≠ some '\ufeff') :
    (notesText notes ++ cs).head? ≠ some '\ufeff' := by
  cases notes with
  | nil => exact unmarked
  | cons r notes =>
    simp only [notesText, Remark.text, List.flatMap_cons, List.append_assoc]
    refine head_blanks r.blanks ?_
    cases r.comment <;> exact fun same => absurd (Option.some.inj same) (by decide)

theorem read_document (notes : List Remark) (ls : List Line) :
    read (String.ofList (notesText notes ++ ls.flatMap Line.text)) =
      (ls.foldlM Line.apply ⟨[], []⟩).map fun s => .table (entriesToTrees s.root) := by
  have unmarked : (notesText notes ++ ls.flatMap Line.text).head? ≠ some '\ufeff' := by
    refine head_notes notes ?_
    cases ls with
    | nil => exact fun same => absurd same (by decide)
    | cons l ls => exact head_line l _
  obtain ⟨left, more, same⟩ := lines_notes ⟨[], []⟩ notes
    (Nat.le_refl (notesText notes ++ ls.flatMap Line.text).length)
  unfold read
  rw [String.toList_ofList]
  split
  · rename_i marked
    exact absurd (congrArg List.head? marked) unmarked
  · show (lines _ _ _).map _ = _
    rw [same, lines_text ls more]
    cases ls.foldlM Line.apply ⟨[], []⟩ <;> rfl

end ModuleHost.Data.Toml
