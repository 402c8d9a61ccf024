import ModuleHost.Proofs.Data.Toml.Additions
import ModuleHost.Proofs.Data.Toml.Lines

namespace ModuleHost.Data.Toml

structure Entry where
  group : Option (Key × Blanks)
  pair : Pair depthBound
  ending : Ending

structure Section where
  name : Key
  ending : Ending
  entries : List Entry

structure Document where
  notes : List Remark
  top : List Entry
  sections : List Section

def Pair.addition {depth : Nat} (p : Pair depth) : Addition :=
  ⟨none, p.key.name, p.value.outcome⟩

namespace Entry

def line (e : Entry) : Line where
  statement :=
    match e.group with
    | none => .pair e.pair
    | some (group, gap) => .dotted group gap e.pair
  ending := e.ending

def addition (e : Entry) : Addition :=
  ⟨e.group.map (·.1.name), e.pair.key.name, e.pair.value.outcome⟩

end Entry

namespace Section

def lines (s : Section) : List Line :=
  ⟨.header s.name, s.ending⟩ :: s.entries.map Entry.line

def additions (s : Section) : List Addition :=
  s.entries.map Entry.addition

end Section

namespace Document

def lines (d : Document) : List Line :=
  d.top.map Entry.line ++ d.sections.flatMap Section.lines

def text (d : Document) : String :=
  String.ofList (notesText d.notes ++ d.lines.flatMap Line.text)

def additions (d : Document) : List Addition :=
  d.top.map Entry.addition

structure Distinct (d : Document) : Prop where
  top : Addition.Distinct d.additions
  sections : (d.sections.map (·.name.name)).Nodup
  apart : ∀ s ∈ d.sections, Addition.Unused d.additions s.name.name
  inside : ∀ s ∈ d.sections, Addition.Distinct s.additions

structure Readable (d : Document) : Prop where
  top : ∀ a ∈ d.additions, a.Readable
  inside : ∀ s ∈ d.sections, ∀ a ∈ s.additions, a.Readable

end Document

section

variable {root : Entries} {content : String → Option Value} {name : String} {es es' : Entries}

theorem apply_line (state : State) (e : Entry) :
    e.line.apply state = state.add e.addition.group.toList e.pair := by
  obtain ⟨group, pair, ending⟩ := e
  cases group <;> rfl

theorem foldlM_top (entries : List Entry) (root : Entries) :
    (entries.map Entry.line).foldlM Line.apply ⟨root, []⟩ =
      ((entries.map Entry.addition).foldlM Addition.add root).map (⟨·, []⟩) := by
  induction entries generalizing root with
  | nil => rfl
  | cons e entries ih =>
    have here : e.line.apply ⟨root, []⟩ = (e.addition.add root).map (⟨·, []⟩) := by
      rw [apply_line, State.add, Addition.add, Entry.addition]
      cases e.pair.value.outcome <;> rfl
    rw [List.map_cons, List.map_cons, List.foldlM_cons, List.foldlM_cons, here]
    cases e.addition.add root with
    | error fault => rfl
    | ok root => exact ih root

theorem foldlM_inside (entries : List Entry) (holds : Holds root content)
    (opened : content name = some (.table .header es))
    (added : (entries.map Entry.addition).foldlM Addition.add es = .ok es') :
    ∃ root', (entries.map Entry.line).foldlM Line.apply ⟨root, [name]⟩ = .ok ⟨root', [name]⟩ ∧
      Holds root' (Function.update content name (some (.table .header es'))) := by
  induction entries generalizing root content es with
  | nil =>
    cases added
    refine ⟨root, rfl, ?_⟩
    rwa [← opened, Function.update_eq_self]
  | cons e entries ih =>
    rw [List.map_cons, List.foldlM_cons] at added
    obtain ⟨es₁, first, others⟩ := bind_eq_ok.mp added
    have here : e.line.apply ⟨root, [name]⟩ =
        .ok ⟨root.replace name (.table .header es₁), [name]⟩ := by
      obtain ⟨v, reads, adds⟩ := bind_eq_ok.mp first
      have adds : es.addDotted e.addition.group.toList e.pair.key.name v = .ok es₁ := adds
      have reads : e.pair.value.outcome = .ok v := reads
      rw [apply_line, State.add, reads]
      show (Entries.at _ [name] root >>= _) = _
      rw [Entries.at, holds.lookup, opened]
      show (es.addDotted e.addition.group.toList e.pair.key.name v >>= _) >>= _ = _
      rw [adds]
      rfl
    -- The table that the header has opened is replaced, and its name keeps its place.
    have changed : Holds (root.replace name (.table .header es₁))
        (Function.update content name (some (.table .header es₁))) :=
      holds.replace (by simp [opened])
    obtain ⟨root', done, holds'⟩ := ih changed (Function.update_self ..) others
    refine ⟨root', ?_, ?_⟩
    · rw [List.map_cons, List.foldlM_cons, here]
      exact done
    · rwa [Function.update_idem] at holds'

theorem foldlM_section (s : Section) (current : List String) (holds : Holds root content)
    (fresh : content s.name.name = none)
    (added : s.additions.foldlM Addition.add [] = .ok es) :
    ∃ root', s.lines.foldlM Line.apply ⟨root, current⟩ = .ok ⟨root', [s.name.name]⟩ ∧
      Holds root' (Function.update content s.name.name (some (.table .header es))) := by
  have opened := holds.append (v := .table .header []) fresh
  obtain ⟨root', done, holds'⟩ := foldlM_inside s.entries opened (Function.update_self ..) added
  refine ⟨root', ?_, ?_⟩
  · have here : Line.apply ⟨root, current⟩ ⟨.header s.name, s.ending⟩ =
        .ok ⟨root ++ [(s.name.name, .table .header [])], [s.name.name]⟩ := by
      show (root.openTable s.name.name >>= _) = _
      rw [Entries.openTable, holds.lookup, fresh]
      rfl
    rw [Section.lines, List.foldlM_cons, here]
    exact done
  · rwa [Function.update_idem] at holds'

theorem foldlM_sections (sections : List Section) (current : List String)
    (holds : Holds root content) (nodup : (sections.map (·.name.name)).Nodup)
    (fresh : ∀ s ∈ sections, content s.name.name = none)
    (inside : ∀ s ∈ sections, Addition.Distinct s.additions ∧ ∀ a ∈ s.additions, a.Readable) :
    ∃ state content', (sections.flatMap Section.lines).foldlM Line.apply ⟨root, current⟩ =
        .ok state ∧ Holds state.root content' ∧
      (∀ s ∈ sections, ∃ es, content' s.name.name = some (.table .header es) ∧
        Holds es (Addition.found s.additions)) ∧
      ∀ name, name ∉ sections.map (·.name.name) → content' name = content name := by
  induction sections generalizing root content current with
  | nil => exact ⟨_, content, rfl, holds, nofun, fun _ _ => rfl⟩
  | cons s sections ih =>
    obtain ⟨first, others⟩ := List.forall_mem_cons.mp inside
    obtain ⟨new, nodup⟩ := List.nodup_cons.mp nodup
    obtain ⟨es, added, holdsInner⟩ := Addition.foldlM_add first.1 first.2
    obtain ⟨root', done, holds'⟩ :=
      foldlM_section s current holds (fresh s (.head _)) added
    -- Names of sections are distinct, so the sections that follow find theirs unused.
    have later : ∀ s' ∈ sections, Function.update content s.name.name (some (.table .header es))
        s'.name.name = none := by
      intro s' member
      have other : s'.name.name ≠ s.name.name := fun same =>
        new (List.mem_map.mpr ⟨s', member, same⟩)
      rw [Function.update_of_ne other]
      exact fresh s' (.tail _ member)
    obtain ⟨state, content', rest, final, opened, same⟩ :=
      ih [s.name.name] holds' nodup later others
    refine ⟨state, content', ?_, final, ?_, fun name absent => ?_⟩
    · rw [List.flatMap_cons, List.foldlM_append, done]
      exact rest
    · refine List.forall_mem_cons.mpr ⟨⟨es, ?_, holdsInner⟩, opened⟩
      rw [same _ new, Function.update_self]
    · rw [List.map_cons, List.mem_cons, not_or] at absent
      obtain ⟨other, absent⟩ := absent
      rw [same name absent, Function.update_of_ne other]

end

namespace Document

variable (d : Document)

/-- What the table of a document holds: its sections, and what was added before them. -/
structure Content (d : Document) (content : String → Option Value) : Prop where
  opened : ∀ s ∈ d.sections, ∃ es, content s.name.name = some (.table .header es) ∧
    Holds es (Addition.found s.additions)
  top : ∀ name, name ∉ d.sections.map (·.name.name) →
    content name = Addition.found d.additions name

theorem read_eq_ok (distinct : d.Distinct) (readable : d.Readable) :
    ∃ root content, read d.text = .ok (.table (entriesToTrees root)) ∧ Holds root content ∧
      d.Content content := by
  obtain ⟨es, added, holds⟩ := Addition.foldlM_add distinct.top readable.top
  obtain ⟨state, content, done, final, opened, same⟩ := foldlM_sections d.sections [] holds
    distinct.sections (fun s member => Addition.found_of_unused (distinct.apart s member))
    fun s member => ⟨distinct.inside s member, readable.inside s member⟩
  refine ⟨state.root, content, ?_, final, opened, same⟩
  have top : (d.top.map Entry.line).foldlM Line.apply ⟨[], []⟩ = .ok ⟨es, []⟩ := by
    rw [foldlM_top]
    exact map_eq_ok.mpr ⟨es, added, rfl⟩
  rw [text, read_document, lines, List.foldlM_append, top]
  exact map_eq_ok.mpr ⟨state, done, rfl⟩

theorem read_eq_error (unreadable : ¬ d.Readable) : ∃ fault, read d.text = .error fault := by
  have fails (e : Entry) (unread : ¬ e.addition.Readable) (state : State) :
      ∃ fault, e.line.apply state = .error fault := by
    rw [apply_line, State.add]
    cases outcome : e.pair.value.outcome with
    | error fault => exact ⟨fault, rfl⟩
    | ok v => exact absurd ⟨v, outcome⟩ unread
  have failing : ∃ l ∈ d.lines, ∀ state, ∃ fault, l.apply state = .error fault := by
    by_contra none
    have all (e : Entry) (member : e.line ∈ d.lines) : e.addition.Readable :=
      by_contra fun unread => none ⟨e.line, member, fails e unread⟩
    refine unreadable ⟨fun a member => ?_, fun s isSection a member => ?_⟩
    · obtain ⟨e, isTop, rfl⟩ := List.mem_map.mp member
      exact all e (List.mem_append_left _ (List.mem_map_of_mem isTop))
    · obtain ⟨e, isInside, rfl⟩ := List.mem_map.mp member
      refine all e (List.mem_append_right _ (List.mem_flatMap.mpr ⟨s, isSection, ?_⟩))
      exact .tail _ (List.mem_map_of_mem isInside)
  obtain ⟨fault, failed⟩ := foldlM_eq_error ⟨[], []⟩ failing
  refine ⟨fault, ?_⟩
  rw [text, read_document]
  exact map_eq_error.mpr failed

end Document

end ModuleHost.Data.Toml
