namespace ModuleHost.Data

structure Keyed (κ α : Type) where
  entries : List (κ × α)
  distinct : (entries.map Prod.fst).Nodup

namespace Keyed

variable {κ α : Type}

def empty : Keyed κ α :=
  ⟨[], List.nodup_nil⟩

def keys (m : Keyed κ α) : List κ :=
  m.entries.map Prod.fst

def size (m : Keyed κ α) : Nat :=
  m.entries.length

def isEmpty (m : Keyed κ α) : Bool :=
  m.entries.isEmpty

theorem ext {m m' : Keyed κ α} (same : m.entries = m'.entries) : m = m' := by
  cases m
  cases m'
  cases same
  rfl

theorem keys_nodup (m : Keyed κ α) : m.keys.Nodup :=
  m.distinct

theorem length_keys (m : Keyed κ α) : m.keys.length = m.size :=
  List.length_map ..

theorem isEmpty_iff (m : Keyed κ α) : m.isEmpty = true ↔ m.size = 0 := by
  rw [isEmpty, size, List.isEmpty_iff, List.length_eq_zero_iff]

variable [DecidableEq κ]

def get? (m : Keyed κ α) (k : κ) : Option α :=
  m.entries.lookup k

def putEntry (k : κ) (v : α) : List (κ × α) → List (κ × α)
  | [] => [(k, v)]
  | e :: es => if e.1 = k then (k, v) :: es else e :: putEntry k v es

theorem map_fst_putEntry (k : κ) (v : α) (es : List (κ × α)) :
    (putEntry k v es).map Prod.fst =
      if k ∈ es.map Prod.fst then es.map Prod.fst else es.map Prod.fst ++ [k] := by
  induction es with
  | nil => rfl
  | cons e es ih =>
    by_cases same : e.1 = k
    · simp [putEntry, same]
    · simp only [putEntry, same, if_false, List.map_cons, ih, List.mem_cons, Ne.symm same, false_or]
      split <;> simp

theorem putEntry_distinct (k : κ) (v : α) {es : List (κ × α)}
    (distinct : (es.map Prod.fst).Nodup) : ((putEntry k v es).map Prod.fst).Nodup := by
  rw [map_fst_putEntry]
  split
  · exact distinct
  · rename_i absent
    refine List.nodup_append.mpr ⟨distinct, by simp, ?_⟩
    rintro a member b single rfl
    exact absent (List.mem_singleton.mp single ▸ member)

def put (m : Keyed κ α) (k : κ) (v : α) : Keyed κ α :=
  ⟨putEntry k v m.entries, putEntry_distinct k v m.distinct⟩

def erase (m : Keyed κ α) (k : κ) : Keyed κ α :=
  ⟨m.entries.filter (·.1 ≠ k), m.distinct.sublist (List.filter_sublist.map _)⟩

theorem lookup_entry (k : κ) (e : κ × α) (es : List (κ × α)) :
    (e :: es).lookup k = if k = e.1 then some e.2 else es.lookup k := by
  obtain ⟨j, v⟩ := e
  rw [List.lookup_cons]
  by_cases same : k = j
  · simp [same]
  · simp [same, beq_eq_false_iff_ne.mpr same]

@[simp] theorem get?_empty (k : κ) : (empty : Keyed κ α).get? k = none :=
  rfl

theorem get?_put (m : Keyed κ α) (k j : κ) (v : α) :
    (m.put k v).get? j = if j = k then some v else m.get? j := by
  show (putEntry k v m.entries).lookup j = if j = k then some v else m.entries.lookup j
  generalize m.entries = es
  induction es with
  | nil => simp [putEntry, lookup_entry]
  | cons e es ih =>
    by_cases here : e.1 = k
    · by_cases same : j = k <;> simp [putEntry, lookup_entry, here, same]
    · by_cases same : j = k
      · subst same
        simp [putEntry, lookup_entry, here, Ne.symm here, ih]
      · simp [putEntry, lookup_entry, here, same, ih]

theorem get?_erase (m : Keyed κ α) (k j : κ) :
    (m.erase k).get? j = if j = k then none else m.get? j := by
  show (m.entries.filter (·.1 ≠ k)).lookup j = if j = k then none else m.entries.lookup j
  generalize m.entries = es
  induction es with
  | nil => simp
  | cons e es ih =>
    by_cases here : e.1 = k
    · rw [List.filter_cons_of_neg (by simpa using here), ih, lookup_entry, here]
      split <;> rfl
    · rw [List.filter_cons_of_pos (by simpa using here), lookup_entry, lookup_entry, ih]
      by_cases same : j = k
      · simp [same, Ne.symm here]
      · simp [same]

theorem mem_keys (m : Keyed κ α) (k : κ) : k ∈ m.keys ↔ (m.get? k).isSome := by
  show k ∈ m.entries.map Prod.fst ↔ (m.entries.lookup k).isSome
  generalize m.entries = es
  induction es with
  | nil => simp
  | cons e es ih =>
    rw [List.map_cons, List.mem_cons, ih, lookup_entry]
    by_cases same : k = e.1 <;> simp [same]

theorem put_get? {m : Keyed κ α} {k : κ} {v : α} (there : m.get? k = some v) : m.put k v = m := by
  apply ext
  show putEntry k v m.entries = m.entries
  change m.entries.lookup k = some v at there
  generalize m.entries = es at there ⊢
  induction es with
  | nil => cases there
  | cons e es ih =>
    rw [lookup_entry] at there
    by_cases here : e.1 = k
    · rw [if_pos here.symm] at there
      cases there
      simp [putEntry, ← here]
    · rw [if_neg (Ne.symm here)] at there
      simp [putEntry, here, ih there]

theorem keys_put (m : Keyed κ α) (k : κ) (v : α) :
    (m.put k v).keys = if (m.get? k).isSome then m.keys else m.keys ++ [k] := by
  show (putEntry k v m.entries).map Prod.fst = _
  rw [map_fst_putEntry]
  exact ite_congr (propext (m.mem_keys k)) (fun _ => rfl) fun _ => rfl

theorem putEntry_comm {k j : κ} (differ : k ≠ j) (v w : α) {es : List (κ × α)}
    (there : k ∈ es.map Prod.fst) (there' : j ∈ es.map Prod.fst) :
    putEntry k v (putEntry j w es) = putEntry j w (putEntry k v es) := by
  induction es with
  | nil => cases there
  | cons e es ih =>
    rw [List.map_cons, List.mem_cons] at there there'
    by_cases first : e.1 = k
    · have other : e.1 ≠ j := fun same => differ (first.symm.trans same)
      simp [putEntry, first, differ]
    · by_cases second : e.1 = j
      · simp [putEntry, second, Ne.symm differ]
      · have inside := there.resolve_left (Ne.symm first)
        have inside' := there'.resolve_left (Ne.symm second)
        simp [putEntry, first, second, ih inside inside']

theorem put_comm {m : Keyed κ α} {k j : κ} (differ : k ≠ j) (v w : α)
    (there : (m.get? k).isSome) (there' : (m.get? j).isSome) :
    (m.put j w).put k v = (m.put k v).put j w :=
  ext (putEntry_comm differ v w ((m.mem_keys k).mpr there) ((m.mem_keys j).mpr there'))

theorem erase_put {m : Keyed κ α} {k j : κ} (differ : k ≠ j) (w : α) :
    (m.put j w).erase k = (m.erase k).put j w := by
  apply ext
  show (putEntry j w m.entries).filter (·.1 ≠ k) = putEntry j w (m.entries.filter (·.1 ≠ k))
  induction m.entries with
  | nil => simp [putEntry, Ne.symm differ]
  | cons e es ih =>
    by_cases here : e.1 = j
    · simp [putEntry, here, Ne.symm differ]
    · rw [putEntry, if_neg here, List.filter_cons, List.filter_cons, ih]
      by_cases gone : e.1 = k
      · simp [gone]
      · simp [gone, putEntry, here]

theorem erase_comm {m : Keyed κ α} {k j : κ} : (m.erase k).erase j = (m.erase j).erase k := by
  apply ext
  show (m.entries.filter (·.1 ≠ k)).filter (·.1 ≠ j) = (m.entries.filter (·.1 ≠ j)).filter (·.1 ≠ k)
  simp only [List.filter_filter, Bool.and_comm]

end Keyed

end ModuleHost.Data
