import Mathlib.Data.List.Forall2

namespace ModuleHost

variable {α : Type}

theorem forall_getElem?_cons {x : α} {xs : List α} {P : Nat → α → Prop} :
    (∀ k y, (x :: xs)[k]? = some y → P k y) ↔ P 0 x ∧ ∀ k y, xs[k]? = some y → P (k + 1) y := by
  constructor
  · exact fun all => ⟨all 0 x rfl, fun k y found => all (k + 1) y found⟩
  · rintro ⟨first, others⟩ k y found
    cases k with
    | zero => exact Option.some.inj found ▸ first
    | succ k => exact others k y found

theorem exists_split_append_singleton {xs : List α} {x : α} {P : α → List α → Prop} :
    (∃ before y since, xs ++ [x] = before ++ y :: since ∧ P y since) ↔
      P x [] ∨ ∃ before y since, xs = before ++ y :: since ∧ P y (since ++ [x]) := by
  constructor
  · rintro ⟨before, y, since, same, holds⟩
    rcases List.eq_nil_or_concat since with rfl | ⟨since', last, rfl⟩
    · have parts := List.append_inj' same rfl
      obtain rfl := List.singleton_inj.mp parts.2
      exact .inl holds
    · rw [List.concat_eq_append] at same holds
      have ends : xs ++ [x] = (before ++ y :: since') ++ [last] := by simpa using same
      have parts := List.append_inj' ends rfl
      obtain rfl := List.singleton_inj.mp parts.2
      exact .inr ⟨before, y, since', parts.1, holds⟩
  · rintro (holds | ⟨before, y, since, rfl, holds⟩)
    · exact ⟨xs, x, [], rfl, holds⟩
    · exact ⟨before, y, since ++ [x], by simp, holds⟩

theorem exists_of_forall₂ {β : Type} {R : α → β → Prop} {xs : List α} {ys : List β} {x : α}
    (all : List.Forall₂ R xs ys) (member : x ∈ xs) : ∃ y ∈ ys, R x y := by
  induction all with
  | nil => cases member
  | @cons x' y xs ys here all ih =>
    rcases List.mem_cons.mp member with rfl | later
    · exact ⟨y, .head ys, here⟩
    · obtain ⟨y', member, holds⟩ := ih later
      exact ⟨y', .tail y member, holds⟩

theorem forall₂_of_common {β γ : Type} {R : α → β → Prop} {Q : γ → β → Prop} {S : α → γ → Prop}
    {xs : List α} {ys : List β} {zs : List γ} (relates : ∀ x y z, R x y → Q z y → S x z)
    (left : List.Forall₂ R xs ys) (right : List.Forall₂ Q zs ys) : List.Forall₂ S xs zs := by
  induction left generalizing zs with
  | nil =>
    cases right
    exact .nil
  | cons here left ih =>
    cases right with
    | cons there right => exact .cons (relates _ _ _ here there) (ih right)

theorem span_append {p : α → Bool} {xs ys : List α} (all : ∀ x ∈ xs, p x = true)
    (stops : ∀ x ∈ ys.head?, p x = false) :
    (xs ++ ys).takeWhile p = xs ∧ (xs ++ ys).dropWhile p = ys := by
  rw [List.takeWhile_append_of_pos all, List.dropWhile_append_of_pos all]
  cases ys with
  | nil => simp
  | cons y ys => simp [stops y rfl]

theorem takeWhile_ne_eq [DecidableEq α] {c : α} {xs ys : List α} :
    xs.takeWhile (· ≠ c) = ys ∧ ys.length < xs.length ↔ c ∉ ys ∧ ∃ rest, xs = ys ++ c :: rest := by
  constructor
  · rintro ⟨rfl, shorter⟩
    have free : c ∉ xs.takeWhile (· ≠ c) := fun inside =>
      of_decide_eq_true (List.all_eq_true.mp List.all_takeWhile c inside) rfl
    refine ⟨free, ?_⟩
    have whole := List.takeWhile_append_dropWhile (p := fun x => decide (x ≠ c)) (l := xs)
    cases after : xs.dropWhile (· ≠ c) with
    | nil =>
      rw [after, List.append_nil] at whole
      rw [whole] at shorter
      exact absurd shorter (Nat.lt_irrefl _)
    | cons x rest =>
      have stops := List.head?_dropWhile_not (fun x => decide (x ≠ c)) xs
      rw [after] at stops
      have same : x = c := by
        simpa using stops
      rw [after, same] at whole
      exact ⟨rest, whole.symm⟩
  · rintro ⟨free, rest, rfl⟩
    refine ⟨(span_append ?_ (by simp)).1, by simp⟩
    intro x inside
    exact decide_eq_true fun same => free (same ▸ inside)

def separated (separator : α) : List (List α) → List α
  | [] => []
  | xs :: others => xs ++ others.flatMap (separator :: ·)

theorem length_le_separated (separator : α) {all : List (List α)} {xs : List α}
    (member : xs ∈ all) : xs.length ≤ (separated separator all).length := by
  cases all with
  | nil => cases member
  | cons first others =>
    rw [separated, List.length_append]
    rcases List.mem_cons.mp member with rfl | later
    · exact Nat.le_add_right _ _
    · have inside : (separator :: xs).Sublist (others.flatMap (separator :: ·)) :=
        List.sublist_flatten_of_mem (List.mem_map_of_mem later)
      have shorter := inside.length_le
      rw [List.length_cons] at shorter
      omega

theorem length_le_flatMap_cons (separator : α) (others : List (List α)) :
    others.length ≤ (others.flatMap (separator :: ·)).length := by
  induction others with
  | nil => exact Nat.le_refl 0
  | cons xs others ih =>
    simp only [List.flatMap_cons, List.length_cons, List.length_append]
    omega

theorem intercalate_cons (c : α) (separator first : List α) (others : List (List α)) :
    (c :: separator).intercalate (first :: others) =
      [c].intercalate (first :: others.map (separator ++ ·)) := by
  induction others generalizing first with
  | nil => simp only [List.map_nil, List.intercalate_singleton]
  | cons next others ih =>
    rw [List.map_cons, List.intercalate_cons_cons, List.intercalate_cons_cons, ih]
    cases others with
    | nil => simp [List.intercalate_singleton]
    | cons => simp [List.intercalate_cons_cons]

theorem intercalate_ne_nil {separator xs : List α} {others : List (List α)} (part : xs ≠ []) :
    separator.intercalate (xs :: others) ≠ [] := by
  cases others with
  | nil => rwa [List.intercalate_singleton]
  | cons => simp [List.intercalate_cons_cons, part]

theorem splitOn_intercalate_cons [DecidableEq α] {c : α} {separator xs : List α}
    {others : List (List α)} (once : c ∉ separator) (free : ∀ ys ∈ xs :: others, c ∉ ys) :
    ((c :: separator).intercalate (xs :: others)).splitOn c =
      xs :: others.map (separator ++ ·) := by
  rw [intercalate_cons]
  apply List.splitOn_intercalate c
  · intro ys member
    rcases List.mem_cons.mp member with rfl | later
    · exact free ys List.mem_cons_self
    · obtain ⟨zs, after, rfl⟩ := List.mem_map.mp later
      intro found
      rcases List.mem_append.mp found with before | inside
      · exact once before
      · exact free zs (List.mem_cons_of_mem xs after) inside
  · exact List.cons_ne_nil _ _

theorem eq_of_intercalate [DecidableEq α] {c : α} {separator : List α} {all all' : List (List α)}
    (once : c ∉ separator) (parts : ∀ xs ∈ all, xs ≠ [] ∧ c ∉ xs)
    (parts' : ∀ xs ∈ all', xs ≠ [] ∧ c ∉ xs)
    (same : (c :: separator).intercalate all = (c :: separator).intercalate all') :
    all = all' := by
  cases all with
  | nil =>
    cases all' with
    | nil => rfl
    | cons ys others' =>
      exact absurd same.symm (intercalate_ne_nil (parts' ys List.mem_cons_self).1)
  | cons xs others =>
    cases all' with
    | nil => exact absurd same (intercalate_ne_nil (parts xs List.mem_cons_self).1)
    | cons ys others' =>
      have cut := congrArg (List.splitOn c) same
      rw [splitOn_intercalate_cons once fun zs member => (parts zs member).2,
        splitOn_intercalate_cons once fun zs member => (parts' zs member).2] at cut
      obtain ⟨rfl, others⟩ := List.cons.inj cut
      rw [List.map_injective_iff.mpr (List.append_right_injective separator) others]

end ModuleHost
