import Mathlib.Data.List.Induction

namespace ModuleHost.Run

variable {σ ι ε : Type} (step : σ → ι → ε × σ)

def trace (s : σ) : List ι → List ε
  | [] => []
  | i :: is => (step s i).1 :: trace (step s i).2 is

def after (s : σ) (is : List ι) : σ :=
  is.foldl (fun s i => (step s i).2) s

variable {step} {s : σ} {is : List ι}

theorem after_append_singleton {i : ι} :
    after step s (is ++ [i]) = (step (after step s is) i).2 := by
  rw [after, List.foldl_append, after]
  rfl

theorem trace_append_singleton {i : ι} :
    trace step s (is ++ [i]) = trace step s is ++ [(step (after step s is) i).1] := by
  induction is generalizing s with
  | nil => rfl
  | cons first is ih => exact congrArg ((step s first).1 :: ·) ih

theorem invariant {P : List ε → σ → Prop} (start : P [] s)
    (preserved : ∀ log s i, P log s → P (log ++ [(step s i).1]) (step s i).2) (is : List ι) :
    P (trace step s is) (after step s is) := by
  -- By the last step, whose event ends the log.
  induction is using List.reverseRecOn with
  | nil => exact start
  | append_singleton is i ih =>
    rw [trace_append_singleton, after_append_singleton]
    exact preserved _ _ i ih

end ModuleHost.Run
