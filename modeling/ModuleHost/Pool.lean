namespace ModuleHost

/-- Slots for instances: how many there are, if that is limited, and how many are occupied. -/
structure Pool where
  capacity : Option Nat
  occupied : Nat
  deriving DecidableEq, Repr

namespace Pool

def ofCapacity (capacity : Option Nat) : Pool :=
  ⟨capacity, 0⟩

def acquire (p : Pool) : Except String Pool :=
  match p.capacity with
  | some capacity =>
    if capacity ≤ p.occupied then
      .error ("maximum concurrent limit of " ++ toString capacity ++
        " for core instances reached")
    else .ok { p with occupied := p.occupied + 1 }
  | none => .ok { p with occupied := p.occupied + 1 }

def release (p : Pool) : Pool :=
  { p with occupied := p.occupied - 1 }

end Pool

end ModuleHost
