import LineRules.Fault
import LineRules.Notice

/-!
# Work that leaves notices

Work that can be stopped by a fault and leaves notices as it goes. The notices left
before a fault stay.
-/

namespace LineRules

/-- The outcome of work, with the notices that it left. -/
structure Noted (α : Type) where
  outcome : Except Fault α
  notices : List Notice := []

namespace Noted

variable {α β : Type}

/-- Goes on after work that was not stopped. -/
def andThen (first : Noted α) (next : α → Noted β) : Noted β :=
  match first.outcome with
  | .ok result =>
    let second := next result
    ⟨second.outcome, first.notices ++ second.notices⟩
  | .error fault => ⟨.error fault, first.notices⟩

instance : Monad Noted where
  pure result := ⟨.ok result, []⟩
  bind := andThen

/-- Leaves a notice. -/
def note (notice : Notice) : Noted Unit := ⟨.ok (), [notice]⟩

/-- Work that leaves no notices. -/
def ofExcept (outcome : Except Fault α) : Noted α := ⟨outcome, []⟩

instance : MonadLift (Except Fault) Noted where
  monadLift := ofExcept

end Noted

end LineRules
