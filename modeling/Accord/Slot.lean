namespace Accord

abbrev Slot (α : Type) := Option α

namespace Slot

variable {α : Type}

/-- Puts something into an empty place; gives what the place holds then. -/
def hold (a : α) (slot : Slot α) : α × Slot α :=
  match slot with
  | some held => (held, some held)
  | none => (a, some a)

end Slot

end Accord
