/-! Values assigned to keys, as a list in the order in which the keys were first assigned. -/

namespace SplitTest

/-- Assigns a value to a key: in place if the key is present, at the end otherwise. -/
def assign {α β : Type} [DecidableEq α] (key : α) (v : β) : List (α × β) → List (α × β)
  | [] => [(key, v)]
  | (k, w) :: rest => if k = key then (k, v) :: rest else (k, w) :: assign key v rest

end SplitTest
