import Mathlib.Data.List.Basic

set_option autoImplicit false

/- How many items of a list have a property. -/
namespace RagDrift.Collections

variable {A B : Type}

end RagDrift.Collections
