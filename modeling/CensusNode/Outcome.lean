/-!
How an operation ends that may also bring the whole process down.
-/

namespace CensusNode

/-- What comes of an operation that may also bring the whole process down. -/
inductive Outcome (ε α : Type) where
  | done (value : α)
  | failed (error : ε)
  | crashed
deriving DecidableEq

end CensusNode
