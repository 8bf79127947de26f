namespace QuantumDebug

/-!
How far a session has come. It never goes back, and after its end nothing comes.
-/

/-- A stretch of the life of a session. -/
inductive Phase where
  | uninitialized
  | initialized
  | awaitingConfiguration
  | running
  | terminated
deriving DecidableEq, Inhabited, Repr

namespace Phase

def rank : Phase → Nat
  | .uninitialized => 0
  | .initialized => 1
  | .awaitingConfiguration => 2
  | .running => 3
  | .terminated => 4

instance : LE Phase := ⟨fun a b => a.rank ≤ b.rank⟩

instance : LT Phase := ⟨fun a b => a.rank < b.rank⟩

instance (a b : Phase) : Decidable (a ≤ b) := inferInstanceAs (Decidable (a.rank ≤ b.rank))

instance (a b : Phase) : Decidable (a < b) := inferInstanceAs (Decidable (a.rank < b.rank))

/-- The later of two phases. -/
def advance (p next : Phase) : Phase := if p < next then next else p

def name : Phase → String
  | .uninitialized => "Uninitialized"
  | .initialized => "Initialized"
  | .awaitingConfiguration => "AwaitingConfiguration"
  | .running => "Running"
  | .terminated => "Terminated"

end Phase

end QuantumDebug
