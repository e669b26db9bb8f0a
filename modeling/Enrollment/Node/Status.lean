/-!
# The status of a node

A node is inactive, registered or active. It is registered while inactive, activated while
registered, and may be made inactive again from either.
-/

namespace Enrollment.Node

/-- What a node is to the coordinator. -/
inductive Status
  | inactive
  | registered
  | active
  deriving DecidableEq, Repr

namespace Status

/-- Every status, in the order of a node's life. -/
def all : List Status :=
  [inactive, registered, active]

def name : Status → String
  | inactive => "inactive"
  | registered => "registered"
  | active => "active"

instance : ToString Status := ⟨name⟩

/-- Whether a node may go from one status to another. -/
def canBecome : Status → Status → Bool
  | inactive, registered => true
  | registered, active => true
  | registered, inactive => true
  | active, inactive => true
  | _, _ => false

theorem mem_all (s : Status) : s ∈ all := by
  cases s <;> decide

theorem name_injective {s t : Status} (h : s.name = t.name) : s = t := by
  cases s <;> cases t <;> first | rfl | (exact absurd h (by decide))

theorem canBecome_inactive_iff (s : Status) : s.canBecome inactive = true ↔ s ≠ inactive := by
  cases s <;> simp [canBecome]

end Status

end Enrollment.Node
