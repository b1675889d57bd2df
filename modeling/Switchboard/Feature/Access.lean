/-!
Access: what a caller holds and what a feature requires.
-/

namespace Switchboard

/-- A level of access, of which each one includes those before it. -/
inductive Access where
  /-- Callers outside the process. -/
  | anyone
  /-- Callers in the same process. -/
  | internal
  /-- Callers with the key of the service. -/
  | owner
  deriving DecidableEq, Repr, Inhabited

namespace Access

/-- The rank of a level. -/
def rank : Access → Nat
  | .anyone => 0
  | .internal => 1
  | .owner => 2

/-- Says whether a granted level is enough for a required one. -/
def permits (granted required : Access) : Bool := required.rank ≤ granted.rank

/-- The word for a level. -/
def text : Access → String
  | .anyone => "public"
  | .internal => "internal"
  | .owner => "private"

/-- The name of a level in descriptions. -/
def name : Access → String
  | .anyone => "Public"
  | .internal => "Internal"
  | .owner => "Private"

end Access

end Switchboard
