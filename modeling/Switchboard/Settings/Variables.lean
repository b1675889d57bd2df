import Switchboard.Number.Integer
/-!
Variables that settings are read from.
-/

namespace Switchboard.Settings

/-- Named values, of which the last of a name counts. -/
abbrev Variables := List (String × String)

namespace Variables

/-- The value of a variable. -/
def get? (given : Variables) (name : String) : Option String := given.reverse.lookup name

/-- The value of a variable that holds a natural number up to a bound. Blanks around the number do
not count, and anything else is passed over. -/
def number? (given : Variables) (name : String) (bound : Nat) : Option Nat := do
  let value ← given.get? name
  (Number.readNat bound (Text.trim value)).toOption

end Variables

end Switchboard.Settings
