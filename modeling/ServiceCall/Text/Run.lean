/-!
# Runs of characters

Tables that map characters to characters mostly hold runs in which every character, or every other
one, lies at the same distance from its image.
-/

namespace ServiceCall.Text

/-- Characters from `first` to `last` in steps of `step`, each mapped `shift` further. -/
structure Run where
  first : Nat
  last : Nat
  step : Nat
  shift : Int

def Run.image? (r : Run) (n : Nat) : Option Nat :=
  if r.first ≤ n && n ≤ r.last && (n - r.first) % r.step = 0 then some (n + r.shift).toNat else none

end ServiceCall.Text
