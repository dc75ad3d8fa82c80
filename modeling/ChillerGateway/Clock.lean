import ChillerGateway.Binary64

/-!
# Clock readings

Time is counted in whole milliseconds from the start of the clock; `Clock.seconds` and
`Clock.minutes` are a span of it as a number, whole seconds and the rest converted apart.
-/

namespace ChillerGateway

namespace Clock

def seconds (milliseconds : Nat) : Binary64 :=
  .ofNat (milliseconds / 1000) + .ofNat (milliseconds % 1000 * 1000000) / 1000000000

def minutes (milliseconds : Nat) : Binary64 := seconds milliseconds / 60

end Clock

end ChillerGateway
