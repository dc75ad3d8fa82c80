/-!
# Path names

Two path names are equal if they go through the same places: repeated and trailing slashes do not
count, nor does a point between slashes.  A leading point does.

* `PathName.parts` — whether a path starts at the root, and the names on it.
-/

namespace ChillerGateway

/-- The name of a file, as it was given. -/
structure PathName where
  text : String
  deriving Repr

namespace PathName

def isStep (name : String) : Bool := name ≠ "" && name ≠ "."

/-- Whether the path starts at the root, and the names on it. -/
def parts (p : PathName) : Bool × List String :=
  match p.text.splitOn "/" with
  | [] => (false, [])
  | first :: rest =>
    if p.text.isEmpty then (false, [])
    else if first.isEmpty then (true, rest.filter isStep)
    else (false, first :: rest.filter isStep)

instance : BEq PathName := ⟨fun p q => p.parts == q.parts⟩

end PathName

end ChillerGateway
