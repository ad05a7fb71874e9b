import ChatRace.Backend.Basic

/-!
# Registry

The backends by their names. There is at most one of each name, in the order of the last registrations.
-/

namespace ChatRace

/-- The registered backends. -/
structure Registry where
  backends : List Backend

namespace Registry

/-- No backend. -/
def empty : Registry := ⟨[]⟩

/-- Adds a backend, in place of the one with the same name. -/
def register (r : Registry) (b : Backend) : Registry :=
  ⟨r.backends.filter (·.name != b.name) ++ [b]⟩

/-- Registers backends one after the other. -/
def ofList (bs : List Backend) : Registry :=
  bs.foldl register empty

/-- The backend with a name. -/
def get? (r : Registry) (id : String) : Option Backend :=
  r.backends.find? (·.name == id)

/-- The names of the backends. -/
def ids (r : Registry) : List String :=
  r.backends.map (·.name)

end Registry

end ChatRace
