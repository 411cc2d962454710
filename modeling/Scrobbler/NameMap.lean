/-!
Values by name, sorted by name. Names are compared by their characters' numbers, which is also the
order of their UTF-8 bytes.
-/

namespace Scrobbler

abbrev NameMap (α : Type) := List (String × α)

namespace NameMap

variable {α : Type}

/-- Sets the value of a name, in its place; an earlier value of that name is lost. -/
def set (name : String) (value : α) : NameMap α → NameMap α
  | [] => [(name, value)]
  | (other, old) :: rest =>
      if name = other then (name, value) :: rest
      else if name < other then (name, value) :: (other, old) :: rest
      else (other, old) :: set name value rest

/-- Sorts entries by name; of entries with one name the last is kept. -/
def ofList (entries : List (String × α)) : NameMap α :=
  entries.foldl (fun sorted (name, value) => set name value sorted) []

end NameMap

end Scrobbler
