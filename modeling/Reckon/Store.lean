/-
Stored variables.

A store keeps the values of variables in the order in which their names came in.  A new
value for a name that is present takes the place of the old one; a name that was removed
comes in again at the end.
-/
import Reckon.Value

namespace Reckon

/-- Values by name, in the order in which the names came in. -/
structure Store where
  entries : List (Text × Value)

namespace Store

/-- Replaces the value of a name that is present, or adds the name at the end. -/
def insertEntry (name : Text) (v : Value) : List (Text × Value) → List (Text × Value)
  | [] => [(name, v)]
  | (n, old) :: rest =>
    if n == name then (n, v) :: rest else (n, old) :: insertEntry name v rest

/-- The store without any value. -/
def empty : Store := ⟨[]⟩

/-- Gives a name a value. -/
def insert (s : Store) (name : Text) (v : Value) : Store := ⟨insertEntry name v s.entries⟩

/-- The store of some entries; of several for one name the last value counts. -/
def ofList (entries : List (Text × Value)) : Store :=
  entries.foldl (fun s (name, v) => s.insert name v) empty

/-- Forgets a name. -/
def erase (s : Store) (name : Text) : Store := ⟨s.entries.filter fun (n, _) => n != name⟩

/-- The value of a name. -/
def get? (s : Store) (name : Text) : Option Value :=
  (s.entries.find? fun (n, _) => n == name).map (·.2)

/-- Whether a name is present. -/
def contains (s : Store) (name : Text) : Bool := s.entries.any fun (n, _) => n == name

/-- The names, in the order in which they came in. -/
def names (s : Store) : List Text := s.entries.map (·.1)

/-- How many names there are. -/
def size (s : Store) : Nat := s.entries.length

/-- The store as it is listed. -/
def display (s : Store) : Text :=
  "SimpleStorage(".toList ++ (Value.record s.entries).display ++ [')']

end Store
end Reckon
