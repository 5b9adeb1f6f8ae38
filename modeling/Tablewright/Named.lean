/-!
# Entries under names

A finite map from names to anything, kept as a list in the order in which the names first came.
Storing under a name that is there replaces its entry in place.
-/

namespace Tablewright

/-- Entries under names, in the order in which the names first came. -/
abbrev Named (α : Type) := List (String × α)

namespace Named

variable {α : Type}

/-- The entry under a name. -/
def get? (m : Named α) (name : String) : Option α :=
  (m.find? fun e => e.1 == name).map (·.2)

/-- The entry under a name, or something else if there is none. -/
def getOr (m : Named α) (name : String) (other : α) : α :=
  (m.get? name).getD other

/-- Whether there is an entry under a name. -/
def has (m : Named α) (name : String) : Bool :=
  m.any fun e => e.1 == name

/-- Stores an entry under a name. -/
def put : Named α → String → α → Named α
  | [], name, a => [(name, a)]
  | (n, b) :: rest, name, a => if n == name then (n, a) :: rest else (n, b) :: put rest name a

/-- Stores an entry under a name that has none yet. -/
def putNew (m : Named α) (name : String) (a : α) : Named α :=
  if m.has name then m else m.put name a

/-- Removes the entry under a name. -/
def erase (m : Named α) (name : String) : Named α :=
  m.filter fun e => !(e.1 == name)

/-- The map that arises from storing pairs one after the other. -/
def ofPairs (pairs : List (String × α)) : Named α :=
  pairs.foldl (fun m e => m.put e.1 e.2) []

/-- The entries of one map stored over those of another. -/
def union (m n : Named α) : Named α :=
  n.foldl (fun acc e => acc.put e.1 e.2) m

/-- The names, in order. -/
def names (m : Named α) : List String :=
  m.map (·.1)

/-- Moves the entry under one name to another, unless the other has an entry already. -/
def rename (m : Named α) (name other : String) : Named α :=
  match m.get? name with
  | some a => if m.has other then m else (m.erase name).put other a
  | none => m

end Named

end Tablewright
