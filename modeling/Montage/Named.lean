/-!
Lists of named things: each name once, in the order in which the names first came.
-/

namespace Montage

/-- Things by their names. -/
abbrev Named (β : Type) := List (String × β)

namespace Named

/-- A name set to a thing: in its place if the name is there, else at the end. -/
def set {β : Type} (name : String) (value : β) : Named β → Named β
  | [] => [(name, value)]
  | (present, old) :: rest =>
    if present = name then (name, value) :: rest else (present, old) :: set name value rest

/-- The things of a list by their names, the last of a name counting. -/
def ofList {β : Type} (pairs : List (String × β)) : Named β :=
  pairs.foldl (fun named (name, value) => set name value named) []

/-- The thing of this name. -/
def get? {β : Type} (named : Named β) (name : String) : Option β :=
  named.lookup name

/-- The list without a name. -/
def erase {β : Type} (named : Named β) (name : String) : Named β :=
  named.filter (·.1 != name)

end Named

end Montage
