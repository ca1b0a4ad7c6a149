/-!
JSON values. The members of an object are kept in the order of their names.
-/

namespace FormatScan

inductive Json where
  | null
  | bool (value : Bool)
  | nat (value : Nat)
  /-- A number below zero. -/
  | negative (value : Int)
  | float (value : Float)
  | string (value : String)
  | array (items : List Json)
  | object (members : List (String × Json))

namespace Json

/-- Adds a member, or gives the member of that name a new value. -/
def insert (name : String) (value : Json) : List (String × Json) → List (String × Json)
  | [] => [(name, value)]
  | (other, v) :: rest =>
    if name < other then (name, value) :: (other, v) :: rest
    else if name = other then (name, value) :: rest
    else (other, v) :: insert name value rest

/-- An object with the members of a list; of several with one name the last counts. -/
def ofMembers (members : List (String × Json)) : Json :=
  .object (members.foldl (fun object m => insert m.1 m.2 object) [])

def get? (name : String) : Json → Option Json
  | .object members => (members.find? (·.1 = name)).map (·.2)
  | _ => none

def string? : Json → Option String
  | .string s => some s
  | _ => none

end Json

end FormatScan
