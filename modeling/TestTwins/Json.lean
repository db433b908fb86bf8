import TestTwins.Decimal

namespace TestTwins

inductive Json
  | null
  | bool (b : Bool)
  | int (n : Int)
  | float (x : Float)
  | str (s : String)
  | arr (items : List Json)
  | obj (members : List (String × Json))
  deriving Inhabited

namespace Json

def nat (n : Nat) : Json := .int n

def strings (xs : List String) : Json := .arr (xs.map .str)

def nats (xs : List Nat) : Json := .arr (xs.map .nat)

def option (encode : α → Json) : Option α → Json
  | none => .null
  | some a => encode a

/-- A member of an object; of a key given twice, the last. -/
def get? (key : String) : Json → Option Json
  | .obj members => (members.reverse.find? (·.1 == key)).map (·.2)
  | _ => none

def setMember (key : String) (value : Json) : List (String × Json) → List (String × Json)
  | [] => [(key, value)]
  | (k, v) :: rest => if k == key then (key, value) :: rest else (k, v) :: setMember key value rest

def sortMembers (members : List (String × Json)) : List (String × Json) :=
  (members.foldl (fun acc (k, v) => setMember k v acc) []).mergeSort (fun a b => a.1 ≤ b.1)

mutual

def normal : Json → Json
  | .arr items => .arr (normalItems items)
  | .obj members => .obj (sortMembers (normalMembers members))
  | j => j

def normalItems : List Json → List Json
  | [] => []
  | j :: rest => j.normal :: normalItems rest

def normalMembers : List (String × Json) → List (String × Json)
  | [] => []
  | (k, j) :: rest => (k, j.normal) :: normalMembers rest

end

end Json

end TestTwins
