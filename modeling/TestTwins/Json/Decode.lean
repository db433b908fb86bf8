import TestTwins.Json
import TestTwins.Word

namespace TestTwins.Json

def asString : Json → Option String
  | .str s => some s
  | _ => none

def asBool : Json → Option Bool
  | .bool b => some b
  | _ => none

def asNatBelow (bound : Nat) : Json → Option Nat
  | .int (.ofNat n) => if n < bound then some n else none
  | _ => none

def asWord : Json → Option Nat := asNatBelow Word.count

def asLine : Json → Option Nat := asNatBelow 0x100000000

def ofInt : Int → Float
  | .ofNat n => n.toUInt64.toFloat
  | .negSucc n => -(n + 1).toUInt64.toFloat

def asFloat : Json → Option Float
  | .int n => some (ofInt n)
  | .float x => some x
  | _ => none

def asList (item : Json → Option α) : Json → Option (List α)
  | .arr items => items.mapM item
  | _ => none

def asOption (item : Json → Option α) : Json → Option (Option α)
  | .null => some none
  | j => (item j).map some

inductive Presence
  | required
  | defaulted
  deriving DecidableEq

abbrev Members := List (String × Json)

def countKey (key : String) (members : Members) : Nat := (members.filter (·.1 == key)).length

def members (fields : List (String × Presence)) : Json → Option Members
  | .obj given =>
    if fields.all (fun f => countKey f.1 given ≤ 1) then
      some (given.filter fun m => fields.any (·.1 == m.1))
    else none
  | .arr items =>
    if items.length ≤ fields.length &&
        (fields.drop items.length).all (fun f => f.2 == .defaulted) then
      some ((fields.map (·.1)).zip items)
    else none
  | _ => none

def Members.field (ms : Members) (key : String) (decode : Json → Option α) : Option α :=
  match ms.lookup key with
  | some j => decode j
  | none => none

def Members.fieldD (ms : Members) (key : String) (decode : Json → Option α) (default : α) :
    Option α :=
  match ms.lookup key with
  | some j => decode j
  | none => some default

end TestTwins.Json
