import ViewLayers.Value.Basic

/-!
# TOML documents

A table as a value has its entries in the order of their names. Within another value, those
that are tables come last and arrays with tables in them just before.
-/

namespace ViewLayers

inductive Toml where
  | string (s : String)
  | int (n : Int)
  | float (x : Binary64)
  | bool (b : Bool)
  | moment (text : String)
  | array (items : List Toml)
  | table (entries : List (String × Toml))
  deriving Inhabited

namespace Toml

def momentName : String := "$__toml_private_datetime"

def isTable : Toml → Bool
  | .table _ => true
  | _ => false

def rank : Toml → Nat
  | .table _ => 2
  | .array items => if items.any isTable then 1 else 0
  | _ => 0

def insertSorted {β : Type} (e : String × β) : List (String × β) → List (String × β)
  | [] => [e]
  | f :: rest => if e.1 < f.1 then e :: f :: rest else f :: insertSorted e rest

def ranked {β : Type} (entries : List (Nat × String × β)) (rank : Nat) : List (String × β) :=
  (entries.filter fun e => e.1 = rank).foldl (fun done e => insertSorted e.2 done) []

def record (entries : List (String × Value)) : Value :=
  .record (entries.map fun e => (.string e.1, e.2))

mutual

def toValue : Toml → Value
  | .string s => .string s
  | .int n => .int n
  | .float x => .float x
  | .bool b => .bool b
  | .moment text => record [(momentName, .string text)]
  | .array items => .list (itemsToValues items)
  | .table entries =>
    let all := rankedValues entries
    record (ranked all 0 ++ ranked all 1 ++ ranked all 2)

def itemsToValues : List Toml → List Value
  | [] => []
  | v :: vs => toValue v :: itemsToValues vs

def rankedValues : List (String × Toml) → List (Nat × String × Value)
  | [] => []
  | (name, v) :: rest => (rank v, name, toValue v) :: rankedValues rest

end

def documentValue (entries : List (String × Toml)) : Value :=
  record ((rankedValues entries).foldl (fun done e => insertSorted e.2 done) [])

end Toml

end ViewLayers
