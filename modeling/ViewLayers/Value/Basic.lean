import ViewLayers.Entries
import ViewLayers.Number.Binary64

/-!
# Configuration values

A document is a tree of values. Records keep the order of their entries, and any value may
be a key. A tag is a name set on a value; it is held without the mark it is written with.
-/

namespace ViewLayers

inductive Value where
  | null
  | bool (b : Bool)
  | int (n : Int)
  | float (x : Binary64)
  | string (s : String)
  | list (items : List Value)
  | record (entries : List (Value × Value))
  | tagged (tag : String) (value : Value)
  deriving Inhabited

namespace Value

mutual

@[simp] def identical : Value → Value → Bool
  | .null, .null => true
  | .bool a, .bool b => a = b
  | .int a, .int b => a = b
  | .float a, .float b => a = b
  | .string a, .string b => a = b
  | .list a, .list b => identicalItems a b
  | .record a, .record b => identicalEntries a b
  | .tagged s a, .tagged t b => s = t && identical a b
  | _, _ => false

@[simp] def identicalItems : List Value → List Value → Bool
  | [], [] => true
  | a :: as, b :: bs => identical a b && identicalItems as bs
  | _, _ => false

@[simp] def identicalEntries : List (Value × Value) → List (Value × Value) → Bool
  | [], [] => true
  | (k, v) :: as, (l, w) :: bs => identical k l && identical v w && identicalEntries as bs
  | _, _ => false

end

mutual

theorem identical_iff : ∀ a b : Value, identical a b = true ↔ a = b
  | a, b => by
    cases a <;> cases b <;> simp
    case list.list as bs => exact identicalItems_iff as bs
    case record.record as bs => exact identicalEntries_iff as bs
    case tagged.tagged s a t b => intro _; exact identical_iff a b

theorem identicalItems_iff : ∀ as bs : List Value, identicalItems as bs = true ↔ as = bs
  | [], [] => by simp
  | [], _ :: _ => by simp
  | _ :: _, [] => by simp
  | a :: as, b :: bs => by
    simp [identical_iff a b, identicalItems_iff as bs]

theorem identicalEntries_iff :
    ∀ as bs : List (Value × Value), identicalEntries as bs = true ↔ as = bs
  | [], [] => by simp
  | [], _ :: _ => by simp
  | _ :: _, [] => by simp
  | (k, v) :: as, (l, w) :: bs => by
    simp [identical_iff k l, identical_iff v w, identicalEntries_iff as bs]

end

instance : DecidableEq Value := fun a b => decidable_of_iff _ (identical_iff a b)

def kindName : Value → String
  | .null => "Null"
  | .bool _ => "Bool"
  | .int _ | .float _ => "Number"
  | .string _ => "String"
  | .list _ => "Sequence"
  | .record _ => "Mapping"
  | .tagged _ _ => "Tagged"

@[simp] def untagged : Value → Value
  | .tagged _ v => untagged v
  | v => v

def isNull (v : Value) : Bool := v.untagged = .null

def isCollection (v : Value) : Bool :=
  match v.untagged with
  | .list _ | .record _ => true
  | _ => false

def entries? (v : Value) : Option (List (Value × Value)) :=
  match v.untagged with
  | .record entries => some entries
  | _ => none

end Value

end ViewLayers
