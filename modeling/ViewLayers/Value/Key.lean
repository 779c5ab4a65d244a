import ViewLayers.Value.Basic

/-!
# Values as keys

Two values are the same key when their canonical forms are equal: the sign of a zero, the
spelling of not-a-number and the order of a record's entries do not count. Since sameness is
equality of canonical forms it is an equivalence, and `==` on values means sameness.
-/

namespace ViewLayers

namespace Value

def rank : Value → Nat
  | .null => 0
  | .bool _ => 1
  | .int _ => 2
  | .float _ => 3
  | .string _ => 4
  | .list _ => 5
  | .record _ => 6
  | .tagged _ _ => 7

mutual

/-- An order on values that only serves to list the entries of a canonical record. -/
def order : Value → Value → Ordering
  | .bool a, .bool b => compare a.toNat b.toNat
  | .int a, .int b => compare a b
  | .float a, .float b => compare a.bits b.bits
  | .string a, .string b => compare a b
  | .list a, .list b => orderItems a b
  | .record a, .record b => orderEntries a b
  | .tagged s a, .tagged t b => (compare s t).then (order a b)
  | a, b => compare a.rank b.rank

def orderItems : List Value → List Value → Ordering
  | [], [] => .eq
  | [], _ :: _ => .lt
  | _ :: _, [] => .gt
  | a :: as, b :: bs => (order a b).then (orderItems as bs)

def orderEntries : List (Value × Value) → List (Value × Value) → Ordering
  | [], [] => .eq
  | [], _ :: _ => .lt
  | _ :: _, [] => .gt
  | (k, v) :: as, (l, w) :: bs => ((order k l).then (order v w)).then (orderEntries as bs)

end

def insertEntry (e : Value × Value) : List (Value × Value) → List (Value × Value)
  | [] => [e]
  | f :: rest =>
    if ((order e.1 f.1).then (order e.2 f.2)).isLE then e :: f :: rest
    else f :: insertEntry e rest

mutual

def canonical : Value → Value
  | .float x => .float x.canonical
  | .list items => .list (canonicalItems items)
  | .record entries => .record (canonicalEntries entries)
  | .tagged t v => .tagged t v.canonical
  | .null => .null
  | .bool b => .bool b
  | .int n => .int n
  | .string s => .string s

def canonicalItems : List Value → List Value
  | [] => []
  | v :: vs => v.canonical :: canonicalItems vs

def canonicalEntries : List (Value × Value) → List (Value × Value)
  | [] => []
  | (k, v) :: es => insertEntry (k.canonical, v.canonical) (canonicalEntries es)

end

def same (a b : Value) : Bool := a.canonical = b.canonical

instance : BEq Value := ⟨same⟩

theorem beq_iff_canonical {a b : Value} : (a == b) = true ↔ a.canonical = b.canonical := by
  show decide (a.canonical = b.canonical) = true ↔ _
  simp

instance : EquivBEq Value where
  rfl := beq_iff_canonical.2 rfl
  symm h := beq_iff_canonical.2 (beq_iff_canonical.1 h).symm
  trans h₁ h₂ := beq_iff_canonical.2 ((beq_iff_canonical.1 h₁).trans (beq_iff_canonical.1 h₂))

theorem beq_string_iff {v : Value} {s : String} :
    (v == Value.string s) = true ↔ v = Value.string s := by
  rw [beq_iff_canonical]
  cases v <;> simp [canonical]

end Value

abbrev Record := Entries Value Value

namespace Record

/-- The value of the setting with this name; only a text without a tag is a name. -/
def setting? (r : Record) (name : String) : Option Value := Entries.get? r (.string name)

end Record

end ViewLayers
