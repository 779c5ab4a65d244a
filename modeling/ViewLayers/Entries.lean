/-!
# Ordered entries

A list of keyed values in the order in which the keys first came. Putting a value under a
key that is there keeps the place and the spelling of the key. Keys are compared by `==`;
that no key occurs twice is the predicate `Distinct`, which every operation keeps.
-/

namespace ViewLayers

abbrev Entries (κ β : Type) := List (κ × β)

namespace Entries

variable {κ β : Type} [BEq κ]

@[simp] def get? : Entries κ β → κ → Option β
  | [], _ => none
  | (l, v) :: rest, k => if l == k then some v else get? rest k

def has (es : Entries κ β) (k : κ) : Bool := es.any fun e => e.1 == k

@[simp] def put : Entries κ β → κ → β → Entries κ β
  | [], k, v => [(k, v)]
  | (l, w) :: rest, k, v => if l == k then (l, v) :: rest else (l, w) :: put rest k v

def without (es : Entries κ β) (k : κ) : Entries κ β := es.filter fun e => !(e.1 == k)

/-- Puts every pair in turn, so that a key keeps its first place and its last value. -/
def ofPairs (pairs : List (κ × β)) : Entries κ β :=
  pairs.foldl (fun es e => put es e.1 e.2) []

def keys (es : Entries κ β) : List κ := es.map Prod.fst

def Distinct (es : Entries κ β) : Prop := es.Pairwise fun a b => (a.1 == b.1) = false

theorem has_eq_isSome_get? (es : Entries κ β) (k : κ) : es.has k = (es.get? k).isSome := by
  induction es with
  | nil => rfl
  | cons e rest ih =>
    obtain ⟨l, v⟩ := e
    by_cases h : l == k <;> simp_all [has]

@[simp] theorem get?_put_self [ReflBEq κ] (es : Entries κ β) (k : κ) (v : β) :
    get? (put es k v) k = some v := by
  induction es with
  | nil => simp
  | cons e rest ih =>
    obtain ⟨l, w⟩ := e
    by_cases h : l == k <;> simp [h, ih]

theorem put_of_get?_eq_none {es : Entries κ β} {k : κ} (v : β) (h : es.get? k = none) :
    put es k v = es ++ [(k, v)] := by
  induction es with
  | nil => rfl
  | cons e rest ih =>
    obtain ⟨l, w⟩ := e
    by_cases hl : l == k <;> simp_all

end Entries

/-- Entries of which no two have like keys. -/
structure DistinctEntries (κ β : Type) [BEq κ] where
  entries : Entries κ β
  distinct : entries.Distinct

end ViewLayers
