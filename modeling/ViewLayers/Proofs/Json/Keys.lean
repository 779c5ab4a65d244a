import ViewLayers.CommandLine.Compile

/-!
# Keys that JSON has no name for

A procedure holds values in its escaping methods and asset options. Their records, at any depth,
become objects, whose names are texts, so a key must be a text, a whole number, a truth value or a
finite number. Writing goes through the keys in the order of the output and fails at the first
other one. Nothing else can fail, and a script can always be written.
-/

namespace ViewLayers

inductive Value.PlainKey : Value → Prop
  | bool (b : Bool) : PlainKey (.bool b)
  | int (n : Int) : PlainKey (.int n)
  | string (s : String) : PlainKey (.string s)
  | float {x : Binary64} (finite : x.isFinite = true) : PlainKey (.float x)

inductive JsonFault.OfKey : Value → JsonFault → Prop
  | float {x : Binary64} (notFinite : x.isFinite = false) : OfKey (.float x) .keyNotFinite
  | null : OfKey .null .keyNotText
  | list (items : List Value) : OfKey (.list items) .keyNotText
  | record (entries : List (Value × Value)) : OfKey (.record entries) .keyNotText
  | tagged (tag : String) (v : Value) : OfKey (.tagged tag v) .keyNotText

/-- A value occurs in another at some depth, be it in a list, in a record or under a tag. -/
inductive Value.Occurs (w : Value) : Value → Prop
  | here : Occurs w w
  | item {items : List Value} {v : Value} (mem : v ∈ items) (within : Occurs w v) :
      Occurs w (.list items)
  | key {entries : List (Value × Value)} {e : Value × Value} (mem : e ∈ entries)
      (within : Occurs w e.1) : Occurs w (.record entries)
  | value {entries : List (Value × Value)} {e : Value × Value} (mem : e ∈ entries)
      (within : Occurs w e.2) : Occurs w (.record entries)
  | tagged {tag : String} {v : Value} (within : Occurs w v) : Occurs w (.tagged tag v)

mutual

/-- The keys that are written for a value, in the order of the output. -/
def Value.keysWithin : Value → List Value
  | .list items => Value.keysOfItems items
  | .record entries => Record.keysWithin entries
  | .tagged _ v => v.keysWithin
  | _ => []

def Value.keysOfItems : List Value → List Value
  | [] => []
  | v :: vs => v.keysWithin ++ Value.keysOfItems vs

def Record.keysWithin : List (Value × Value) → List Value
  | [] => []
  | (k, v) :: rest => k :: (v.keysWithin ++ Record.keysWithin rest)

end

def Statement.values : Statement → List Value
  | .setEscapingMethod method => [method]
  | .addAsset _ asset => [.record asset.options]
  | _ => []

def Dispatch.statements (d : Dispatch) : List Statement :=
  d.branches.flatMap Branch.body ++ d.fallback

namespace Procedure

def statements (p : Procedure) : List Statement :=
  p.prelude ++ p.templatePhase.statements ++ p.setupPhase.statements

def keys (p : Procedure) : List Value :=
  p.statements.flatMap fun s => s.values.flatMap Value.keysWithin

end Procedure

def faultOf {ε α : Type} : Except ε α → Option ε
  | .ok _ => none
  | .error e => some e

section Faults

variable {ε α β γ : Type}

theorem faultOf_eq_some_iff {x : Except ε α} {e : ε} : faultOf x = some e ↔ x = .error e := by
  cases x <;> simp [faultOf]

theorem faultOf_eq_none_iff {x : Except ε α} : faultOf x = none ↔ ∃ a, x = .ok a := by
  cases x <;> simp [faultOf]

theorem faultOf_mapError (x : Except ε α) (f : ε → γ) :
    faultOf (x.mapError f) = (faultOf x).map f := by
  cases x <;> rfl

theorem faultOf_map (x : Except ε α) (f : α → β) : faultOf (x.map f) = faultOf x := by
  cases x <;> rfl

theorem faultOf_bind {x : Except ε α} {f : α → Except ε β} {later : Option ε}
    (h : ∀ a, faultOf (f a) = later) : faultOf (x >>= f) = (faultOf x).or later := by
  cases x with
  | error e => rfl
  | ok a => exact h a

theorem faultOf_bind_of_none {x : Except ε α} {f : α → Except ε β}
    (h : ∀ a, faultOf (f a) = none) : faultOf (x >>= f) = faultOf x := by
  rw [faultOf_bind h, Option.or_none]

theorem faultOf_mapM {f : α → Except ε β} {keys : α → List γ} {wrong : γ → Option ε}
    (l : List α) (h : ∀ a ∈ l, faultOf (f a) = (keys a).findSome? wrong) :
    faultOf (l.mapM f) = (l.flatMap keys).findSome? wrong := by
  induction l with
  | nil => rfl
  | cons a l ih =>
    obtain ⟨ha, hl⟩ := List.forall_mem_cons.1 h
    rw [List.mapM_cons, List.flatMap_cons, List.findSome?_append, ← ha, ← ih hl]
    exact faultOf_bind fun _ => faultOf_bind_of_none fun _ => rfl

end Faults

namespace Json

theorem faultOf_memberName_eq_some_iff {k : Value} {fault : JsonFault} :
    faultOf (memberName k) = some fault ↔ fault.OfKey k := by
  constructor
  · intro h
    cases k with
    | float x =>
      rw [memberName] at h
      split at h
      · cases h
      · rename_i hx
        cases h
        exact .float (Bool.not_eq_true _ ▸ hx)
    | null | list | record | tagged =>
      cases h
      constructor
    | bool | int | string => cases h
  · intro h
    cases h with
    | float hx => rw [memberName, hx]; rfl
    | _ => rfl

theorem faultOf_memberName_eq_none_iff {k : Value} :
    faultOf (memberName k) = none ↔ k.PlainKey := by
  constructor
  · intro h
    cases k with
    | float x =>
      rw [memberName] at h
      split at h
      · rename_i hx
        exact .float hx
      · cases h
    | bool | int | string => constructor
    | null | list | record | tagged => cases h
  · intro h
    cases h with
    | float hx => rw [memberName, hx]; rfl
    | _ => rfl

def firstFault (keys : List Value) : Option JsonFault :=
  keys.findSome? fun k => faultOf (memberName k)

@[simp] theorem firstFault_append (keys more : List Value) :
    firstFault (keys ++ more) = (firstFault keys).or (firstFault more) := List.findSome?_append

@[simp] theorem firstFault_cons (k : Value) (keys : List Value) :
    firstFault (k :: keys) = (faultOf (memberName k)).or (firstFault keys) := by
  rw [firstFault, List.findSome?_cons]
  cases faultOf (memberName k) <;> rfl

section Writing

mutual

theorem faultOf_exact : ∀ v : Value, faultOf (exact v) = firstFault v.keysWithin
  | .null | .bool _ | .int _ | .float _ | .string _ => rfl
  | .list items => by
    rw [exact, faultOf_map, Value.keysWithin]
    exact faultOf_exactItems items
  | .record entries => by
    rw [exact, faultOf_map, Value.keysWithin]
    exact faultOf_exactEntries entries
  | .tagged _ v => by
    rw [exact, faultOf_map, Value.keysWithin]
    exact faultOf_exact v

theorem faultOf_exactItems : ∀ items : List Value,
    faultOf (exactItems items) = firstFault (Value.keysOfItems items)
  | [] => rfl
  | v :: vs => by
    rw [exactItems, Value.keysOfItems, firstFault_append, ← faultOf_exact v,
      ← faultOf_exactItems vs]
    exact faultOf_bind fun _ => faultOf_bind_of_none fun _ => rfl

theorem faultOf_exactEntries : ∀ entries : List (Value × Value),
    faultOf (exactEntries entries) = firstFault (Record.keysWithin entries)
  | [] => rfl
  | (k, v) :: rest => by
    rw [exactEntries, Record.keysWithin, firstFault_cons, firstFault_append, ← faultOf_exact v,
      ← faultOf_exactEntries rest]
    exact faultOf_bind fun _ => faultOf_bind fun _ => faultOf_bind_of_none fun _ => rfl

end

theorem faultOf_ofStatement (s : Statement) :
    faultOf (ofStatement s) = firstFault (s.values.flatMap Value.keysWithin) := by
  cases s with
  | setEscapingMethod method =>
    rw [ofStatement, faultOf_map, faultOf_exact, Statement.values, List.flatMap_singleton]
  | addAsset kind asset =>
    rw [ofStatement, faultOf_map, faultOf_exactEntries, Statement.values, List.flatMap_singleton,
      Value.keysWithin]
  | _ => rfl

theorem faultOf_ofStatements (body : List Statement) :
    faultOf (ofStatements body) =
      firstFault (body.flatMap fun s => s.values.flatMap Value.keysWithin) := by
  rw [ofStatements, faultOf_map]
  exact faultOf_mapM body fun s _ => faultOf_ofStatement s

theorem faultOf_ofDispatch (d : Dispatch) :
    faultOf (ofDispatch d) =
      firstFault (d.statements.flatMap fun s => s.values.flatMap Value.keysWithin) := by
  have hbranches : faultOf (d.branches.mapM ofBranch) = firstFault
      ((d.branches.flatMap Branch.body).flatMap fun s => s.values.flatMap Value.keysWithin) := by
    rw [List.flatMap_assoc]
    refine faultOf_mapM d.branches fun b _ => ?_
    rw [ofBranch, faultOf_map]
    exact faultOf_ofStatements b.body
  rw [Dispatch.statements, List.flatMap_append, firstFault_append, ← hbranches,
    ← faultOf_ofStatements]
  exact faultOf_bind fun _ => faultOf_bind_of_none fun _ => rfl

theorem faultOf_jsonText (p : Procedure) : faultOf p.jsonText = firstFault p.keys := by
  rw [Procedure.jsonText, faultOf_map, Procedure.keys, Procedure.statements, List.flatMap_append,
    List.flatMap_append, firstFault_append, firstFault_append, ← faultOf_ofStatements,
    ← faultOf_ofDispatch, ← faultOf_ofDispatch, Option.or_assoc]
  exact faultOf_bind fun _ => faultOf_bind fun _ => faultOf_bind_of_none fun _ => rfl

theorem firstFault_eq_none_iff {keys : List Value} :
    firstFault keys = none ↔ ∀ k ∈ keys, k.PlainKey := by
  simp only [firstFault, List.findSome?_eq_none_iff, faultOf_memberName_eq_none_iff]

theorem firstFault_eq_some_iff {keys : List Value} {fault : JsonFault} :
    firstFault keys = some fault ↔ ∃ before k after,
      keys = before ++ k :: after ∧ (∀ l ∈ before, l.PlainKey) ∧ fault.OfKey k := by
  simp only [firstFault, List.findSome?_eq_some_iff, faultOf_memberName_eq_none_iff,
    faultOf_memberName_eq_some_iff, and_comm]

end Writing

end Json

section Occurs

open Value (Occurs)

mutual

theorem Value.exists_occurs_of_mem {k : Value} :
    ∀ v : Value, k ∈ v.keysWithin → ∃ r, Occurs (.record r) v ∧ ∃ e ∈ r, e.1 = k
  | .null, h | .bool _, h | .int _, h | .float _, h | .string _, h => nomatch h
  | .list items, h => by
    obtain ⟨v, hv, r, hr, he⟩ := Value.exists_occurs_of_mem_items items h
    exact ⟨r, .item hv hr, he⟩
  | .record entries, h => by
    obtain he | ⟨e, hmem, r, hr, he⟩ := Record.exists_occurs_of_mem entries h
    · exact ⟨entries, .here, he⟩
    · exact ⟨r, .value hmem hr, he⟩
  | .tagged _ v, h => by
    obtain ⟨r, hr, he⟩ := Value.exists_occurs_of_mem v h
    exact ⟨r, .tagged hr, he⟩

theorem Value.exists_occurs_of_mem_items {k : Value} :
    ∀ items : List Value, k ∈ Value.keysOfItems items →
      ∃ v ∈ items, ∃ r, Occurs (.record r) v ∧ ∃ e ∈ r, e.1 = k
  | [], h => nomatch h
  | v :: vs, h => by
    rw [Value.keysOfItems, List.mem_append] at h
    rcases h with h | h
    · exact ⟨v, List.mem_cons_self, Value.exists_occurs_of_mem v h⟩
    · obtain ⟨w, hw, hr⟩ := Value.exists_occurs_of_mem_items vs h
      exact ⟨w, List.mem_cons_of_mem v hw, hr⟩

theorem Record.exists_occurs_of_mem {k : Value} :
    ∀ entries : List (Value × Value), k ∈ Record.keysWithin entries →
      (∃ e ∈ entries, e.1 = k) ∨
        ∃ e ∈ entries, ∃ r, Occurs (.record r) e.2 ∧ ∃ f ∈ r, f.1 = k
  | [], h => nomatch h
  | (l, v) :: rest, h => by
    rw [Record.keysWithin, List.mem_cons, List.mem_append] at h
    rcases h with rfl | h | h
    · exact .inl ⟨_, List.mem_cons_self, rfl⟩
    · exact .inr ⟨_, List.mem_cons_self, Value.exists_occurs_of_mem v h⟩
    · obtain ⟨e, he, hk⟩ | ⟨e, he, hr⟩ := Record.exists_occurs_of_mem rest h
      · exact .inl ⟨e, List.mem_cons_of_mem _ he, hk⟩
      · exact .inr ⟨e, List.mem_cons_of_mem _ he, hr⟩

end

theorem Value.keysOfItems_eq (items : List Value) :
    Value.keysOfItems items = items.flatMap Value.keysWithin := by
  induction items with
  | nil => rfl
  | cons v vs ih => rw [Value.keysOfItems, List.flatMap_cons, ih]

theorem Record.keysWithin_eq (entries : List (Value × Value)) :
    Record.keysWithin entries = entries.flatMap fun e => e.1 :: e.2.keysWithin := by
  induction entries with
  | nil => rfl
  | cons e rest ih => rw [Record.keysWithin, List.flatMap_cons, ih, List.cons_append]

theorem Value.PlainKey.keysWithin_eq_nil {k : Value} (h : k.PlainKey) : k.keysWithin = [] := by
  cases h <;> rfl

theorem Value.plainKey_of_occurs {v : Value} {r : List (Value × Value)}
    (hr : Occurs (.record r) v) (h : ∀ k ∈ v.keysWithin, k.PlainKey) :
    ∀ e ∈ r, e.1.PlainKey := by
  induction hr with
  | here =>
    intro e he
    refine h e.1 ?_
    rw [Value.keysWithin, Record.keysWithin_eq]
    exact List.mem_flatMap.2 ⟨e, he, List.mem_cons_self⟩
  | item mem _ ih =>
    refine ih fun k hk => h k ?_
    rw [Value.keysWithin, Value.keysOfItems_eq]
    exact List.mem_flatMap.2 ⟨_, mem, hk⟩
  | @key entries e mem _ ih =>
    have hplain : e.1.PlainKey := by
      refine h e.1 ?_
      rw [Value.keysWithin, Record.keysWithin_eq]
      exact List.mem_flatMap.2 ⟨e, mem, List.mem_cons_self⟩
    refine ih fun k hk => ?_
    rw [hplain.keysWithin_eq_nil] at hk
    cases hk
  | value mem _ ih =>
    refine ih fun k hk => h k ?_
    rw [Value.keysWithin, Record.keysWithin_eq]
    exact List.mem_flatMap.2 ⟨_, mem, List.mem_cons_of_mem _ hk⟩
  | tagged _ ih => exact ih h

theorem Value.forall_plainKey_iff {v : Value} :
    (∀ k ∈ v.keysWithin, k.PlainKey) ↔
      ∀ r, Occurs (.record r) v → ∀ e ∈ r, e.1.PlainKey := by
  constructor
  · exact fun h r hr => Value.plainKey_of_occurs hr h
  · intro h k hk
    obtain ⟨r, hr, e, he, rfl⟩ := Value.exists_occurs_of_mem v hk
    exact h r hr e he

theorem Procedure.forall_keys_iff {p : Procedure} :
    (∀ k ∈ p.keys, k.PlainKey) ↔ ∀ s ∈ p.statements, ∀ v ∈ s.values,
      ∀ r, Occurs (.record r) v → ∀ e ∈ r, e.1.PlainKey := by
  simp only [← Value.forall_plainKey_iff, Procedure.keys, List.mem_flatMap]
  constructor
  · exact fun h s hs v hv k hk => h k ⟨s, hs, v, hv, hk⟩
  · rintro h k ⟨s, hs, v, hv, hk⟩
    exact h s hs v hv k hk

end Occurs

/-- Writing a procedure succeeds in both formats but for one thing: JSON needs every record in the
values of its statements, at any depth, to have plain keys only. The fault is then that of the
first key, in the order of the output, that is not plain. -/
theorem write_eq_ok_or_error_iff (f : OutputFormat) (p : Procedure) :
    ((∃ text, f.write p = .ok text) ↔ (f = .json → ∀ s ∈ p.statements, ∀ v ∈ s.values,
        ∀ r, Value.Occurs (.record r) v → ∀ e ∈ r, e.1.PlainKey)) ∧
      ∀ e, f.write p = .error e ↔ f = .json ∧ ∃ before k after fault,
        p.keys = before ++ k :: after ∧ (∀ l ∈ before, l.PlainKey) ∧
          fault.OfKey k ∧ e = .json fault := by
  rw [← faultOf_eq_none_iff]
  simp only [← faultOf_eq_some_iff]
  cases f with
  | script => exact ⟨⟨fun _ => nofun, fun _ => rfl⟩, fun _ => ⟨nofun, nofun⟩⟩
  | json =>
    rw [OutputFormat.write, faultOf_mapError, Json.faultOf_jsonText, Option.map_eq_none_iff,
      Json.firstFault_eq_none_iff, Procedure.forall_keys_iff]
    refine ⟨⟨fun h _ => h, fun h => h rfl⟩, fun e => ?_⟩
    rw [Option.map_eq_some_iff]
    constructor
    · rintro ⟨fault, hfault, rfl⟩
      obtain ⟨before, k, after, hkeys, hbefore, hk⟩ := Json.firstFault_eq_some_iff.1 hfault
      exact ⟨rfl, before, k, after, fault, hkeys, hbefore, hk, rfl⟩
    · rintro ⟨-, before, k, after, fault, hkeys, hbefore, hk, rfl⟩
      exact ⟨fault, Json.firstFault_eq_some_iff.2 ⟨before, k, after, hkeys, hbefore, hk⟩, rfl⟩

end ViewLayers
