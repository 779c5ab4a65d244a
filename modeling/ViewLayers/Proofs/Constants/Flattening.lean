import Mathlib.Data.Finset.Card
import ViewLayers.Proofs.Entries
import ViewLayers.Constants

/-!
# Flattening a table of constants

A document defines constants by the paths of keys that lead through records without tags to
something else. The keys of a path give the name, in lower case, and what stands at its end gives
the text. Where several paths give one name the last of them has the say, so a table is told by
the list of its definitions alone.
-/

namespace ViewLayers

namespace Entries

variable {κ β : Type} [DecidableEq κ]

theorem mem_keys_ofPairs_iff {pairs : Entries κ β} {k : κ} :
    k ∈ keys (ofPairs pairs) ↔ k ∈ keys pairs := by
  rw [keys_ofPairs, List.mem_eraseDups]

theorem length_ofPairs (pairs : Entries κ β) :
    (ofPairs pairs).length = (keys pairs).toFinset.card := by
  have hnodup : (keys (ofPairs pairs)).Nodup :=
    (distinct_iff_pairwise_keys.1 (distinct_ofPairs pairs)).imp fun h => by simpa using h
  have hkeys : (keys (ofPairs pairs)).toFinset = (keys pairs).toFinset := by
    ext k
    rw [List.mem_toFinset, List.mem_toFinset, mem_keys_ofPairs_iff]
  rw [← hkeys, List.toFinset_card_of_nodup hnodup, keys, List.length_map]

end Entries

mutual

/-- What paths of keys lead to below a value, with the keys behind those of `path`, in document
order. A path goes on through a record and ends at everything else. -/
def Value.ends (path : List Value) : Value → List (List Value × Value)
  | .record entries => Record.ends path entries
  | v => [(path, v)]

def Record.ends (path : List Value) : List (Value × Value) → List (List Value × Value)
  | [] => []
  | (k, v) :: rest => Value.ends (path ++ [k]) v ++ Record.ends path rest

end

namespace Constants

def pathName (path : List Value) : String := "_".intercalate (path.map Value.keyText)

def definedText? (v : Value) : Option String := if v.isNull then some "" else v.scalarText?

def definitions (r : Record) : List (String × String) :=
  (Record.ends [] r).filterMap fun e =>
    (definedText? e.2).map fun text => (Text.lowercase (pathName e.1), text)

section Paths

theorem pathName_append (path : List Value) (hpath : path ≠ []) (k : Value) :
    pathName (path ++ [k]) = pathName path ++ "_" ++ k.keyText := by
  have hne : path.map Value.keyText ≠ [] := by simpa using hpath
  rw [pathName, List.map_append, String.intercalate_append_of_ne_nil hne (by simp)]
  rfl

def named (e : List Value × Value) : String × Option String := (pathName e.1, definedText? e.2)

mutual

theorem leaves_eq (path : List Value) (hpath : path ≠ []) :
    ∀ v : Value, leaves (pathName path) v = (v.ends path).map named
  | .record entries => by
    rw [leaves, Value.ends]
    exact leavesUnder_eq path _ (fun k => (pathName_append path hpath k).symm) entries
  | .null | .bool _ | .int _ | .float _ | .string _ | .list _ | .tagged _ _ => rfl

theorem leavesUnder_eq (path : List Value) (start : String)
    (hstart : ∀ k : Value, start ++ k.keyText = pathName (path ++ [k])) :
    ∀ entries : List (Value × Value),
      leavesUnder start entries = (Record.ends path entries).map named
  | [] => rfl
  | (k, v) :: rest => by
    rw [leavesUnder, Record.ends, List.map_append, hstart,
      leaves_eq (path ++ [k]) (by simp) v, leavesUnder_eq path start hstart rest]

end

end Paths

theorem values_foldl_define (pairs : List (String × String)) (t : Constants) :
    (pairs.foldl (fun t e => t.define e.1 e.2) t).values =
      (pairs.map fun e => (Text.lowercase e.1, e.2)).foldl (fun es e => Entries.put es e.1 e.2)
        t.values := by
  induction pairs generalizing t with
  | nil => rfl
  | cons e rest ih => exact ih (t.define e.1 e.2)

theorem values_ofEntries (r : Record) :
    (ofEntries r).values = Entries.ofPairs (definitions r) := by
  have hstart : ∀ k : Value, "" ++ k.keyText = pathName ([] ++ [k]) := fun _ => String.empty_append
  rw [ofEntries, ofPairs, values_foldl_define, leavesUnder_eq [] "" hstart, definitions,
    List.filterMap_map, List.map_filterMap]
  simp only [Function.comp_def, named, Option.map_map]
  rfl

theorem definedText?_eq_none_iff {v : Value} : definedText? v = none ↔ v.isCollection = true := by
  induction v using Value.untagged.induct with
  | case1 tag v ih => exact ih
  | case2 v h =>
    cases v with
    | tagged tag w => exact absurd rfl (h tag w)
    | _ => simp [definedText?, Value.isNull, Value.isCollection, Value.scalarText?]

/-- A document is a table when it is a record under any number of tags. A name has the text of its
last definition, what is at the end of a path defines nothing only if it is a collection, and the
table has as many names as are defined. -/
theorem ofValue?_eq_definitions (v : Value) :
    (ofValue? v = none ↔ ∀ r, v.untagged ≠ .record r) ∧
      ∀ r, v.untagged = .record r → ∃ t, ofValue? v = some t ∧
        (∀ name, t.lookup name =
          ((definitions r).filter fun d => d.1 == name).getLast?.map Prod.snd) ∧
        (∀ e ∈ Record.ends [] r, definedText? e.2 = none ↔ e.2.isCollection = true) ∧
        t.values.length = ((definitions r).map Prod.fst).toFinset.card := by
  refine ⟨?_, fun r hr =>
    ⟨ofEntries r, ?_, fun name => ?_, fun _ _ => definedText?_eq_none_iff, ?_⟩⟩
  · rw [ofValue?, Option.map_eq_none_iff, Value.entries?]
    cases hv : v.untagged with
    | record r => simp
    | _ => simp
  · rw [ofValue?, Value.entries?, hr]
    rfl
  · rw [lookup, values_ofEntries, Entries.get?_ofPairs]
  · rw [values_ofEntries, Entries.length_ofPairs]
    rfl

def collidingNames : Record :=
  [(.string "a", .record [(.string "b_c", .int 1), (.null, .bool true)]),
    (.string "a_b", .record [(.string "c", .int 2)]), (.string "A_B_C", .list [.int 3]),
    (.int 404, .tagged "t" .null), (.string "x", .tagged "t" (.record [(.string "y", .int 4)]))]

theorem ofValue?_eq_definitions_collidingNames :
    (Value.tagged "site" (.record collidingNames)).untagged = .record collidingNames ∧
      ∃ t, ofValue? (.tagged "site" (.record collidingNames)) = some t ∧
        t.lookup "a_b_c" = some "2" ∧ t.lookup "a_null" = some "true" ∧
        t.lookup "404" = some "" ∧ t.lookup "x_y" = none ∧ t.values.length = 3 := by
  have huntagged : (Value.tagged "site" (.record collidingNames)).untagged =
      .record collidingNames := rfl
  have hdefinitions : definitions collidingNames =
      [("a_b_c", "1"), ("a_null", "true"), ("a_b_c", "2"), ("404", "")] := by decide +kernel
  obtain ⟨t, ht, hlookup, -, hlength⟩ :=
    (ofValue?_eq_definitions (.tagged "site" (.record collidingNames))).2 _ huntagged
  rw [hdefinitions] at hlength
  simp only [hdefinitions] at hlookup
  refine ⟨huntagged, t, ht, ?_, ?_, ?_, ?_, hlength.trans (by decide +kernel)⟩
  · exact (hlookup "a_b_c").trans (by decide +kernel)
  · exact (hlookup "a_null").trans (by decide +kernel)
  · exact (hlookup "404").trans (by decide +kernel)
  · exact (hlookup "x_y").trans (by decide +kernel)

end Constants

end ViewLayers
