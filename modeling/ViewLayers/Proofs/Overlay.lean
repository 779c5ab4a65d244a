import ViewLayers.Proofs.Entries
import ViewLayers.Value.Overlay

/-!
# Values of an overlay

Looking up a key in an overlay is the same as laying the two values found under the key.
-/

namespace ViewLayers

/-- The value at a key of an overlay, from the values that the two sides have there. -/
def Value.laidOver : Option Value → Option Value → Option Value
  | some below, some above => some (below.overlaid above)
  | below, none => below
  | none, above => above

@[simp] theorem Value.laidOver_none (below : Option Value) : laidOver below none = below := by
  cases below <;> rfl

@[simp] theorem Value.none_laidOver (above : Option Value) : laidOver none above = above := by
  cases above <;> rfl

@[simp] theorem Value.overlaid_records (base entries : Record) :
    overlaid (.record base) (.record entries) = .record (Record.overlay base entries) := by
  simp only [overlaid, Record.overlay]

theorem Value.overlaid_eq_or_records (below above : Value) :
    below.overlaid above = above ∨
      ∃ base entries, below = .record base ∧ above = .record entries := by
  cases below with
  | record base =>
    cases above with
    | record entries => exact .inr ⟨base, entries, rfl, rfl⟩
    | _ => left; simp only [overlaid]
  | _ => left; simp only [overlaid]

section NotRecord

variable {v : Value} (h : ∀ r, v ≠ .record r)
include h

theorem Value.overlaid_of_ne_record (above : Value) : v.overlaid above = above := by
  obtain heq | ⟨r, s, rfl, -⟩ := overlaid_eq_or_records v above
  · exact heq
  · exact absurd rfl (h r)

theorem Value.overlaid_ne_record (below : Value) : below.overlaid v = v := by
  obtain heq | ⟨r, s, -, rfl⟩ := overlaid_eq_or_records below v
  · exact heq
  · exact absurd rfl (h s)

end NotRecord

namespace Record

@[simp] theorem nil_overlay (entries : Record) : overlay [] entries = entries := by
  simp [overlay, overlaidEntries, news, Entries.has]

theorem get?_overlaidEntries (base entries : Record) (k : Value) :
    Entries.get? (overlaidEntries base entries) k =
      (Entries.get? base k).bind fun v => Value.laidOver (some v) (Entries.get? entries k) := by
  induction base with
  | nil => rfl
  | cons e rest ih =>
    obtain ⟨l, v⟩ := e
    by_cases h : (l == k) = true
    · have hk := Entries.get?_congr entries h
      simp only [overlaidEntries, Entries.get?, h, ↓reduceIte, Option.bind_some, hk]
      cases Entries.get? entries k <;> rfl
    · simp only [overlaidEntries, Entries.get?, h, ↓reduceIte, ih, Bool.false_eq_true]

theorem get?_news (base entries : Record) (k : Value) :
    Entries.get? (news base entries) k =
      if (Entries.get? base k).isSome then none else Entries.get? entries k := by
  have hp : ∀ l : Value, (l == k) = true →
      (!Entries.has base l) = (!Entries.has base k) := by
    intro l hl
    rw [Entries.has_congr base hl]
  rw [news, Entries.get?_filter_key entries (fun l => !Entries.has base l) k hp,
    Entries.has_eq_isSome_get?]
  cases (Entries.get? base k).isSome <;> simp

@[simp] theorem get?_overlay (base entries : Record) (k : Value) :
    Entries.get? (overlay base entries) k =
      Value.laidOver (Entries.get? base k) (Entries.get? entries k) := by
  rw [overlay, Entries.get?_append, get?_overlaidEntries, get?_news]
  cases Entries.get? base k <;> cases Entries.get? entries k <;> rfl

@[simp] theorem keys_overlaidEntries (base entries : Record) :
    Entries.keys (overlaidEntries base entries) = Entries.keys base := by
  induction base with
  | nil => rfl
  | cons e rest ih => exact congrArg (e.1 :: ·) ih

@[simp] theorem news_append (base r more : Record) :
    news base (r ++ more) = news base r ++ news base more :=
  List.filter_append ..

@[simp] theorem news_self (r : Record) : news r r = [] := by
  refine List.filter_eq_nil_iff.2 fun e he => ?_
  have hhas : Entries.has r e.1 = true := List.any_eq_true.2 ⟨e, he, BEq.rfl⟩
  rw [hhas]
  decide

theorem keys_news (base entries : Record) :
    Entries.keys (news base entries) =
      (Entries.keys entries).filter fun k => !Entries.has base k :=
  Entries.keys_filter_key entries fun k => !Entries.has base k

@[simp] theorem keys_overlay (base entries : Record) :
    Entries.keys (overlay base entries) =
      Entries.keys base ++ (Entries.keys entries).filter fun k => !Entries.has base k := by
  rw [overlay, Entries.keys_append, keys_overlaidEntries, keys_news]

@[simp] theorem has_overlay (base entries : Record) (k : Value) :
    Entries.has (overlay base entries) k = (Entries.has base k || Entries.has entries k) := by
  simp only [Entries.has_eq_isSome_get?, get?_overlay]
  cases Entries.get? base k <;> cases Entries.get? entries k <;> rfl

theorem distinct_overlay {base entries : Record} (hb : Entries.Distinct base)
    (he : Entries.Distinct entries) : Entries.Distinct (overlay base entries) := by
  rw [Entries.distinct_iff_pairwise_keys, keys_overlay]
  exact Entries.pairwise_keys_append_new hb he

@[simp] theorem overlay_nil (base : Record) : overlay base [] = base := by
  have hkept : overlaidEntries base [] = base := by
    induction base with
    | nil => rfl
    | cons e rest ih => exact congrArg (e :: ·) ih
  rw [overlay, hkept]
  exact List.append_nil base

end Record

end ViewLayers
