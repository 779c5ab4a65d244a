import ViewLayers.Proofs.Overlay.Associative

/-!
# Layers that come twice

A record laid over itself is itself. Three layers of which two neighbours are the same never
clash, so their grouping makes no difference, and a layer that repeats its neighbour adds nothing.
-/

namespace ViewLayers

mutual

theorem Value.overlaid_self : ∀ v : Value, v.Keyed → v.overlaid v = v
  | .record r, h => by
    obtain ⟨hdistinct, hvalues⟩ := Value.keyed_record_iff.1 h
    have hentries : Record.overlaidEntries r r = r :=
      Record.overlaidEntries_of_get? r r (fun e he => hdistinct.get?_eq_some_of_mem he) hvalues
    rw [Value.overlaid_records, Record.overlay, hentries, Record.news_self, List.append_nil]
  | .null, _ | .bool _, _ | .int _, _ | .float _, _ | .string _, _ | .list _, _
  | .tagged _ _, _ => by
    simp only [Value.overlaid]

theorem Record.overlaidEntries_of_get? : ∀ (part : List (Value × Value)) (whole : Record),
    (∀ e ∈ part, Entries.get? whole e.1 = some e.2) → (∀ e ∈ part, e.2.Keyed) →
    Record.overlaidEntries part whole = part
  | [], _, _, _ => rfl
  | (k, v) :: rest, whole, hget, hkeyed => by
    have hrest := Record.overlaidEntries_of_get? rest whole
      (fun e he => hget e (List.mem_cons_of_mem _ he))
      (fun e he => hkeyed e (List.mem_cons_of_mem _ he))
    have hv : Entries.get? whole k = some v := hget (k, v) List.mem_cons_self
    have hself := Value.overlaid_self v (hkeyed (k, v) List.mem_cons_self)
    simp only [Record.overlaidEntries, hv, hself, hrest]

end

section SameNeighbours

variable (a b : Value) (path : List Value)

theorem Value.not_clash_low : ¬ Clash a a b path := by
  rintro ⟨⟨r, hr⟩, ⟨v, hv, hne⟩, -⟩
  rw [hr, Option.some.injEq] at hv
  exact hne r hv.symm

theorem Value.not_clash_high : ¬ Clash a b b path := by
  rintro ⟨-, ⟨v, hv, hne⟩, ⟨r, hr⟩⟩
  rw [hr, Option.some.injEq] at hv
  exact hne r hv.symm

end SameNeighbours

namespace KeyedRecord

variable (a b : KeyedRecord)

theorem overlay_self : Record.overlay a.entries a.entries = a.entries := by
  have hself := Value.overlaid_self (.record a.entries) a.keyed
  rwa [Value.overlaid_records, Value.record.injEq] at hself

theorem overlay_overlay_self_low :
    Record.overlay a.entries (Record.overlay a.entries b.entries) =
      Record.overlay a.entries b.entries := by
  rw [← a.overlay_overlay (Value.not_clash_low _ _), overlay_self]

theorem overlay_overlay_self_high :
    Record.overlay (Record.overlay a.entries b.entries) b.entries =
      Record.overlay a.entries b.entries := by
  rw [a.overlay_overlay (Value.not_clash_high _ _), overlay_self]

def overlay : KeyedRecord where
  entries := Record.overlay a.entries b.entries
  keyed := by
    have hkeyed := Value.keyed_overlaid a.keyed b.keyed
    rwa [Value.overlaid_records] at hkeyed

end KeyedRecord

end ViewLayers
