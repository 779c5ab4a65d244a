import ViewLayers.Proofs.Overlay
import ViewLayers.Proofs.Value.Paths

/-!
# Overlays along paths

What an overlay has at the end of a path depends on what the two sides have there, and on whether
the upper side lets the path pass at all.
-/

namespace ViewLayers

namespace Value

section Overlaid

variable {path : List Value}

theorem at?_overlaid (v w : Value) (h : ¬ w.Blocks path) :
    (v.overlaid w).at? path = laidOver (v.at? path) (w.at? path) := by
  induction path generalizing v w with
  | nil => rw [at?_nil, at?_nil, at?_nil, laidOver]
  | cons k path ih =>
    obtain ⟨s, rfl⟩ | hw := w.record_or_ne_record
    · obtain ⟨r, rfl⟩ | hv := v.record_or_ne_record
      · rw [overlaid_records, at?_record_cons, at?_record_cons, at?_record_cons,
          Record.get?_overlay]
        cases hs : Entries.get? s k with
        | none => rw [laidOver_none, Option.bind_none, laidOver_none]
        | some above =>
          have habove : ¬ above.Blocks path :=
            fun hb => h (blocks_record_cons_iff.2 ⟨above, hs, hb⟩)
          cases Entries.get? r k with
          | none => rw [none_laidOver, Option.bind_none, none_laidOver]
          | some below => exact ih below above habove
      · rw [overlaid_of_ne_record hv, at?_cons_of_ne_record hv, none_laidOver]
    · exact absurd (blocks_cons_of_ne_record hw k path) h

theorem at?_overlaid_of_blocks (v w : Value) (h : w.Blocks path) :
    (v.overlaid w).at? path = none := by
  induction path generalizing v w with
  | nil => exact absurd h (not_blocks_nil w)
  | cons k path ih =>
    obtain ⟨s, rfl⟩ | hw := w.record_or_ne_record
    · obtain ⟨r, rfl⟩ | hv := v.record_or_ne_record
      · obtain ⟨above, hs, hb⟩ := blocks_record_cons_iff.1 h
        rw [overlaid_records, at?_record_cons, Record.get?_overlay, hs]
        cases Entries.get? r k with
        | none => exact at?_eq_none_of_blocks hb
        | some below => exact ih below above hb
      · rw [overlaid_of_ne_record hv]
        exact at?_eq_none_of_blocks h
    · rw [overlaid_ne_record hw, at?_cons_of_ne_record hw]

end Overlaid

theorem keyed_overlaid {v w : Value} (hv : v.Keyed) (hw : w.Keyed) : (v.overlaid w).Keyed := by
  intro path r hr
  by_cases hblocks : w.Blocks path
  · rw [at?_overlaid_of_blocks v w hblocks] at hr
    cases hr
  rw [at?_overlaid v w hblocks] at hr
  cases hbelow : v.at? path with
  | none =>
    rw [hbelow, none_laidOver] at hr
    exact hw path r hr
  | some below =>
    cases habove : w.at? path with
    | none =>
      rw [habove, laidOver_none] at hr
      exact hv path r hr
    | some above =>
      rw [hbelow, habove, laidOver, Option.some.injEq] at hr
      obtain heq | ⟨s, t, rfl, rfl⟩ := below.overlaid_eq_or_records above
      · rw [heq] at hr
        exact hw path r (hr ▸ habove)
      · rw [overlaid_records, record.injEq] at hr
        rw [← hr]
        exact Record.distinct_overlay (hv path s hbelow) (hw path t habove)

end Value

namespace Record

/-- At the end of a path two records are laid over each other, anything else that the upper side
has there stands, and what only the lower side has is kept unless the upper side blocks the path.
The keys of the lower record come first, then the new ones of the upper record. -/
theorem at?_overlay (lower higher : KeyedRecord) (path : List Value) :
    let base := lower.entries
    let upper := higher.entries
    (∀ r s : Record, base.at? path = some (.record r) → upper.at? path = some (.record s) →
      (overlay base upper).at? path = some (.record (overlay r s)) ∧
        Entries.keys (overlay r s) =
          Entries.keys r ++ (Entries.keys s).filter (fun k => !Entries.has r k) ∧
        Entries.Distinct (overlay r s)) ∧
      (∀ w, upper.at? path = some w →
        (∀ r s : Record, base.at? path = some (.record r) → w ≠ .record s) →
          (overlay base upper).at? path = some w) ∧
      (upper.at? path = none → upper.Blocks path → (overlay base upper).at? path = none) ∧
      (upper.at? path = none → ¬ upper.Blocks path →
        (overlay base upper).at? path = base.at? path) := by
  intro base upper
  have hpass : ¬ upper.Blocks path →
      (overlay base upper).at? path = Value.laidOver (base.at? path) (upper.at? path) := by
    intro h
    rw [at?, ← Value.overlaid_records]
    exact Value.at?_overlaid _ _ fun hb => h (blocks_iff.2 hb)
  have hopen : ∀ {w : Value}, upper.at? path = some w → ¬ upper.Blocks path :=
    fun hw h => Value.not_blocks_of_at? hw (blocks_iff.1 h)
  refine ⟨fun r s hr hs => ⟨?_, keys_overlay r s, ?_⟩, fun w hw hne => ?_, fun _ h => ?_,
    fun hnone h => ?_⟩
  · rw [hpass (hopen hs), hr, hs, Value.laidOver, Value.overlaid_records]
  · exact distinct_overlay (lower.keyed path r hr) (higher.keyed path s hs)
  · rw [hpass (hopen hw), hw]
    cases hbase : base.at? path with
    | none => exact Value.none_laidOver _
    | some v =>
      rw [Value.laidOver]
      obtain heq | ⟨r, s, rfl, rfl⟩ := v.overlaid_eq_or_records w
      · rw [heq]
      · exact absurd rfl (hne r s hbase)
  · rw [at?, ← Value.overlaid_records]
    exact Value.at?_overlaid_of_blocks _ _ (blocks_iff.1 h)
  · rw [hpass h, hnone, Value.laidOver_none]

def gridStep : Record := [(.string "step", .int 5)]

def originTick : Record := [(.string "tick", .int 2), (.string "label", .string "origin")]

def originMark : Record := [(.string "mark", .bool true), (.string "tick", .null)]

def scaleBase : Record :=
  [(.string "grid", .record gridStep), (.float .zero, .record originTick),
    (.int 1, .string "one")]

def scaleOver : Record :=
  [(.string "1", .int 1), (.string "grid", .null),
    (.float (.ofMagnitude true 0), .record originMark)]

theorem at?_overlay_scale :
    scaleBase.Keyed ∧ scaleOver.Keyed ∧
      (overlay scaleBase scaleOver).at? [.float (.ofMagnitude true 0)] =
        some (.record [(.string "tick", .null), (.string "label", .string "origin"),
          (.string "mark", .bool true)]) ∧
      (overlay scaleBase scaleOver).at? [.string "grid"] = some .null ∧
      (overlay scaleBase scaleOver).at? [.string "grid", .string "step"] = none ∧
      (overlay scaleBase scaleOver).at? [.int 1] = some (.string "one") := by
  have hgrid : (Value.record gridStep).Keyed :=
    Value.keyed_of_flat (by decide +kernel) (by simp [gridStep])
  have htick : (Value.record originTick).Keyed :=
    Value.keyed_of_flat (by decide +kernel) (by simp [originTick])
  have hmark : (Value.record originMark).Keyed :=
    Value.keyed_of_flat (by decide +kernel) (by simp [originMark])
  have hbase : scaleBase.Keyed :=
    Value.keyed_record_iff.2
      ⟨by decide +kernel, by simp [scaleBase, hgrid, htick]⟩
  have hover : scaleOver.Keyed :=
    Value.keyed_record_iff.2
      ⟨by decide +kernel, by simp [scaleOver, hmark]⟩
  have hblocks : scaleOver.Blocks [.string "grid", .string "step"] :=
    ⟨[.string "grid"], [.string "step"], rfl, List.cons_ne_nil _ _, List.cons_ne_nil _ _, .null,
      by decide +kernel, fun _ => Value.noConfusion⟩
  have hopen : ¬ scaleOver.Blocks [.int 1] := by
    rw [blocks_iff, Value.blocks_record_cons_iff]
    rintro ⟨v, -, hv⟩
    exact v.not_blocks_nil hv
  have hlaw := at?_overlay ⟨scaleBase, hbase⟩ ⟨scaleOver, hover⟩
  dsimp only at hlaw
  refine ⟨hbase, hover, ?_, ?_, ?_, ?_⟩
  · rw [((hlaw [.float (.ofMagnitude true 0)]).1 originTick originMark
      (by decide +kernel) (by decide +kernel)).1]
    decide +kernel
  · exact (hlaw _).2.1 .null (by decide +kernel) fun _ _ _ => Value.noConfusion
  · exact (hlaw _).2.2.1 (by decide +kernel) hblocks
  · rw [(hlaw _).2.2.2 (by decide +kernel) hopen]
    decide +kernel

end Record

end ViewLayers
