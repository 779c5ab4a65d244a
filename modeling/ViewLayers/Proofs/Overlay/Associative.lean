import ViewLayers.Proofs.Overlay.Paths

/-!
# Three records laid over each other

Which two of three records are laid over each other first makes no difference, unless somewhere
the record in the middle replaces a record of the lowest and is replaced by one of the highest.
-/

namespace ViewLayers

/-- At the end of a path the lowest and the highest of three values have a record, and the one
between them something else. -/
def Value.Clash (a b c : Value) (path : List Value) : Prop :=
  (∃ r, a.at? path = some (.record r)) ∧ (∃ v, b.at? path = some v ∧ ∀ r, v ≠ .record r) ∧
    ∃ r, c.at? path = some (.record r)

theorem Value.not_clash_of_ne_record {a b c : Value} (h : ∀ r, a ≠ .record r)
    (path : List Value) : ¬ Clash a b c path := by
  rintro ⟨⟨r, hr⟩, -⟩
  cases path with
  | nil =>
    rw [at?_nil, Option.some.injEq] at hr
    exact h r hr
  | cons k path =>
    rw [at?_cons_of_ne_record h] at hr
    cases hr

theorem Value.not_clash_record_iff {r s t : Record} (hr : Entries.Distinct r) :
    (∀ path, ¬ Clash (.record r) (.record s) (.record t) path) ↔
      ∀ e ∈ r, ∀ v w, Entries.get? s e.1 = some v → Entries.get? t e.1 = some w →
        ∀ path, ¬ Clash e.2 v w path := by
  constructor
  · intro h e he v w hv hw path
    have hclash := h (e.1 :: path)
    rwa [Clash, at?_record_cons, at?_record_cons, at?_record_cons, hr.get?_eq_some_of_mem he,
      hv, hw] at hclash
  · rintro h path ⟨⟨low, hlow⟩, ⟨mid, hmid, hne⟩, high, hhigh⟩
    cases path with
    | nil =>
      rw [at?_nil, Option.some.injEq] at hmid
      exact hne s hmid.symm
    | cons k path =>
      obtain ⟨u, hu, hlow⟩ := Option.bind_eq_some_iff.1 hlow
      obtain ⟨v, hv, hmid⟩ := Option.bind_eq_some_iff.1 hmid
      obtain ⟨w, hw, hhigh⟩ := Option.bind_eq_some_iff.1 hhigh
      obtain ⟨e, he, hk, rfl⟩ := Entries.exists_mem_of_get? hu
      rw [← Entries.get?_congr _ hk] at hv hw
      exact h e he v w hv hw path ⟨⟨low, hlow⟩, ⟨mid, hmid, hne⟩, high, hhigh⟩

namespace Record

variable (a b c : Record)

theorem overlaidEntries_append :
    overlaidEntries (a ++ b) c = overlaidEntries a c ++ overlaidEntries b c := by
  induction a with
  | nil => rfl
  | cons e rest ih => exact congrArg (_ :: ·) ih

theorem news_overlaidEntries :
    news a (overlaidEntries b c) = overlaidEntries (news a b) c := by
  induction b with
  | nil => rfl
  | cons e rest ih =>
    cases h : Entries.has a e.1 with
    | true => simpa [news, overlaidEntries, List.filter_cons, h] using ih
    | false => simpa [news, overlaidEntries, List.filter_cons, h] using ih

theorem news_news : news a (news b c) = news (overlay a b) c := by
  rw [news, news, news, List.filter_filter]
  refine List.filter_congr fun e _ => ?_
  rw [has_overlay, Bool.not_or]

variable {a b c}

theorem overlay_overlay_of_overlaidEntries
    (h : overlaidEntries (overlaidEntries a b) c = overlaidEntries a (overlay b c)) :
    overlay (overlay a b) c = overlay a (overlay b c) := by
  -- The new entries come out alike in any case, so only the entries of the lowest count.
  calc overlay (overlay a b) c
      = overlaidEntries (overlaidEntries a b) c ++ overlaidEntries (news a b) c ++
          news (overlay a b) c := by rw [overlay, overlay, overlaidEntries_append]
    _ = overlaidEntries a (overlay b c) ++ (news a (overlaidEntries b c) ++ news a (news b c)) := by
        rw [h, news_overlaidEntries, news_news, List.append_assoc]
    _ = overlay a (overlay b c) := by rw [← news_append]; rfl

end Record

mutual

theorem Value.overlaid_overlaid : ∀ a b c : Value, a.Keyed → (∀ path, ¬ Value.Clash a b c path) →
    (a.overlaid b).overlaid c = a.overlaid (b.overlaid c)
  | .record r, b, c, ha, hclash => by
    obtain ⟨t, rfl⟩ | hc := c.record_or_ne_record
    · obtain ⟨s, rfl⟩ | hb := b.record_or_ne_record
      · simp only [Value.overlaid_records, Value.record.injEq]
        obtain ⟨hdistinct, hvalues⟩ := Value.keyed_record_iff.1 ha
        exact Record.overlay_overlay_of_overlaidEntries <|
          Record.overlaidEntries_overlaidEntries r s t hvalues
            ((Value.not_clash_record_iff hdistinct).1 hclash)
      · exact absurd ⟨⟨r, Value.at?_nil _⟩, ⟨b, b.at?_nil, hb⟩, t, Value.at?_nil _⟩ (hclash [])
    · rw [Value.overlaid_ne_record hc, Value.overlaid_ne_record hc, Value.overlaid_ne_record hc]
  | .null, b, c, _, _ | .bool _, b, c, _, _ | .int _, b, c, _, _ | .float _, b, c, _, _
  | .string _, b, c, _, _ | .list _, b, c, _, _ | .tagged _ _, b, c, _, _ => by
    simp only [Value.overlaid]

theorem Record.overlaidEntries_overlaidEntries : ∀ (a : List (Value × Value)) (b c : Record),
    (∀ e ∈ a, e.2.Keyed) →
    (∀ e ∈ a, ∀ v w, Entries.get? b e.1 = some v → Entries.get? c e.1 = some w →
      ∀ path, ¬ Value.Clash e.2 v w path) →
    Record.overlaidEntries (Record.overlaidEntries a b) c =
      Record.overlaidEntries a (Record.overlay b c)
  | [], _, _, _, _ => rfl
  | (k, v) :: rest, b, c, ha, hclash => by
    have hrest := Record.overlaidEntries_overlaidEntries rest b c
      (fun e he => ha e (List.mem_cons_of_mem _ he))
      (fun e he => hclash e (List.mem_cons_of_mem _ he))
    simp only [Record.overlaidEntries, Record.get?_overlay, hrest]
    cases hb : Entries.get? b k with
    | none => cases Entries.get? c k <;> rfl
    | some w =>
      cases hc : Entries.get? c k with
      | none => rfl
      | some u =>
        have hassoc := Value.overlaid_overlaid v w u (ha (k, v) List.mem_cons_self)
          (hclash (k, v) List.mem_cons_self w u hb hc)
        simp only [Value.laidOver, hassoc]

end

theorem KeyedRecord.overlay_overlay {a : KeyedRecord} {b c : Record}
    (h : ∀ path, ¬ Value.Clash (.record a.entries) (.record b) (.record c) path) :
    Record.overlay (Record.overlay a.entries b) c =
      Record.overlay a.entries (Record.overlay b c) := by
  have hassoc := Value.overlaid_overlaid _ _ _ a.keyed h
  simpa only [Value.overlaid_records, Value.record.injEq] using hassoc

end ViewLayers
