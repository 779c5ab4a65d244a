import ViewLayers.Proofs.Value.Paths
import ViewLayers.Yaml.Reader

/-!
# Keys of records that are read

The reader refuses a mapping with a key that came before, however it is spelled, so every record
that is read has distinct keys, and so has every record in it.
-/

namespace ViewLayers.Yaml

section Builder

variable {α β : Type} {left rest : Nat}

theorem exists_of_bind_eq_ok {x : Except Fault α} {f : α → Except Fault β} {b : β}
    (h : (x >>= f) = .ok b) : ∃ a, x = .ok a ∧ f a = .ok b := by
  cases x with
  | error e => cases h
  | ok a => exact ⟨a, rfl, h⟩

theorem exists_run_of_bind_run {x : Builder α} {f : α → Builder β} {b : β}
    (h : (x >>= f).run left = .ok (b, rest)) :
    ∃ a between, x.run left = .ok (a, between) ∧ (f a).run between = .ok (b, rest) := by
  rw [StateT.run_bind] at h
  obtain ⟨p, hx, hf⟩ := exists_of_bind_eq_ok h
  exact ⟨p.1, p.2, hx, hf⟩

theorem eq_ok_of_lift_run {x : Except Fault α} {a : α}
    (h : (liftM x : Builder α).run left = .ok (a, rest)) : x = .ok a := by
  cases x with
  | error e => cases h
  | ok b =>
    cases h
    rfl

theorem eq_of_pure_run {a b : α} (h : (pure a : Builder α).run left = .ok (b, rest)) : a = b := by
  rw [StateT.run_pure] at h
  exact congrArg Prod.fst (Except.ok.inj h)

end Builder

section Scalars

variable {text : List Char} {v : Value}

theorem ne_record_of_plainOrText {plain : Bool} (h : plainOrText plain text = .ok v) (r : Record) :
    v ≠ .record r := by
  rintro rfl
  rw [plainOrText] at h
  split at h
  · cases hm : Meaning.ofPlain text <;> rw [hm] at h <;> cases h
  · cases h

theorem ne_record_of_typedScalar? {tag : List Char}
    (h : typedScalar? tag text = some (.ok v)) (r : Record) : v ≠ .record r := by
  rintro rfl
  rw [typedScalar?] at h
  split at h
  · split at h <;> cases h
  split at h
  · split at h <;> cases h
  split at h
  · split at h <;> cases h
  split at h
  · split at h <;> cases h
  · cases h

theorem ne_record_of_scalarValue {tag : Option (List Char)} {plain : Bool}
    (h : scalarValue tag plain text = .ok v) (r : Record) : v ≠ .record r := by
  unfold scalarValue at h
  split at h
  · exact ne_record_of_plainOrText h r
  · exact ne_record_of_plainOrText h r
  · rename_i tag _
    cases htyped : typedScalar? tag text with
    | none =>
      rw [htyped, Option.getD_none, Except.ok.injEq] at h
      subst h
      exact Value.noConfusion
    | some typed =>
      rw [htyped, Option.getD_some] at h
      exact ne_record_of_typedScalar? (h ▸ htyped) r

end Scalars

theorem keyed_of_buildEntries {build : Node → Builder Value} {entries : List (Node × Node)}
    {done r : Record} {left rest : Nat}
    (hbuild : ∀ {n v left rest}, (build n).run left = .ok (v, rest) → v.Keyed)
    (hdone : done.Keyed) (h : (buildEntries build done entries).run left = .ok (r, rest)) :
    r.Keyed := by
  induction entries generalizing done left with
  | nil =>
    cases h
    exact hdone
  | cons e more ih =>
    rw [buildEntries] at h
    obtain ⟨key, between, -, h⟩ := exists_run_of_bind_run h
    cases hkey : Entries.has done key with
    | true =>
      rw [hkey, if_pos rfl] at h
      cases h
    | false =>
      rw [hkey, if_neg Bool.false_ne_true] at h
      obtain ⟨value, after, hvalue, h⟩ := exists_run_of_bind_run h
      have hnone : Entries.get? done key = none := by
        simpa [Entries.has_eq_isSome_get?] using hkey
      obtain ⟨hdistinct, hvalues⟩ := Value.keyed_record_iff.1 hdone
      refine ih (Value.keyed_record_iff.2 ⟨?_, fun f hf => ?_⟩) h
      · rw [← Entries.put_of_get?_eq_none value hnone]
        exact hdistinct.put key value
      · rcases List.mem_append.1 hf with hbefore | hlast
        · exact hvalues f hbefore
        · rw [List.mem_singleton.1 hlast]
          exact hbuild hvalue

theorem keyed_tagWith {tag : Option (List Char)} {v : Value} (h : v.Keyed) :
    (tagWith tag v).Keyed := by
  rw [tagWith]
  split
  · exact Value.keyed_of_ne_record fun _ => Value.noConfusion
  · exact h

theorem keyed_of_build {d : Document} {depth : Nat} {n : Node} {v : Value} {left rest : Nat}
    (h : (build d depth n).run left = .ok (v, rest)) : v.Keyed := by
  -- At any depth a scalar is read in the same way, and never as a record.
  have hscalar : ∀ {tag : Option (List Char)} {plain : Bool} {text : List Char} {v : Value}
      {left rest : Nat}, (do return tagWith tag (← scalarValue tag plain text) :
        Builder Value).run left = .ok (v, rest) → v.Keyed := by
    intro tag plain text v left rest hrun
    obtain ⟨scalar, between, hlift, hreturn⟩ := exists_run_of_bind_run hrun
    rw [← eq_of_pure_run hreturn]
    exact keyed_tagWith <| Value.keyed_of_ne_record <|
      ne_record_of_scalarValue (eq_ok_of_lift_run hlift)
  induction depth generalizing n v left rest with
  | zero =>
    rw [build] at h
    obtain ⟨node, between, -, h⟩ := exists_run_of_bind_run h
    split at h
    · exact hscalar h
    · cases h
  | succ depth ih =>
    rw [build] at h
    obtain ⟨node, between, -, h⟩ := exists_run_of_bind_run h
    split at h
    · exact hscalar h
    · obtain ⟨items, after, -, hreturn⟩ := exists_run_of_bind_run h
      rw [← eq_of_pure_run hreturn]
      exact keyed_tagWith (Value.keyed_of_ne_record fun _ => Value.noConfusion)
    · obtain ⟨entries, after, hentries, hreturn⟩ := exists_run_of_bind_run h
      have hempty : (Value.record []).Keyed := Value.keyed_of_flat List.Pairwise.nil nofun
      rw [← eq_of_pure_run hreturn]
      exact keyed_tagWith (keyed_of_buildEntries ih hempty hentries)
    · cases h

theorem keyed_of_read {s : String} {v : Value} (h : read s = .ok v) : v.Keyed := by
  rw [read] at h
  obtain ⟨tokens, -, h⟩ := exists_of_bind_eq_ok h
  obtain ⟨d, -, h⟩ := exists_of_bind_eq_ok h
  rw [Document.toValue, StateT.run'_eq] at h
  cases hrun : (build d greatestDepth d.root).run (aliasesPerEvent * d.root.eventCount) with
  | error e =>
    rw [hrun] at h
    cases h
  | ok p =>
    rw [hrun] at h
    cases h
    exact keyed_of_build hrun

end ViewLayers.Yaml
