import ViewLayers.Proofs.Script.Reading

/-!
# Reading literals back

A literal is read back as its text whatever stands behind it, so two literals at the same
place are the same literal and end at the same place.
-/

namespace ViewLayers.Script

theorem decode_encode_append (s rest : List Char) :
    decode (encode s ++ rest) = some (s, rest) :=
  (reads_encode_append s rest).decode_eq

@[simp] theorem toList_literal (s : String) : (literal s).toList = encode s.toList := by
  rw [literal, String.toList_ofList]

section Append

variable {x y : String}

theorem literal_append_inj {s t : String} (h : literal s ++ x = literal t ++ y) :
    s = t ∧ x = y := by
  have hread := congrArg (fun text : String => decode text.toList) h
  simp only [String.toList_append, toList_literal, decode_encode_append, Option.some.injEq,
    Prod.mk.injEq, String.toList_inj] at hread
  exact hread

theorem literal_append_ne {c : Char} {cs : List Char} (s : String) (hc : c ≠ '\'') :
    literal s ++ x ≠ String.ofList (c :: cs) ++ y := by
  intro h
  have hlist := congrArg String.toList h
  simp only [String.toList_append, toList_literal, encode, String.toList_ofList,
    List.cons_append, List.cons.injEq] at hlist
  exact hc hlist.1.symm

theorem optionalLiteral_append_inj {s t : Option String}
    (h : optionalLiteral s ++ x = optionalLiteral t ++ y) : s = t ∧ x = y := by
  cases s with
  | none =>
    cases t with
    | none => exact ⟨rfl, (String.append_right_inj _).1 h⟩
    | some t => exact absurd h.symm (literal_append_ne t (by decide))
  | some s =>
    cases t with
    | none => exact absurd h (literal_append_ne s (by decide))
    | some t =>
      obtain ⟨hst, hxy⟩ := literal_append_inj h
      exact ⟨congrArg some hst, hxy⟩

end Append

/-- A literal starts with itself whatever follows it, with no other reading. So no two texts have
the same literal, and none has a literal that another one continues. -/
theorem reads_literal_append_iff (t r : String) :
    (∀ text rest, Reads (literal t ++ r).toList text rest ↔ text = t.toList ∧ rest = r.toList) ∧
      ∀ u : String, (literal u = literal t → u = t) ∧
        ((literal u).toList <+: (literal t).toList → u = t) := by
  refine ⟨fun text rest => ?_, fun u => ?_⟩
  · rw [String.toList_append, toList_literal]
    constructor
    · intro h
      have hread := h.decode_eq
      rw [decode_encode_append, Option.some.injEq, Prod.mk.injEq] at hread
      exact ⟨hread.1.symm, hread.2.symm⟩
    · rintro ⟨rfl, rfl⟩
      exact reads_encode_append t.toList r.toList
  · have hpre : (literal u).toList <+: (literal t).toList → u = t := by
      rintro ⟨more, hmore⟩
      have happend : literal u ++ String.ofList more = literal t ++ "" := by
        rw [← String.toList_inj, String.toList_append, String.toList_ofList, hmore,
          String.append_empty]
      exact (literal_append_inj happend).1
    exact ⟨fun h => hpre (h ▸ List.prefix_rfl), hpre⟩

end ViewLayers.Script
