import Mathlib

/-!
# The order of UTF-8

The bytes of a smaller character are smaller at the first place where they differ, whatever comes
after them. So texts have the order of their UTF-8 bytes.
-/

namespace ViewLayers

def utf8Bytes (s : String) : List UInt8 := s.toUTF8.data.toList

theorem utf8Bytes_eq (s : String) : utf8Bytes s = s.toList.flatMap String.utf8EncodeChar := by
  conv_lhs => rw [← String.ofList_toList (s := s)]
  rw [utf8Bytes, String.toUTF8_eq_toByteArray, String.toByteArray_ofList, List.utf8Encode,
    List.data_toByteArray]

section Bytes

variable {x y : Nat} {xs ys : List UInt8}

theorem ofNat_cons_lt (hy : y < 256) (h : x < y) :
    UInt8.ofNat x :: xs < UInt8.ofNat y :: ys := by
  have hsize : UInt8.size = 256 := rfl
  rw [List.cons_lt_cons_iff, UInt8.lt_iff_toNat_lt, UInt8.toNat_ofNat_of_lt' (by omega),
    UInt8.toNat_ofNat_of_lt' (by omega)]
  exact .inl h

theorem ofNat_cons_lt_of_eq (hy : y < 256) (hle : x ≤ y) (h : x = y → xs < ys) :
    UInt8.ofNat x :: xs < UInt8.ofNat y :: ys := by
  -- Where the first bytes agree, the next ones decide.
  rcases Nat.lt_or_eq_of_le hle with hlt | rfl
  · exact ofNat_cons_lt hy hlt
  · exact List.cons_lt_cons_iff.2 (.inr ⟨rfl, h rfl⟩)

theorem utf8EncodeChar_append_lt {c d : Char} (h : c < d) (xs ys : List UInt8) :
    String.utf8EncodeChar c ++ xs < String.utf8EncodeChar d ++ ys := by
  have hcodes : c.val.toNat < d.val.toNat := h
  have hlast : d.val.toNat < 1114112 := by
    have hvalid := d.valid
    simp only [UInt32.isValidChar, Nat.isValidChar] at hvalid
    omega
  simp only [String.utf8EncodeChar]
  generalize c.val.toNat = v at hcodes ⊢
  generalize d.val.toNat = w at hcodes hlast ⊢
  -- A longer code has a greater first byte. In codes of one length the digits in base 64 decide.
  split_ifs <;> simp only [List.cons_append, List.nil_append]
  all_goals first
    | omega
    | exact ofNat_cons_lt (by omega) (by omega)
    | apply ofNat_cons_lt_of_eq (by omega) (by omega)
      intro hfirst
  · exact ofNat_cons_lt (by omega) (by omega)
  · apply ofNat_cons_lt_of_eq (by omega) (by omega)
    intro hsecond
    exact ofNat_cons_lt (by omega) (by omega)
  · apply ofNat_cons_lt_of_eq (by omega) (by omega)
    intro hsecond
    apply ofNat_cons_lt_of_eq (by omega) (by omega)
    intro hthird
    exact ofNat_cons_lt (by omega) (by omega)

end Bytes

theorem utf8Bytes_lt_of_lt {s t : String} (h : s < t) : utf8Bytes s < utf8Bytes t := by
  rw [String.lt_iff_toList_lt] at h
  rw [utf8Bytes_eq, utf8Bytes_eq]
  generalize s.toList = cs at h ⊢
  generalize t.toList = ds at h ⊢
  induction cs generalizing ds with
  | nil =>
    cases ds with
    | nil => exact absurd h (List.lt_irrefl [])
    | cons d ds =>
      rw [List.flatMap_nil, List.flatMap_cons]
      cases hd : String.utf8EncodeChar d with
      | nil => exact absurd hd String.utf8EncodeChar_ne_nil
      | cons b bs => exact List.nil_lt_cons _ _
  | cons c cs ih =>
    cases ds with
    | nil => exact absurd h (List.not_lt_nil _)
    | cons d ds =>
      rw [List.flatMap_cons, List.flatMap_cons]
      rcases List.cons_lt_cons_iff.1 h with hfirst | ⟨rfl, hrest⟩
      · exact utf8EncodeChar_append_lt hfirst _ _
      · exact List.append_left_lt (ih _ hrest)

theorem utf8Bytes_lt_iff {s t : String} : utf8Bytes s < utf8Bytes t ↔ s < t := by
  constructor
  · intro h
    rcases lt_trichotomy s t with hlt | rfl | hgt
    · exact hlt
    · exact absurd h (List.lt_irrefl _)
    · exact absurd (utf8Bytes_lt_of_lt hgt) (List.lt_asymm h)
  · exact utf8Bytes_lt_of_lt

end ViewLayers
