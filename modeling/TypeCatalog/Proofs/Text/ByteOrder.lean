import Mathlib.Data.String.Basic

/-!
The order of texts is the order of their bytes in UTF-8. A greater character has a greater byte
where its bytes first differ from those of a lesser one (`encoded_lt`), and so have texts
(`bytes_lt_iff`).
-/

namespace TypeCatalog.Text

/-- The bytes of a text in UTF-8. -/
def bytes (text : String) : List UInt8 := text.toUTF8.data.toList

theorem bytes_eq (text : String) : bytes text = text.toList.flatMap String.utf8EncodeChar := by
  have hencode : text.toByteArray = text.toList.utf8Encode := by
    rw [← String.toByteArray_ofList, String.ofList_toList]
  rw [bytes, String.toUTF8_eq_toByteArray, hencode, List.utf8Encode, List.toList_data_toByteArray]

theorem toNat_val_lt (c : Char) : c.val.toNat < 1114112 := by
  have hvalid := c.valid
  simp only [UInt32.isValidChar, Nat.isValidChar] at hvalid
  omega

/-- The bytes of a lesser character come before those of a greater one, whatever follows. -/
theorem encoded_lt {a b : Char} (h : a < b) (rest rest' : List UInt8) :
    String.utf8EncodeChar a ++ rest < String.utf8EncodeChar b ++ rest' := by
  have hval : a.val.toNat < b.val.toNat := UInt32.lt_iff_toNat_lt.1 (Char.lt_def.1 h)
  have hb := toNat_val_lt b
  generalize hv : a.val.toNat = v at hval
  generalize hw : b.val.toNat = w at hval hb
  -- no byte wraps around, and each one has six bits more than those before it
  have hfollow (n : Nat) : (n % 64 + 128) % 256 = n % 64 + 128 := by omega
  have hfirst : (v / 262144 % 8 + 240) % 256 = v / 262144 + 240 := by omega
  have hfirst' : (w / 262144 % 8 + 240) % 256 = w / 262144 + 240 := by omega
  have hbits : v / 262144 = v / 4096 / 64 ∧ v / 4096 = v / 64 / 64 := by omega
  have hbits' : w / 262144 = w / 4096 / 64 ∧ w / 4096 = w / 64 / 64 := by omega
  simp only [String.utf8EncodeChar, hv, hw]
  split_ifs <;>
    simp only [List.cons_append, List.nil_append, List.cons_lt_cons_iff, UInt8.lt_iff_toNat_lt,
      ← UInt8.toNat_inj, UInt8.toNat_ofNat', hfollow, hfirst, hfirst'] <;>
    omega

/-- Characters in lexicographic order have bytes in lexicographic order. -/
theorem flatMap_encoded_lt : ∀ {l l' : List Char}, l < l' →
    l.flatMap String.utf8EncodeChar < l'.flatMap String.utf8EncodeChar
  | _, [], h => absurd h (List.not_lt_nil _)
  | [], b :: rest', _ => by
    obtain ⟨x, more, hb⟩ := List.exists_cons_of_ne_nil (@String.utf8EncodeChar_ne_nil b)
    rw [List.flatMap_cons, hb]
    exact List.nil_lt_cons x _
  | a :: rest, b :: rest', h => by
    rw [List.flatMap_cons, List.flatMap_cons]
    rcases List.cons_lt_cons_iff.1 h with hab | ⟨rfl, hrest⟩
    · exact encoded_lt hab _ _
    · exact List.append_left_lt (flatMap_encoded_lt hrest)

theorem bytes_lt_of_lt {s t : String} (h : s < t) : bytes s < bytes t := by
  rw [bytes_eq, bytes_eq]
  exact flatMap_encoded_lt (String.lt_iff_toList_lt.1 h)

/-- Texts are in the order of their bytes. -/
theorem bytes_lt_iff {s t : String} : bytes s < bytes t ↔ compare s t = .lt := by
  rw [compare_lt_iff_lt]
  refine ⟨fun h => ?_, bytes_lt_of_lt⟩
  rcases lt_trichotomy s t with hst | rfl | hts
  · exact hst
  · exact absurd h (List.lt_irrefl _)
  · exact absurd h (List.lt_asymm (bytes_lt_of_lt hts))

end TypeCatalog.Text
