/-!
# The bytes of texts

The UTF-8 bytes of a text are those of its characters, one after the other (`toList_toUTF8`).  To compare
two texts by their characters is to compare them by their bytes (`lt_iff_bytes_lt`): of two characters
the encoding of the lesser one comes first, whatever stands behind.
-/

namespace Observability

/-- The bytes from a place on, behind those that were collected. -/
theorem ByteArray.toList_loop_eq (bytes : ByteArray) (i : Nat) (collected : List UInt8) :
    ByteArray.toList.loop bytes i collected = collected.reverse ++ bytes.data.toList.drop i := by
  fun_induction ByteArray.toList.loop bytes i collected with
  | case1 i collected hlt ih =>
    have hnext : bytes.data.toList.drop i = bytes.get! i :: bytes.data.toList.drop (i + 1) := by
      simpa [ByteArray.get!, hlt] using List.drop_eq_getElem_cons (l := bytes.data.toList) (i := i) hlt
    rw [ih, hnext, List.reverse_cons, List.append_assoc, List.singleton_append]
  | case2 i collected hge =>
    have hnone : bytes.data.toList.drop i = [] :=
      List.drop_eq_nil_iff.mpr (by simpa using Nat.le_of_not_gt hge)
    rw [hnone, List.append_nil]

theorem ByteArray.toList_eq (bytes : ByteArray) : bytes.toList = bytes.data.toList := by
  rw [ByteArray.toList, ByteArray.toList_loop_eq]
  rfl

/-- The bytes of a text are those of its characters, one after the other. -/
theorem toList_toUTF8 (text : String) :
    text.toUTF8.toList = text.toList.flatMap String.utf8EncodeChar := by
  have hbytes : text.toUTF8 = (text.toList.flatMap String.utf8EncodeChar).toByteArray := by
    rw [String.toUTF8_eq_toByteArray, ← String.utf8Encode_toList, List.utf8Encode]
  rw [hbytes, ByteArray.toList_eq, List.toList_data_toByteArray]

/-! ## The order of texts -/

/-- Bytes are compared as the numbers they are. -/
theorem cons_byte_lt_cons_byte {m n : Nat} (hm : m < 256) (hn : n < 256) {bytes others : List UInt8} :
    UInt8.ofNat m :: bytes < UInt8.ofNat n :: others ↔ m < n ∨ m = n ∧ bytes < others := by
  rw [List.cons_lt_cons_iff, UInt8.lt_iff_toNat_lt, ← UInt8.toNat_inj, UInt8.toNat_ofNat',
    UInt8.toNat_ofNat', Nat.mod_eq_of_lt hm, Nat.mod_eq_of_lt hn]

/-- A code point is what the bits that its bytes carry come to. -/
theorem codePoint_eq {n : Nat} (h : n < 0x110000) :
    n = 262144 * (n / 262144 % 8) + 4096 * (n / 4096 % 64) + 64 * (n / 64 % 64) + n % 64 := by
  omega

/-- The bytes of the lesser character come first, whatever stands behind. -/
theorem utf8EncodeChar_append_lt {c d : Char} (h : c < d) (bytes others : List UInt8) :
    String.utf8EncodeChar c ++ bytes < String.utf8EncodeChar d ++ others := by
  have hlt : c.val.toNat < d.val.toNat := UInt32.lt_iff_toNat_lt.mp h
  have hmax : d.val.toNat < 0x110000 := by
    rcases d.valid with hd | hd
    · exact Nat.lt_trans hd (by decide)
    · exact hd.2
  rw [String.utf8EncodeChar, String.utf8EncodeChar]
  generalize c.val.toNat = m at *
  generalize d.val.toNat = n at *
  have hm := codePoint_eq (Nat.lt_trans hlt hmax)
  have hn := codePoint_eq hmax
  -- one case for each pair of lengths; the first byte tells other lengths apart
  repeat' split
  all_goals
    simp (disch := omega) only [List.cons_append, List.nil_append, cons_byte_lt_cons_byte]
    omega

theorem flatMap_utf8EncodeChar_lt {cs ds : List Char} (h : cs < ds) :
    cs.flatMap String.utf8EncodeChar < ds.flatMap String.utf8EncodeChar := by
  induction h with
  | @nil d ds =>
    obtain ⟨byte, bytes, hbytes⟩ := List.exists_cons_of_ne_nil (@String.utf8EncodeChar_ne_nil d)
    rw [List.flatMap_nil, List.flatMap_cons, hbytes, List.cons_append]
    exact List.nil_lt_cons byte _
  | cons _ ih =>
    rw [List.flatMap_cons, List.flatMap_cons]
    exact List.append_left_lt ih
  | rel hlt => exact utf8EncodeChar_append_lt hlt _ _

/-- **Texts are in the order of their bytes.** -/
theorem lt_iff_bytes_lt {a b : String} : a < b ↔ a.toUTF8.toList < b.toUTF8.toList := by
  rw [toList_toUTF8, toList_toUTF8, String.lt_iff]
  refine ⟨flatMap_utf8EncodeChar_lt, fun hbytes => ?_⟩
  refine Decidable.byContradiction fun hnot => ?_
  rcases List.le_iff_lt_or_eq.mp (List.not_lt.mp hnot) with hgt | heq
  · exact List.lt_asymm hbytes (flatMap_utf8EncodeChar_lt hgt)
  · exact List.lt_irrefl _ (heq ▸ hbytes)

end Observability
