import Observability.Http
import Observability.Proofs.Text.Bytes
import Observability.UniqueId

/-!
# Texts as header values

A text is a header value if its UTF-8 bytes may stand in one.  A character of one byte is that byte, so a
text of visible ASCII is always one (`HeaderValue.ofText?_isSome_of_visible`), and with it every text of
an identifier (`UniqueId.ofText?_text_isSome`).

Not every value is read back as the text it was made of: `HeaderValue.toText?_eq_some_iff` says that
this takes a text of visible ASCII, blanks and tabs (`isTextChar`).
-/

namespace Observability

/-! ## Visible characters -/

/-- Whether the character is visible ASCII. -/
def isVisible (c : Char) : Bool := 0x21 ≤ c.toNat && c.toNat ≤ 0x7E

/-- A visible character is one byte, and that byte may stand in a header. -/
theorem all_isHeaderByte_of_isVisible {c : Char} (h : isVisible c = true) :
    (String.utf8EncodeChar c).all isHeaderByte = true := by
  simp only [isVisible, Bool.and_eq_true, decide_eq_true_eq] at h
  have hsize : c.utf8Size = 1 := by
    rw [Char.utf8Size_eq_one_iff, UInt32.le_iff_toNat_le]
    exact Nat.le_trans h.2 (by decide)
  have hval : c.val.toUInt8.toNat = c.toNat := by
    rw [UInt32.toNat_toUInt8]
    exact Nat.mod_eq_of_lt (by show c.toNat < 256; omega)
  have hlow : (32 : UInt8) ≤ c.val.toUInt8 := by
    rw [UInt8.le_iff_toNat_le, hval]
    exact Nat.le_trans (by decide) h.1
  have hdelete : c.val.toUInt8 ≠ 127 := by
    intro heq
    rw [heq] at hval
    have : c.toNat = 127 := hval.symm
    omega
  rw [String.utf8EncodeChar_eq_singleton hsize, List.all_cons, List.all_nil, isHeaderByte]
  simp only [hlow, hdelete, ne_eq, not_false_eq_true, decide_true, Bool.and_true, Bool.or_true]

/-- A text of visible ASCII is a header value. -/
theorem HeaderValue.ofText?_isSome_of_visible {text : String}
    (h : ∀ c ∈ text.toList, isVisible c = true) : (HeaderValue.ofText? text).isSome = true := by
  have hall : (text.toList.flatMap String.utf8EncodeChar).all isHeaderByte = true := by
    rw [List.all_flatMap, List.all_eq_true]
    exact fun c hc => all_isHeaderByte_of_isVisible (h c hc)
  rw [ofText?, toList_toUTF8, ofBytes?, dif_pos hall]
  rfl

/-! ## Characters of ASCII -/

theorem toNat_charOfNat {n : Nat} (h : n < 0x80) : (Char.ofNat n).toNat = n := by
  have hvalid : n.isValidChar := Or.inl (Nat.lt_trans h (by decide))
  rw [Char.ofNat, dif_pos hvalid]
  rfl

theorem toNat_byteOfNat {c : Char} (h : c.toNat < 0x80) : (UInt8.ofNat c.toNat).toNat = c.toNat := by
  rw [UInt8.toNat_ofNat']
  exact Nat.mod_eq_of_lt (Nat.lt_trans h (by decide))

/-- A character of ASCII is one byte. -/
theorem utf8EncodeChar_ascii {c : Char} (h : c.toNat < 0x80) :
    String.utf8EncodeChar c = [UInt8.ofNat c.toNat] := by
  have hsize : c.utf8Size = 1 := by
    rw [Char.utf8Size_eq_one_iff, UInt32.le_iff_toNat_le]
    exact Nat.le_of_lt_succ h
  rw [String.utf8EncodeChar_eq_singleton hsize]
  rfl

/-- The bytes of a text of ASCII are the numbers of its characters. -/
theorem flatMap_utf8EncodeChar_ascii {cs : List Char} (h : ∀ c ∈ cs, c.toNat < 0x80) :
    cs.flatMap String.utf8EncodeChar = cs.map fun c => UInt8.ofNat c.toNat := by
  induction cs with
  | nil => rfl
  | cons c cs ih =>
    rw [List.flatMap_cons, utf8EncodeChar_ascii (h c List.mem_cons_self),
      ih fun other hother => h other (List.mem_cons_of_mem _ hother)]
    rfl

/-- Bytes of ASCII are the numbers of the characters that have their numbers. -/
theorem map_byteOfNat_map_charOfNat {bytes : List UInt8} (h : ∀ b ∈ bytes, b.toNat < 0x80) :
    (bytes.map fun b => Char.ofNat b.toNat).map (fun c => UInt8.ofNat c.toNat) = bytes := by
  rw [List.map_map]
  conv => rhs; rw [← List.map_id bytes]
  refine List.map_congr_left fun b hb => ?_
  simp only [Function.comp_apply, toNat_charOfNat (h b hb), UInt8.ofNat_toNat, id]

/-- Characters of ASCII are those that have the numbers of their bytes. -/
theorem map_charOfNat_map_byteOfNat {cs : List Char} (h : ∀ c ∈ cs, c.toNat < 0x80) :
    (cs.map fun c => UInt8.ofNat c.toNat).map (fun b => Char.ofNat b.toNat) = cs := by
  rw [List.map_map]
  conv => rhs; rw [← List.map_id cs]
  refine List.map_congr_left fun c hc => ?_
  simp only [Function.comp_apply, toNat_byteOfNat (h c hc), Char.ofNat_toNat, id]

/-! ## Values that are read as texts -/

/-- Whether the character is read as text when it stands in a header: visible ASCII, the blank and the
tab. -/
def isTextChar (c : Char) : Bool := c = '\t' || (0x20 ≤ c.toNat && c.toNat ≤ 0x7E)

theorem isTextChar_of_isVisible {c : Char} (h : isVisible c = true) : isTextChar c = true := by
  simp only [isVisible, isTextChar, Bool.and_eq_true, Bool.or_eq_true, decide_eq_true_eq] at h ⊢
  omega

theorem lt_of_isTextChar {c : Char} (h : isTextChar c = true) : c.toNat < 0x80 := by
  simp only [isTextChar, Bool.or_eq_true, Bool.and_eq_true, decide_eq_true_eq] at h
  rcases h with rfl | ⟨-, hle⟩
  · decide
  · omega

/-- A byte is read as text exactly if the character of its number is. -/
theorem isTextByte_byteOfNat {c : Char} (h : c.toNat < 0x80) :
    HeaderValue.isTextByte (UInt8.ofNat c.toNat) = isTextChar c := by
  have htab : UInt8.ofNat c.toNat = 9 ↔ c = '\t' := by
    rw [← UInt8.toNat_inj, toNat_byteOfNat h, ← Char.toNat_inj]
    rfl
  simp only [HeaderValue.isTextByte, isTextChar, htab, UInt8.le_iff_toNat_le, toNat_byteOfNat h]
  rfl

namespace HeaderValue

theorem lt_of_isTextByte {b : UInt8} (h : isTextByte b = true) : b.toNat < 0x80 := by
  simp only [isTextByte, Bool.or_eq_true, Bool.and_eq_true, decide_eq_true_eq,
    UInt8.le_iff_toNat_le] at h
  rcases h with rfl | ⟨-, hle⟩
  · decide
  · exact Nat.lt_of_le_of_lt hle (by decide)

theorem isTextChar_charOfNat {b : UInt8} (h : isTextByte b = true) :
    isTextChar (Char.ofNat b.toNat) = true := by
  have hnat := toNat_charOfNat (lt_of_isTextByte h)
  rw [← isTextByte_byteOfNat (by rw [hnat]; exact lt_of_isTextByte h), hnat, UInt8.ofNat_toNat]
  exact h

/-- A text makes the value that has its bytes. -/
theorem ofText?_eq_some_iff {text : String} {value : HeaderValue} :
    ofText? text = some value ↔ value.bytes = text.toUTF8.toList := by
  obtain ⟨bytes, valid⟩ := value
  unfold ofText? ofBytes?
  constructor
  · intro h
    split at h
    · exact (congrArg HeaderValue.bytes (Option.some.inj h)).symm
    · cases h
  · intro h
    subst h
    rw [dif_pos valid]

/-- A value is made of one text only. -/
theorem ofText?_inj {text other : String} {value : HeaderValue} (h : ofText? text = some value)
    (hother : ofText? other = some value) : text = other := by
  have hbytes := (ofText?_eq_some_iff.mp h).symm.trans (ofText?_eq_some_iff.mp hother)
  rw [ByteArray.toList_eq, ByteArray.toList_eq, String.toUTF8_eq_toByteArray,
    String.toUTF8_eq_toByteArray] at hbytes
  exact String.toByteArray_inj.mp (ByteArray.ext (Array.ext' hbytes))

/-- **Values and their texts.**  A value is read as the text that it was made of, and as no other; but it
is read only if that text holds visible ASCII, blanks and tabs alone. -/
theorem toText?_eq_some_iff {value : HeaderValue} {text : String} :
    value.toText? = some text ↔
      ofText? text = some value ∧ ∀ c ∈ text.toList, isTextChar c = true := by
  rw [ofText?_eq_some_iff, toList_toUTF8]
  constructor
  · intro h
    unfold toText? at h
    split at h
    · next hall =>
      obtain rfl := Option.some.inj h
      rw [List.all_eq_true] at hall
      have hchars : ∀ c ∈ value.bytes.map fun b => Char.ofNat b.toNat, isTextChar c = true := by
        intro c hc
        obtain ⟨b, hb, rfl⟩ := List.mem_map.mp hc
        exact isTextChar_charOfNat (hall b hb)
      rw [String.toList_ofList]
      refine ⟨?_, hchars⟩
      rw [flatMap_utf8EncodeChar_ascii fun c hc => lt_of_isTextChar (hchars c hc),
        map_byteOfNat_map_charOfNat fun b hb => lt_of_isTextByte (hall b hb)]
    · cases h
  · rintro ⟨hbytes, hchars⟩
    have hascii : ∀ c ∈ text.toList, c.toNat < 0x80 := fun c hc => lt_of_isTextChar (hchars c hc)
    rw [flatMap_utf8EncodeChar_ascii hascii] at hbytes
    have hall : value.bytes.all isTextByte = true := by
      rw [hbytes, List.all_map, List.all_eq_true]
      intro c hc
      exact (isTextByte_byteOfNat (hascii c hc)).trans (hchars c hc)
    rw [toText?, if_pos hall, hbytes, map_charOfNat_map_byteOfNat hascii, String.ofList_toList]

end HeaderValue

namespace UniqueId

theorem isVisible_of_mem_hexDigits {count n : Nat} {c : Char} (h : c ∈ Text.hexDigits count n) :
    isVisible c = true := by
  have hdigit : ∀ d : Fin 16, isVisible (Text.hexDigit d.val) = true := by decide
  induction count generalizing n with
  | zero => cases h
  | succ count ih =>
    rcases List.mem_append.mp h with hfront | hlast
    · exact ih hfront
    · rw [List.mem_singleton.mp hlast]
      exact hdigit ⟨n % 16, Nat.mod_lt n (by decide)⟩

/-- Identifiers are made of hexadecimal digits and hyphens. -/
theorem isVisible_of_mem_text {salt n : Nat} {c : Char} (h : c ∈ (text salt n).toList) :
    isVisible c = true := by
  simp only [text, stem, String.toList_ofList, List.mem_append, List.mem_cons, List.not_mem_nil,
    or_false] at h
  rcases h with ((((hdigit | rfl | hdigit) | rfl | rfl | hdigit) | rfl | rfl | hdigit) | rfl) | hdigit
  all_goals first
    | exact isVisible_of_mem_hexDigits hdigit
    | decide

/-- An identifier can stand in a header. -/
theorem ofText?_text_isSome (salt n : Nat) : (HeaderValue.ofText? (text salt n)).isSome = true :=
  HeaderValue.ofText?_isSome_of_visible fun _ => isVisible_of_mem_text

end UniqueId

end Observability
