import PairChat.Web.Percent
import Mathlib.Tactic.SplitIfs

/-!
# Encodings read back

The bytes of a text in UTF-8 are read as the text (`Text.lossy_utf8`): a character is one to four
bytes, the first of which says how many follow and in which range the next of them lies.

A segment of a path is written byte by byte, each as itself or as an escape, and neither form is the
beginning of another byte's.  So the segment is read as the text it was written for
(`Web.Percent.read_encode`), and no two texts have one segment.
-/

namespace PairChat

namespace Text

/-! ### Characters in UTF-8 -/

/-- A byte that continues a character, by the number whose last six binary digits it holds. -/
def trail (v : Nat) : UInt8 := UInt8.ofNat (v % 64 + 128)

theorem toNat_trail (v : Nat) : (trail v).toNat = v % 64 + 128 := by
  unfold trail
  rw [UInt8.toNat_ofNat']
  omega

section Trail
variable (bs : List UInt8) {v low high : Nat}

theorem lossyFrom_trail_more (hlow : low ≤ v % 64 + 128) (hhigh : v % 64 + 128 ≤ high)
    (more : Nat) :
    lossyFrom (some ⟨v / 64, low, high, more + 1⟩) (trail v :: bs) =
      lossyFrom (some { value := v, more }) bs := by
  have hvalue : v / 64 * 64 + (v % 64 + 128 - 0x80) = v := by omega
  simp only [lossyFrom, toNat_trail, hlow, hhigh, and_self, if_true, hvalue]
  rfl

theorem lossyFrom_trail_last (hlow : low ≤ v % 64 + 128) (hhigh : v % 64 + 128 ≤ high) :
    lossyFrom (some ⟨v / 64, low, high, 0⟩) (trail v :: bs) =
      Char.ofNat v :: lossyFrom none bs := by
  have hvalue : v / 64 * 64 + (v % 64 + 128 - 0x80) = v := by omega
  simp only [lossyFrom, toNat_trail, hlow, hhigh, and_self, if_true, hvalue]

end Trail

/-- The first of two bytes. -/
theorem lossyByte_lead_two {v : Nat} (hv : 0x80 ≤ v) (hv' : v < 0x800) :
    lossyByte (v / 64 % 32 + 192) = (some { value := v / 64 }, []) := by
  have hbegin : begin? (v / 64 % 32 + 192) = some { value := v / 64 } := by
    unfold begin?
    rw [if_pos (by omega), show v / 64 % 32 + 192 - 0xC0 = v / 64 by omega]
  simp only [lossyByte, hbegin, if_neg (show ¬v / 64 % 32 + 192 < 0x80 by omega)]

/-- The first of three bytes. The range of the second one leaves out what two bytes write, and the
halves of pairs. -/
theorem lossyByte_lead_three {v : Nat} (hv : 0x800 ≤ v) (hv' : v < 0x10000)
    (hhalf : v < 0xD800 ∨ 0xDFFF < v) :
    ∃ low high, lossyByte (v / 4096 % 16 + 224) = (some ⟨v / 64 / 64, low, high, 1⟩, []) ∧
      low ≤ v / 64 % 64 + 128 ∧ v / 64 % 64 + 128 ≤ high := by
  obtain h | h | h : v / 4096 = 0 ∨ v / 4096 = 0xD ∨ v / 4096 ≠ 0 ∧ v / 4096 ≠ 0xD := by omega
  · have hvalue : v / 64 / 64 = 0 := by omega
    refine ⟨0xA0, 0xBF, ?_, by omega, by omega⟩
    rw [h, hvalue]
    rfl
  · have hvalue : v / 64 / 64 = 0xD := by omega
    refine ⟨0x80, 0x9F, ?_, by omega, by omega⟩
    rw [h, hvalue]
    rfl
  · have hbegin : begin? (v / 4096 % 16 + 224) = some { value := v / 64 / 64, more := 1 } := by
      unfold begin?
      rw [if_neg (by omega), if_neg (by omega), if_neg (by omega), if_pos (by omega),
        show v / 4096 % 16 + 224 - 0xE0 = v / 64 / 64 by omega]
    refine ⟨0x80, 0xBF, ?_, by omega, by omega⟩
    simp only [lossyByte, hbegin, if_neg (show ¬v / 4096 % 16 + 224 < 0x80 by omega)]

/-- The first of four bytes. The range of the second one leaves out what three bytes write, and the
numbers beyond the last character. -/
theorem lossyByte_lead_four {v : Nat} (hv : 0x10000 ≤ v) (hv' : v < 0x110000) :
    ∃ low high, lossyByte (v / 262144 % 8 + 240) = (some ⟨v / 64 / 64 / 64, low, high, 2⟩, []) ∧
      low ≤ v / 64 / 64 % 64 + 128 ∧ v / 64 / 64 % 64 + 128 ≤ high := by
  obtain h | h | h : v / 262144 = 0 ∨ v / 262144 = 4 ∨ v / 262144 ≠ 0 ∧ v / 262144 < 4 := by omega
  · have hvalue : v / 64 / 64 / 64 = 0 := by omega
    refine ⟨0x90, 0xBF, ?_, by omega, by omega⟩
    rw [h, hvalue]
    rfl
  · have hvalue : v / 64 / 64 / 64 = 4 := by omega
    refine ⟨0x80, 0x8F, ?_, by omega, by omega⟩
    rw [h, hvalue]
    rfl
  · have hbegin :
        begin? (v / 262144 % 8 + 240) = some { value := v / 64 / 64 / 64, more := 2 } := by
      unfold begin?
      rw [if_neg (by omega), if_neg (by omega), if_neg (by omega), if_neg (by omega),
        if_neg (by omega), if_pos (by omega),
        show v / 262144 % 8 + 240 - 0xF0 = v / 64 / 64 / 64 by omega]
    refine ⟨0x80, 0xBF, ?_, by omega, by omega⟩
    simp only [lossyByte, hbegin, if_neg (show ¬v / 262144 % 8 + 240 < 0x80 by omega)]

theorem lossyFrom_lead {b : Nat} {begun : Begun} (hb : b < 256)
    (h : lossyByte b = (some begun, [])) (bs : List UInt8) :
    lossyFrom none (UInt8.ofNat b :: bs) = lossyFrom (some begun) bs := by
  have hnat : (UInt8.ofNat b).toNat = b := by
    rw [UInt8.toNat_ofNat']
    exact Nat.mod_eq_of_lt hb
  simp only [lossyFrom, hnat, h, List.nil_append]

/-- **A character is read back from its bytes.** -/
theorem lossyFrom_utf8EncodeChar (c : Char) (bs : List UInt8) :
    lossyFrom none (String.utf8EncodeChar c ++ bs) = c :: lossyFrom none bs := by
  have hc : Char.ofNat c.val.toNat = c := Char.ofNat_toNat c
  have hvalid : c.val.toNat < 0xD800 ∨ 0xDFFF < c.val.toNat ∧ c.val.toNat < 0x110000 := c.valid
  unfold String.utf8EncodeChar
  generalize c.val.toNat = v at hc hvalid ⊢
  subst hc
  dsimp only
  rw [show v / 4096 % 64 = v / 64 / 64 % 64 by omega]
  split_ifs with hone htwo hthree
  · have hnat : (UInt8.ofNat v).toNat = v := by
      rw [UInt8.toNat_ofNat']
      omega
    simp [lossyFrom, lossyByte, hnat, show v < 0x80 by omega]
  · have hlead := lossyByte_lead_two (v := v) (by omega) (by omega)
    exact (lossyFrom_lead (by omega) hlead _).trans
      (lossyFrom_trail_last bs (by omega) (by omega))
  · obtain ⟨low, high, hlead, hlow, hhigh⟩ :=
      lossyByte_lead_three (v := v) (by omega) (by omega) (by omega)
    exact (lossyFrom_lead (by omega) hlead _).trans <|
      (lossyFrom_trail_more _ hlow hhigh 0).trans
        (lossyFrom_trail_last bs (by omega) (by omega))
  · obtain ⟨low, high, hlead, hlow, hhigh⟩ := lossyByte_lead_four (v := v) (by omega) (by omega)
    exact (lossyFrom_lead (by omega) hlead _).trans <|
      (lossyFrom_trail_more _ hlow hhigh 1).trans <|
        (lossyFrom_trail_more _ (by omega) (by omega) 0).trans
          (lossyFrom_trail_last bs (by omega) (by omega))

/-- **A text is read back from its bytes.** -/
theorem lossy_utf8 (cs : List Char) : lossy (utf8 cs) = cs := by
  induction cs with
  | nil => rfl
  | cons c cs ih =>
    calc lossy (utf8 (c :: cs))
        = lossyFrom none (String.utf8EncodeChar c ++ utf8 cs) := rfl
      _ = c :: lossy (utf8 cs) := lossyFrom_utf8EncodeChar c _
      _ = c :: cs := by rw [ih]

end Text

namespace Web.Percent

/-! ### Bytes in a segment -/

theorem hexValue?_hexDigit : ∀ n < 16, hexValue? (hexDigit n) = some n := by decide

/-- What is seen of the 256 bytes holds of every byte. -/
theorem forall_byte {P : UInt8 → Prop} (h : ∀ n < 256, P (UInt8.ofNat n)) (b : UInt8) : P b := by
  have hb := h b.toNat b.toNat_lt_size
  rwa [UInt8.ofNat_toNat] at hb

theorem utf8EncodeChar_of_isUnreserved : ∀ b : UInt8, isUnreserved b →
    String.utf8EncodeChar (Char.ofNat b.toNat) = [b] ∧ Char.ofNat b.toNat ≠ '%' :=
  forall_byte (by decide +kernel)

/-- A byte is written without the characters that end a segment. -/
theorem not_mem_encodeByte : ∀ b : UInt8,
    '/' ∉ encodeByte b ∧ '?' ∉ encodeByte b ∧ '#' ∉ encodeByte b :=
  forall_byte (by decide +kernel)

theorem bytesOf_cons {c : Char} (hc : c ≠ '%') (cs : List Char) :
    bytesOf (c :: cs) = String.utf8EncodeChar c ++ bytesOf cs := by
  rw [bytesOf]
  intro _ _ _ h
  exact absurd h hc

theorem bytesOf_escape (b : UInt8) (cs : List Char) :
    bytesOf (escape b ++ cs) = b :: bytesOf cs := by
  have hb : b.toNat < 256 := b.toNat_lt_size
  have hhigh := hexValue?_hexDigit (b.toNat / 16) (by omega)
  have hlow := hexValue?_hexDigit (b.toNat % 16) (by omega)
  have hbyte : b.toNat / 16 * 16 + b.toNat % 16 = b.toNat := by omega
  simp only [escape, List.cons_append, List.nil_append, bytesOf, hhigh, hlow, hbyte,
    UInt8.ofNat_toNat]

/-- **A byte is read back from what is written for it.** -/
theorem bytesOf_encodeByte (b : UInt8) (cs : List Char) :
    bytesOf (encodeByte b ++ cs) = b :: bytesOf cs := by
  unfold encodeByte
  split_ifs with h
  · obtain ⟨hbytes, hpercent⟩ := utf8EncodeChar_of_isUnreserved b h
    rw [List.singleton_append, bytesOf_cons hpercent, hbytes, List.singleton_append]
  · exact bytesOf_escape b cs

theorem bytesOf_flatMap_encodeByte (bs : List UInt8) : bytesOf (bs.flatMap encodeByte) = bs := by
  induction bs with
  | nil => rfl
  | cons b bs ih => rw [List.flatMap_cons, bytesOf_encodeByte, ih]

/-! ### Texts in a segment -/

/-- **A text is read back from its segment.** -/
theorem read_encode (s : String) : read (encode s).toList = s.toList := by
  rw [read, encode, String.toList_ofList, bytesOf_flatMap_encodeByte, Text.lossy_utf8]

theorem encode_inj {s t : String} : encode s = encode t ↔ s = t := by
  constructor
  · intro e
    apply String.toList_inj.mp
    rw [← read_encode s, e, read_encode]
  · rintro rfl
    rfl

/-- A segment does not end before its text does. -/
theorem not_mem_encode (s : String) :
    '/' ∉ (encode s).toList ∧ '?' ∉ (encode s).toList ∧ '#' ∉ (encode s).toList := by
  simp only [encode, String.toList_ofList, List.mem_flatMap, not_exists, not_and]
  exact ⟨fun b _ => (not_mem_encodeByte b).1, fun b _ => (not_mem_encodeByte b).2.1,
    fun b _ => (not_mem_encodeByte b).2.2⟩

end Web.Percent

end PairChat
