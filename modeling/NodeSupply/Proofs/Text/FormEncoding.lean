import NodeSupply.Proofs.Text
import NodeSupply.Text.FormEncoding
import NodeSupply.Text.Hex

/-! Reading a form back. What is encoded is found again, byte by byte, and no separator of a form or of an
address occurs in it. -/

namespace NodeSupply.Text

/-- The bytes that a form stands for, if every percent sign is followed by two digits. -/
def decodeForm? : List Char → Option (List UInt8)
  | [] => some []
  | c :: rest =>
    if c = '%' then
      match rest with
      | high :: low :: behind =>
        match hexValue? high, hexValue? low, decodeForm? behind with
        | some h, some l, some bytes => some (UInt8.ofNat (16 * h + l) :: bytes)
        | _, _, _ => none
      | _ => none
    else (decodeForm? rest).map (UInt8.ofNat (if c = '+' then 32 else c.toNat) :: ·)

/-- The text that a form stands for. -/
def formText? (form : List Char) : Option String :=
  (decodeForm? form).bind fun bytes => String.fromUTF8? bytes.toByteArray

/-- The characters of which forms consist. None of them separates the parts of an address or a query. -/
def isFormChar (c : Char) : Bool :=
  let n := c.toNat
  (48 ≤ n && n ≤ 57) || (65 ≤ n && n ≤ 90) || (97 ≤ n && n ≤ 122) ||
    n = 42 || n = 45 || n = 46 || n = 95 || n = 43 || n = 37

variable {b : UInt8} {c : Char} {cs : List Char}

theorem hexValue?_upperHexDigit : ∀ n < 16, hexValue? (upperHexDigit n) = some n := by decide

theorem isFormChar_upperHexDigit : ∀ n < 16, isFormChar (upperHexDigit n) = true := by decide

theorem toNat_ofNat_byte (b : UInt8) : (Char.ofNat b.toNat).toNat = b.toNat := by
  have small : b.toNat < 256 := b.toNat_lt
  rw [Char.ofNat, dif_pos (.inl (by omega))]
  rfl

theorem digits_lt (b : UInt8) : b.toNat / 16 < 16 ∧ b.toNat % 16 < 16 := by
  have small : b.toNat < 256 := b.toNat_lt
  omega

theorem isFormChar_of_mem_encodeByte (member : c ∈ encodeByte b) : isFormChar c = true := by
  obtain ⟨high, low⟩ := digits_lt b
  rw [encodeByte] at member
  split at member
  · next plain =>
    rw [List.mem_singleton] at member
    simp only [isPlainByte, Bool.or_eq_true] at plain
    simp only [member, isFormChar, toNat_ofNat_byte, Bool.or_eq_true]
    exact .inl (.inl plain)
  · split at member
    · rw [List.mem_singleton] at member
      rw [member]
      rfl
    · simp only [List.mem_cons, List.not_mem_nil, or_false] at member
      rcases member with rfl | rfl | rfl
      · rfl
      · exact isFormChar_upperHexDigit _ high
      · exact isFormChar_upperHexDigit _ low

theorem decodeForm?_cons_of_ne (differ : c ≠ '%') (rest : List Char) :
    decodeForm? (c :: rest) =
      (decodeForm? rest).map (UInt8.ofNat (if c = '+' then 32 else c.toNat) :: ·) := by
  rw [decodeForm?.eq_def]
  exact if_neg differ

/-- A byte is read back from whatever stands in front of a rest. -/
theorem decodeForm?_encodeByte (b : UInt8) (rest : List Char) :
    decodeForm? (encodeByte b ++ rest) = (decodeForm? rest).map (b :: ·) := by
  rw [encodeByte]
  split
  · next plain =>
    have value := toNat_ofNat_byte b
    have differ {c : Char} (special : c = '%' ∨ c = '+') : Char.ofNat b.toNat ≠ c := by
      intro same
      rw [same] at value
      rw [isPlainByte, ← value] at plain
      rcases special with rfl | rfl <;> exact absurd plain (by decide)
    rw [List.singleton_append, decodeForm?_cons_of_ne (differ (.inl rfl)),
      if_neg (differ (.inr rfl)), value,
      UInt8.ofNat_toNat]
  · split
    · next blank =>
      have space : UInt8.ofNat 32 = b := by rw [← blank, UInt8.ofNat_toNat]
      rw [List.singleton_append, decodeForm?_cons_of_ne (by decide), if_pos rfl, space]
    · obtain ⟨high, low⟩ := digits_lt b
      have whole : UInt8.ofNat (16 * (b.toNat / 16) + b.toNat % 16) = b := by
        rw [Nat.div_add_mod, UInt8.ofNat_toNat]
      change decodeForm? ('%' :: _ :: _ :: rest) = _
      rw [decodeForm?, if_pos rfl, hexValue?_upperHexDigit _ high, hexValue?_upperHexDigit _ low]
      cases decodeForm? rest with
      | none => rfl
      | some bytes =>
          dsimp only
          rw [whole]
          rfl

theorem decodeForm?_flatMap (bytes : List UInt8) :
    decodeForm? (bytes.flatMap encodeByte) = some bytes := by
  induction bytes with
  | nil => rfl
  | cons b rest ih =>
      rw [List.flatMap_cons, decodeForm?_encodeByte, ih]
      rfl

theorem isFormChar_of_mem_formEncode {s : String} (member : c ∈ (formEncode s).toList) :
    isFormChar c = true := by
  rw [formEncode, String.toList_ofList, List.mem_flatMap] at member
  obtain ⟨b, -, inside⟩ := member
  exact isFormChar_of_mem_encodeByte inside

theorem fromUTF8?_bytes (s : String) :
    String.fromUTF8? s.toUTF8.toList.toByteArray = some s := by
  have bytes : s.toUTF8.toList.toByteArray = s.toByteArray := by
    refine ByteArray.ext ?_
    rw [List.data_toByteArray, byteList_eq]
    rfl
  rw [bytes, String.fromUTF8?, dif_pos s.isValidUTF8]
  rfl

/-- A text is found again in its form. -/
theorem formText?_formEncode (s : String) : formText? (formEncode s).toList = some s := by
  rw [formText?, formEncode, String.toList_ofList, decodeForm?_flatMap]
  exact fromUTF8?_bytes s

end NodeSupply.Text
