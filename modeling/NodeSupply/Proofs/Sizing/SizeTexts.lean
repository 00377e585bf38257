import NodeSupply.Proofs.Binary64.Nearness
import NodeSupply.Proofs.Sizing.SizeLimit

/-! Which texts are sizes. What is written as a size, with blanks around it or without, is one if its
value is within the limit; nothing else is one. -/

namespace NodeSupply

open Binary64

theorem SizeText.nearest_number (t : SizeText) : Nearest (t.digits / 10 ^ t.places) t.number := by
  have near := nearest_ofRatio t.digits (Nat.pow_pos (n := t.places) (Nat.succ_pos 9))
  rw [number_eq]
  exact_mod_cast near

section Reading

variable {s other : String} {t : SizeText} {zeroAllowed : Bool}

theorem readSize_of_written (written : t.Written (Text.trimChars s.toList)) :
    readSize zeroAllowed s =
      if greatestSizeBytes.lt (t.gib * bytesPerGib) || (!zeroAllowed && t.gib.isZero) then
        .error (.invalidSize s)
      else .ok t.gib := by
  rw [readSize, SizeText.ofChars?_of_written written]
  dsimp only
  rw [outOfSizeRange, t.atLeast_zero.lt_eq_false hasUnits_zero, Bool.false_or]

theorem readSize_of_unwritten (unwritten : ∀ t : SizeText, ¬ t.Written (Text.trimChars s.toList)) :
    readSize zeroAllowed s = .error (.invalidSize s) := by
  rw [readSize, Option.eq_none_iff_forall_ne_some.mpr fun t taken =>
    unwritten t (SizeText.written_of_ofChars? taken)]

theorem error_of_readSize {e : CapacityError} (refused : readSize zeroAllowed s = .error e) :
    e = .invalidSize s := by
  rw [readSize] at refused
  split at refused
  · exact (Except.error.inj refused).symm
  · split at refused
    · exact (Except.error.inj refused).symm
    · cases refused

/-- Only zeros are sizes for the one reader and none for the other. -/
theorem parseSize_eq_parseRequirement_or (s : String) :
    parseSize s = parseRequirement s ∨
      ∃ zero : Binary64, zero.isZero = true ∧ parseRequirement s = .ok zero ∧
        parseSize s = .error (.invalidSize s) := by
  rw [parseSize, parseRequirement]
  by_cases some : ∃ t : SizeText, t.Written (Text.trimChars s.toList)
  · obtain ⟨t, written⟩ := some
    rw [readSize_of_written written, readSize_of_written written]
    cases large : greatestSizeBytes.lt (t.gib * bytesPerGib) with
    | true => exact .inl rfl
    | false =>
        cases zero : t.gib.isZero with
        | true => exact .inr ⟨t.gib, zero, rfl, rfl⟩
        | false => exact .inl rfl
  · rw [readSize_of_unwritten (not_exists.mp some), readSize_of_unwritten (not_exists.mp some)]
    exact .inl rfl

/-- What is read depends on what a text is without its blanks and its letter case. -/
theorem readSize_eq_ok_congr {v : Binary64}
    (same : (Text.trimChars other.toList).map Char.toLower =
      (Text.trimChars s.toList).map Char.toLower) :
    readSize zeroAllowed other = .ok v ↔ readSize zeroAllowed s = .ok v := by
  rw [readSize_eq_ok_iff, readSize_eq_ok_iff, SizeText.ofChars?_congr same]

theorem trim_padded {front back : String} (before : Text.Blank front.toList)
    (behind : Text.Blank back.toList) :
    Text.trimChars (front ++ s ++ back).toList = Text.trimChars s.toList := by
  rw [String.toList_append, String.toList_append, Text.trimChars_padded before behind]

theorem trim_lower (same : Text.lowerAscii other = Text.lowerAscii s) :
    (Text.trimChars other.toList).map Char.toLower =
      (Text.trimChars s.toList).map Char.toLower := by
  have chars := String.ofList_injective same
  rw [← Text.trimChars_map Text.isBlank_toLower, ← Text.trimChars_map Text.isBlank_toLower, chars]

end Reading

/-- A text is read as a size just if without the blanks around it it is written as one and its bytes do
not go beyond the limit; where there has to be something, it is not zero either. The value is the double
nearest to the number times that of the unit. Whatever is refused is named as it was given; so the two
readers differ in zeros only, and what is read is not changed by blanks around it or by its letter
case. -/
theorem sizes_exact (s : String) :
    (∀ t : SizeText, t.Written (Text.trimChars s.toList) →
      Nearest (t.digits / 10 ^ t.places) t.number ∧
      let v := t.number * t.unit.gib
      (parseRequirement s =
        if greatestSizeBytes.lt (v * bytesPerGib) then .error (.invalidSize s) else .ok v) ∧
      parseSize s =
        if greatestSizeBytes.lt (v * bytesPerGib) || v.isZero then .error (.invalidSize s)
        else .ok v) ∧
    ((∀ t : SizeText, ¬ t.Written (Text.trimChars s.toList)) →
      parseRequirement s = .error (.invalidSize s) ∧ parseSize s = .error (.invalidSize s)) ∧
    (∀ e, parseRequirement s = .error e ∨ parseSize s = .error e → e = .invalidSize s) ∧
    (parseSize s = parseRequirement s ∨
      ∃ zero : Binary64, zero.isZero = true ∧ parseRequirement s = .ok zero ∧
        parseSize s = .error (.invalidSize s)) ∧
    (∀ front back : String, Text.Blank front.toList → Text.Blank back.toList → ∀ v,
      (parseRequirement (front ++ s ++ back) = .ok v ↔ parseRequirement s = .ok v) ∧
      (parseSize (front ++ s ++ back) = .ok v ↔ parseSize s = .ok v)) ∧
    ∀ other, Text.lowerAscii other = Text.lowerAscii s → ∀ v,
      (parseRequirement other = .ok v ↔ parseRequirement s = .ok v) ∧
      (parseSize other = .ok v ↔ parseSize s = .ok v) := by
  refine ⟨?_, ?_, ?_, parseSize_eq_parseRequirement_or s, ?_, ?_⟩
  · intro t written
    refine ⟨t.nearest_number, ?_, readSize_of_written written⟩
    rw [parseRequirement, readSize_of_written written, Bool.not_true, Bool.false_and, Bool.or_false]
    rfl
  · intro unwritten
    exact ⟨readSize_of_unwritten unwritten, readSize_of_unwritten unwritten⟩
  · rintro e (refused | refused)
    · exact error_of_readSize refused
    · exact error_of_readSize refused
  · intro front back before behind v
    have same := congrArg (List.map Char.toLower) (trim_padded (s := s) before behind)
    exact ⟨readSize_eq_ok_congr same, readSize_eq_ok_congr same⟩
  · intro other letters v
    have same := trim_lower letters
    exact ⟨readSize_eq_ok_congr same, readSize_eq_ok_congr same⟩

/-- A zero is a size of what may be missing only. -/
example :
    parseRequirement " 0.0gI\n" = .ok .zero ∧
      parseSize " 0.0gI\n" = .error (.invalidSize " 0.0gI\n") := by
  decide +kernel

end NodeSupply
