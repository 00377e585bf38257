import NodeSupply.Proofs.Text
import NodeSupply.Size

/-! How sizes are written: digits, maybe a point and more digits, and the two letters of a unit, large or
small. What is written so is taken apart again as the size that it is, and nothing else is taken apart
at all. -/

namespace NodeSupply

namespace SizeUnit

/-- The two letters of a unit in lower case. -/
def letters : SizeUnit → List Char
  | .tebi => ['t', 'i']
  | .gibi => ['g', 'i']
  | .mebi => ['m', 'i']

theorem ofSuffix?_eq_some_iff {first second : Char} {unit : SizeUnit} :
    ofSuffix? first second = some unit ↔ [first.toLower, second.toLower] = unit.letters := by
  have i := Text.toLower_eq_iff 'i' 'I' (by decide) rfl second
  have t := Text.toLower_eq_iff 't' 'T' (by decide) rfl first
  have g := Text.toLower_eq_iff 'g' 'G' (by decide) rfl first
  have m := Text.toLower_eq_iff 'm' 'M' (by decide) rfl first
  simp only [ofSuffix?, ← i, ← t, ← g, ← m]
  generalize first.toLower = a, second.toLower = b
  split_ifs with isI isT isG isM
  · subst isI isT
    cases unit <;> decide
  · subst isI isG
    cases unit <;> decide
  · subst isI isM
    cases unit <;> decide
  · cases unit <;> simp [letters, isT, isG, isM]
  · cases unit <;> simp [letters, isI]

end SizeUnit

namespace SizeText

/-- Decimal digits, one at least. -/
def IsNumeral (digits : List Char) : Prop := digits ≠ [] ∧ ∀ c ∈ digits, c.isDigit = true

/-- Whether the digits of a size are there: before the point, and behind it if there is one. -/
structure WellFormed (t : SizeText) : Prop where
  whole : IsNumeral t.whole
  fraction : ∀ digits ∈ t.fraction, IsNumeral digits

/-- A size as it is written, in lower case. -/
def chars (t : SizeText) : List Char :=
  match t.fraction with
  | none => t.whole ++ t.unit.letters
  | some digits => t.whole ++ '.' :: (digits ++ t.unit.letters)

/-- Whether characters are a size as it is written, each letter large or small. -/
structure Written (t : SizeText) (cs : List Char) : Prop where
  wellFormed : t.WellFormed
  lower : cs.map Char.toLower = t.chars

theorem unitOf?_eq_some_iff {cs : List Char} {unit : SizeUnit} :
    unitOf? cs = some unit ↔ cs.map Char.toLower = unit.letters := by
  have two : ∃ first second, unit.letters = [first, second] := by
    cases unit <;> exact ⟨_, _, rfl⟩
  match cs with
  | [first, second] => exact SizeUnit.ofSuffix?_eq_some_iff
  | [] | [_] | _ :: _ :: _ :: _ =>
      obtain ⟨first, second, letters⟩ := two
      rw [letters]
      exact iff_of_false nofun (by simp)

variable {cs digits rest : List Char} {t : SizeText} {unit : SizeUnit}

theorem map_toLower_of_digits (decimal : ∀ c ∈ digits, c.isDigit = true) :
    digits.map Char.toLower = digits := by
  refine (List.map_congr_left fun c member => ?_).trans (List.map_id digits)
  exact Text.toLower_of_isDigit (decimal c member)

theorem isNumeral_takeWhile (some : ¬ (cs.takeWhile Char.isDigit).isEmpty = true) :
    IsNumeral (cs.takeWhile Char.isDigit) :=
  ⟨fun none => some (List.isEmpty_iff.mpr none), fun _ member => List.mem_takeWhile_imp member⟩

/-- What is in front of the first character that is no digit. -/
theorem span_digits (rest : List Char) (decimal : ∀ c ∈ digits, c.isDigit = true)
    (stop : ∀ c ∈ rest.head?, c.isDigit = false) :
    (digits ++ rest).takeWhile Char.isDigit = digits ∧
      (digits ++ rest).dropWhile Char.isDigit = rest := by
  rw [List.takeWhile_append_of_pos decimal, List.dropWhile_append_of_pos decimal]
  cases rest with
  | nil => exact ⟨List.append_nil digits, rfl⟩
  | cons c rest =>
      have other : ¬ c.isDigit = true := Bool.eq_false_iff.mp (stop c rfl)
      rw [List.takeWhile_cons_of_neg other, List.dropWhile_cons_of_neg other, List.append_nil]
      exact ⟨rfl, rfl⟩

/-- A unit begins with a letter, which is no digit and no point. -/
theorem head_of_letters (letters : rest.map Char.toLower = unit.letters) :
    ∃ first more, rest = first :: more ∧ first.isDigit = false ∧ first ≠ '.' := by
  match rest with
  | [] => cases unit <;> cases letters
  | first :: more =>
      have lowered : first.toLower.isDigit = false ∧ first.toLower ≠ '.' := by
        cases unit <;>
        · rw [(List.cons.inj letters).1]
          decide
      refine ⟨first, more, rfl, ?_, ?_⟩
      · rw [← Text.isDigit_toLower]
        exact lowered.1
      · rintro rfl
        exact lowered.2 rfl

theorem written_of_ofChars? (taken : ofChars? cs = some t) : t.Written cs := by
  have apart : cs.takeWhile Char.isDigit ++ cs.dropWhile Char.isDigit = cs :=
    List.takeWhile_append_dropWhile
  rw [ofChars?] at taken
  dsimp only at taken
  split at taken
  · cases taken
  · next whole =>
    have numeral := isNumeral_takeWhile whole
    split at taken
    · next rest point =>
      split at taken
      · cases taken
      · next fraction =>
        have behind := isNumeral_takeWhile fraction
        have apart' : rest.takeWhile Char.isDigit ++ rest.dropWhile Char.isDigit = rest :=
          List.takeWhile_append_dropWhile
        obtain ⟨unit, letters, rfl⟩ := Option.map_eq_some_iff.mp taken
        refine ⟨⟨numeral, fun _ same => Option.some.inj same ▸ behind⟩, ?_⟩
        calc
          cs.map Char.toLower = (cs.takeWhile Char.isDigit ++ '.' ::
              (rest.takeWhile Char.isDigit ++ rest.dropWhile Char.isDigit)).map Char.toLower := by
            rw [apart', ← point, apart]
          _ = _ := by
            rw [List.map_append, List.map_cons, List.map_append, map_toLower_of_digits numeral.2,
              map_toLower_of_digits behind.2, unitOf?_eq_some_iff.mp letters]
            rfl
    · obtain ⟨unit, letters, rfl⟩ := Option.map_eq_some_iff.mp taken
      refine ⟨⟨numeral, nofun⟩, ?_⟩
      conv_lhs =>
        rw [← apart, List.map_append, map_toLower_of_digits numeral.2, unitOf?_eq_some_iff.mp letters]
      rfl

/-- Characters whose lower case begins with digits begin with these digits. -/
theorem exists_digits (decimal : ∀ c ∈ digits, c.isDigit = true)
    (lowered : cs.map Char.toLower = digits ++ rest) :
    ∃ more, cs = digits ++ more ∧ more.map Char.toLower = rest := by
  obtain ⟨front, more, rfl, same, later⟩ := List.map_eq_append_iff.mp lowered
  have kept : ∀ c ∈ front, c.isDigit = true := by
    intro c member
    rw [← Text.isDigit_toLower]
    exact decimal _ (same ▸ List.mem_map_of_mem member)
  rw [map_toLower_of_digits kept] at same
  exact ⟨more, same ▸ rfl, later⟩

theorem ofChars?_whole (numeral : IsNumeral digits)
    (letters : rest.map Char.toLower = unit.letters) :
    ofChars? (digits ++ rest) = some ⟨digits, none, unit⟩ := by
  obtain ⟨first, more, rfl, other, noPoint⟩ := head_of_letters letters
  obtain ⟨front, back⟩ := span_digits (first :: more) numeral.2 (by simpa using other)
  rw [ofChars?, front, back]
  dsimp only
  rw [if_neg (by simpa using numeral.1)]
  split
  · next point => exact (noPoint (List.cons.inj point).1).elim
  · rw [unitOf?_eq_some_iff.mpr letters]
    rfl

theorem ofChars?_fraction {fraction : List Char} (numeral : IsNumeral digits)
    (behind : IsNumeral fraction) (letters : rest.map Char.toLower = unit.letters) :
    ofChars? (digits ++ '.' :: (fraction ++ rest)) = some ⟨digits, some fraction, unit⟩ := by
  have stop : ∀ c ∈ rest.head?, c.isDigit = false := by
    obtain ⟨first, more, rfl, other, -⟩ := head_of_letters letters
    simpa using other
  obtain ⟨front, back⟩ := span_digits ('.' :: (fraction ++ rest)) numeral.2 (by simp)
  obtain ⟨front', back'⟩ := span_digits rest behind.2 stop
  rw [ofChars?, front, back]
  dsimp only
  rw [if_neg (by simpa using numeral.1)]
  change (if ((fraction ++ rest).takeWhile Char.isDigit).isEmpty = true then none else _) = _
  rw [front', back', if_neg (by simpa using behind.1), unitOf?_eq_some_iff.mpr letters]
  rfl

theorem ofChars?_of_written (written : t.Written cs) : ofChars? cs = some t := by
  obtain ⟨wellFormed, lower⟩ := written
  match t with
  | ⟨whole, none, unit⟩ =>
      obtain ⟨rest, rfl, letters⟩ := exists_digits wellFormed.whole.2 lower
      exact ofChars?_whole wellFormed.whole letters
  | ⟨whole, some fraction, unit⟩ =>
      have behind := wellFormed.fraction fraction rfl
      obtain ⟨rest, rfl, more⟩ := exists_digits wellFormed.whole.2 lower
      obtain ⟨point, rest, rfl, same, later⟩ := List.map_eq_cons_iff.mp more
      obtain rfl := (Text.toLower_eq_point_iff point).mp same
      obtain ⟨rest, rfl, letters⟩ := exists_digits behind.2 later
      exact ofChars?_fraction wellFormed.whole behind letters

theorem ofChars?_eq_some_iff : ofChars? cs = some t ↔ t.Written cs :=
  ⟨written_of_ofChars?, ofChars?_of_written⟩

theorem ofChars?_congr {other : List Char}
    (same : other.map Char.toLower = cs.map Char.toLower) : ofChars? other = ofChars? cs := by
  refine Option.ext fun t => ?_
  rw [ofChars?_eq_some_iff, ofChars?_eq_some_iff]
  constructor
  · exact fun written => ⟨written.wellFormed, same ▸ written.lower⟩
  · exact fun written => ⟨written.wellFormed, same ▸ written.lower⟩

end SizeText

end NodeSupply
