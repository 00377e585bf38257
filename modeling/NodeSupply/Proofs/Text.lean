import Mathlib.Data.List.Infix
import Mathlib.Data.List.TakeWhile
import NodeSupply.Text.Blank
import NodeSupply.Text.Case
import NodeSupply.Text.Split

/-! Texts taken apart: blanks at the ends, letter case, separators, and texts inside of texts. Grammars
are stated in terms of these operations, and what may be changed in a text without changing its meaning
follows from how they treat the parts of an append. -/

namespace NodeSupply.Text

variable {separator c : Char} {cs front back rest : List Char}

/-! ### Blanks at the ends -/

def Blank (cs : List Char) : Prop := ∀ c ∈ cs, isBlank c = true

theorem Blank.not_mem (blank : Blank cs) (unblank : isBlank c = false) : c ∉ cs := by
  intro member
  rw [blank c member] at unblank
  cases unblank

theorem trimChars_append_left (blank : Blank front) : trimChars (front ++ cs) = trimChars cs := by
  rw [trimChars, List.dropWhile_append_of_pos blank, trimChars]

theorem trimChars_append_right (blank : Blank back) : trimChars (cs ++ back) = trimChars cs := by
  have last : Blank back.reverse := fun c member => blank c (List.mem_reverse.mp member)
  rw [trimChars, trimChars, List.dropWhile_append]
  split
  · next none =>
    rw [List.isEmpty_iff.mp none, dropWhile_of_all_blank blank]
  · rw [List.reverse_append, List.dropWhile_append_of_pos last]

theorem trimChars_padded (before : Blank front) (behind : Blank back) :
    trimChars (front ++ cs ++ back) = trimChars cs := by
  rw [trimChars_append_right behind, trimChars_append_left before]

theorem blank_takeWhile (cs : List Char) : Blank (cs.takeWhile isBlank) :=
  fun _ member => List.mem_takeWhile_imp member

theorem trimChars_dropWhile (cs : List Char) : trimChars (cs.dropWhile isBlank) = trimChars cs := by
  rw [← trimChars_append_left (blank_takeWhile cs), List.takeWhile_append_dropWhile]

theorem trimChars_rdropWhile (cs : List Char) :
    trimChars (cs.reverse.dropWhile isBlank).reverse = trimChars cs := by
  have last : Blank (cs.reverse.takeWhile isBlank).reverse :=
    fun c member => blank_takeWhile _ c (List.mem_reverse.mp member)
  rw [← trimChars_append_right last, ← List.reverse_append, List.takeWhile_append_dropWhile,
    List.reverse_reverse]

theorem dropWhile_append_unblank (unblank : isBlank c = false) :
    (cs ++ c :: rest).dropWhile isBlank = cs.dropWhile isBlank ++ c :: rest := by
  have stop : (c :: rest).dropWhile isBlank = c :: rest :=
    List.dropWhile_cons_of_neg (Bool.eq_false_iff.mp unblank)
  rw [List.dropWhile_append]
  split
  · next none => rw [List.isEmpty_iff.mp none, stop, List.nil_append]
  · rfl

/-- Trimming passes by what stands around a character that is not blank. -/
theorem trimChars_around (unblank : isBlank c = false) (before behind : List Char) :
    ∃ before' behind', trimChars (before ++ c :: behind) = before' ++ c :: behind' ∧
      before'.Sublist before ∧ trimChars before' = trimChars before ∧
      trimChars behind' = trimChars behind := by
  refine ⟨before.dropWhile isBlank, (behind.reverse.dropWhile isBlank).reverse, ?_,
    List.dropWhile_sublist _, trimChars_dropWhile before, trimChars_rdropWhile behind⟩
  rw [trimChars, dropWhile_append_unblank unblank, List.reverse_append, List.reverse_cons,
    List.append_assoc, List.singleton_append, dropWhile_append_unblank unblank, List.reverse_append,
    List.reverse_cons, List.reverse_reverse, List.append_assoc, List.singleton_append]

theorem trimChars_map {f : Char → Char} (same : ∀ c, isBlank (f c) = isBlank c) (cs : List Char) :
    trimChars (cs.map f) = (trimChars cs).map f := by
  have blank : isBlank ∘ f = isBlank := funext same
  rw [trimChars, trimChars, List.dropWhile_map, blank, ← List.map_reverse, List.dropWhile_map, blank,
    List.map_reverse]

theorem dropWhile_of_unblank (unblank : ∀ c ∈ cs, isBlank c = false) :
    cs.dropWhile isBlank = cs := by
  cases cs with
  | nil => rfl
  | cons c rest =>
      exact List.dropWhile_cons_of_neg (Bool.eq_false_iff.mp (unblank c List.mem_cons_self))

theorem trimChars_of_unblank (unblank : ∀ c ∈ cs, isBlank c = false) :
    trimChars cs = cs := by
  have back : ∀ c ∈ cs.reverse, isBlank c = false :=
    fun c member => unblank c (List.mem_reverse.mp member)
  rw [trimChars, dropWhile_of_unblank unblank, dropWhile_of_unblank back, List.reverse_reverse]

theorem isBlank_of_isDigit (digit : c.isDigit = true) : isBlank c = false := by
  have bounds : 48 ≤ c.toNat ∧ c.toNat ≤ 57 := Char.isDigit_iff_toNat.mp digit
  simp only [isBlank, Bool.or_eq_false_iff, Bool.and_eq_false_imp, decide_eq_true_eq,
    decide_eq_false_iff_not]
  omega

/-! ### Letter case -/

theorem toLower_cases (c : Char) :
    ¬ (65 ≤ c.toNat ∧ c.toNat ≤ 90) ∧ c.toLower = c ∨
      (65 ≤ c.toNat ∧ c.toNat ≤ 90) ∧ c.toLower.toNat = c.toNat + 32 := by
  unfold Char.toLower
  split
  · next upper =>
    right
    have last : c.val.toNat ≤ 90 := upper.2
    refine ⟨upper, ?_⟩
    change (c.val + 32).toNat = c.val.toNat + 32
    rw [UInt32.toNat_add]
    exact Nat.mod_eq_of_lt (by change c.val.toNat + 32 < 2 ^ 32; omega)
  · next other => exact .inl ⟨other, rfl⟩

theorem toLower_of_isDigit {c : Char} (digit : c.isDigit = true) : c.toLower = c := by
  have last : c.toNat ≤ 57 := (Char.isDigit_iff_toNat.mp digit).2
  rcases toLower_cases c with ⟨-, same⟩ | ⟨upper, -⟩
  · exact same
  · omega

theorem isDigit_toLower (c : Char) : c.toLower.isDigit = c.isDigit := by
  rcases toLower_cases c with ⟨-, same⟩ | ⟨upper, lowered⟩
  · rw [same]
  · rw [Bool.eq_iff_iff, Char.isDigit_iff_toNat, Char.isDigit_iff_toNat, lowered]
    refine iff_of_false ?_ ?_ <;> simp <;> omega

theorem isBlank_toLower (c : Char) : isBlank c.toLower = isBlank c := by
  rcases toLower_cases c with ⟨-, same⟩ | ⟨upper, lowered⟩
  · rw [same]
  · rw [Bool.eq_iff_iff]
    simp only [isBlank, lowered, Bool.or_eq_true, Bool.and_eq_true, decide_eq_true_eq]
    omega

/-- A character is a letter in some letter case just if its lower case is the letter's. -/
theorem toLower_eq_iff (lower upper : Char) (letter : 65 ≤ upper.toNat ∧ upper.toNat ≤ 90)
    (pair : lower.toNat = upper.toNat + 32) (c : Char) :
    c.toLower = lower ↔ c = lower ∨ c = upper := by
  simp only [← Char.toNat_inj]
  rcases toLower_cases c with ⟨other, same⟩ | ⟨_, lowered⟩
  · rw [same]
    omega
  · omega

theorem toLower_eq_point_iff (c : Char) : c.toLower = '.' ↔ c = '.' := by
  simp only [← Char.toNat_inj]
  rcases toLower_cases c with ⟨-, same⟩ | ⟨upper, lowered⟩
  · rw [same]
  · have point : '.'.toNat = 46 := rfl
    omega

/-! ### Separators -/

theorem splitChars_eq (separator : Char) (cs : List Char) :
    splitChars separator cs = cs.splitOn separator := by
  induction cs with
  | nil => rfl
  | cons c rest ih =>
      rw [splitChars, List.splitOn_cons_eq_if_modifyHead, ih]
      by_cases same : c = separator
      · simp [same]
      · rw [if_neg same, if_neg (by simpa using same)]
        cases split : rest.splitOn separator with
        | nil => exact (List.splitOn_ne_nil separator rest split).elim
        | cons part parts => rfl

theorem cutAt_append {before : List Char} (absent : separator ∉ before) (behind : List Char) :
    cutAt separator (before ++ separator :: behind) = some (before, behind) := by
  induction before with
  | nil => exact if_pos rfl
  | cons c before ih =>
      have differ : c ≠ separator := (List.ne_of_not_mem_cons absent).symm
      rw [List.cons_append, cutAt, if_neg differ, ih (List.not_mem_of_not_mem_cons absent)]
      rfl

theorem not_mem_of_cutAt {before behind : List Char}
    (cut : cutAt separator cs = some (before, behind)) : separator ∉ before := by
  induction cs generalizing before with
  | nil => cases cut
  | cons c rest ih =>
      rw [cutAt] at cut
      split at cut
      · cases cut
        exact List.not_mem_nil
      · next differ =>
        obtain ⟨⟨more, _⟩, found, same⟩ := Option.map_eq_some_iff.mp cut
        cases same
        exact List.not_mem_cons_of_ne_of_not_mem (Ne.symm differ) (ih found)

/-- A text is cut at the first separator. -/
theorem cutAt_eq_some_iff {before behind : List Char} :
    cutAt separator cs = some (before, behind) ↔
      cs = before ++ separator :: behind ∧ separator ∉ before := by
  constructor
  · intro cut
    exact ⟨cutAt_eq cut, not_mem_of_cutAt cut⟩
  · rintro ⟨rfl, absent⟩
    exact cutAt_append absent behind

/-! ### Bytes -/

theorem byteList_eq (bytes : ByteArray) : bytes.toList = bytes.data.toList := by
  -- The loop holds the bytes before its position in reverse.
  have loop (i : Nat) (seen : List UInt8) : ByteArray.toList.loop bytes i seen =
      seen.reverse ++ bytes.data.toList.drop i := by
    induction i, seen using ByteArray.toList.loop.induct bytes with
    | case1 i seen inside ih =>
        have within : i < bytes.data.toList.length := by
          rw [Array.length_toList]
          exact inside
        have here : bytes.get! i = bytes.data.toList[i] := by
          rw [Array.getElem_toList]
          exact getElem!_pos bytes.data i inside
        rw [ByteArray.toList.loop, if_pos inside, ih, List.reverse_cons, List.append_assoc, here,
          List.singleton_append, List.getElem_cons_drop]
    | case2 i seen past =>
        have all : bytes.data.toList.length ≤ i := by
          rw [Array.length_toList]
          exact Nat.le_of_not_lt past
        rw [ByteArray.toList.loop, if_neg past, List.drop_eq_nil_of_le all, List.append_nil]
  exact loop 0 []

theorem toUTF8_toList_append (first second : String) :
    (first ++ second).toUTF8.toList = first.toUTF8.toList ++ second.toUTF8.toList := by
  rw [byteList_eq, byteList_eq, byteList_eq, ← Array.toList_append, ← ByteArray.data_append]
  exact congrArg (fun bytes => bytes.data.toList) String.toByteArray_append

theorem toUTF8_toList_inj {first second : String} :
    first.toUTF8.toList = second.toUTF8.toList ↔ first = second := by
  refine ⟨fun same => ?_, fun same => same ▸ rfl⟩
  rw [byteList_eq, byteList_eq] at same
  exact String.toByteArray_inj.mp (ByteArray.ext (Array.toList_inj.mp same))

/-! ### Texts inside of texts -/

theorem containsChars_iff (needle cs : List Char) :
    containsChars needle cs = true ↔ needle <:+: cs := by
  induction cs with
  | nil => rw [containsChars, List.isEmpty_iff, List.infix_nil]
  | cons c rest ih =>
      rw [containsChars, Bool.or_eq_true, List.isPrefixOf_iff_prefix, ih, List.infix_cons_iff]

end NodeSupply.Text
