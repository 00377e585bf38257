import Mathlib.Data.List.Basic
import NodeSupply.Json.Parser
import NodeSupply.Json.Printer

/-! Numbers and strings read back. What is written for a whole number that fits 64 bits, or for a text,
is read as that number or text, whatever follows it. -/

namespace NodeSupply.Json

/-! ### Numbers -/

/-- What can follow a value inside of a JSON text that is written without white space. -/
def Stops (rest : List Char) : Prop := ∀ c ∈ rest.head?, c = ',' ∨ c = ']' ∨ c = '\x7d'

theorem stops_nil : Stops [] := nofun

theorem stops_cons {c : Char} (rest : List Char) (stop : c = ',' ∨ c = ']' ∨ c = '\x7d') :
    Stops (c :: rest) := by
  intro first same
  cases same
  exact stop

theorem Stops.cases {rest : List Char} (stops : Stops rest) :
    rest = [] ∨ ∃ tail, rest = ',' :: tail ∨ rest = ']' :: tail ∨ rest = '\x7d' :: tail := by
  cases rest with
  | nil => exact .inl rfl
  | cons c tail =>
      rcases stops c rfl with rfl | rfl | rfl
      · exact .inr ⟨tail, .inl rfl⟩
      · exact .inr ⟨tail, .inr (.inl rfl)⟩
      · exact .inr ⟨tail, .inr (.inr rfl)⟩

theorem le_ofDigitChars (digits : List Char) (n : Nat) : n ≤ Nat.ofDigitChars 10 digits n := by
  induction digits generalizing n with
  | nil => exact Nat.le_refl n
  | cons c rest ih =>
      refine Nat.le_trans ?_ (ih (10 * n + (c.toNat - 48)))
      omega

/-- Digits are put behind a number one and all, if what they come to fits 64 bits. -/
theorem appendDigits_of_fits {digits : List Char} {n : Nat}
    (fits : Nat.ofDigitChars 10 digits n < UInt64.size) :
    appendDigits n digits = (Nat.ofDigitChars 10 digits n, 0) := by
  induction digits generalizing n with
  | nil => rfl
  | cons c rest ih =>
      have fitsRest : Nat.ofDigitChars 10 rest (10 * n + (c.toNat - 48)) < UInt64.size := fits
      rw [appendDigits, if_pos (Nat.lt_of_le_of_lt (le_ofDigitChars rest _) fitsRest), ih fitsRest]
      rfl

/-- Only zero is written with a zero in front. -/
theorem eq_zero_of_head_toDigits {n : Nat} (zero : (Nat.toDigits 10 n).head? = some '0') : n = 0 := by
  induction n using Nat.strongRecOn with
  | ind n ih =>
      rw [Nat.toDigits_eq_if (by decide)] at zero
      split at zero
      · next small =>
        have digits : ∀ k < 10, Nat.digitChar k = '0' → k = 0 := by decide
        exact digits n small (Option.some.inj zero)
      · next large =>
        rw [List.head?_append_of_ne_nil _ Nat.toDigits_ne_nil] at zero
        have none := ih (n / 10) (by omega) zero
        omega

theorem digits?_toDigits (n : Nat) {rest : List Char} (stops : Stops rest) :
    digits? (Nat.toDigits 10 n ++ rest) = some (Nat.toDigits 10 n, rest) := by
  have digits : ∀ c ∈ Nat.toDigits 10 n, c.isDigit = true :=
    fun c member => Nat.isDigit_of_mem_toDigits (by decide) (by decide) member
  have none : rest.takeWhile Char.isDigit = [] ∧ rest.dropWhile Char.isDigit = rest := by
    rcases stops.cases with rfl | ⟨tail, rfl | rfl | rfl⟩ <;> exact ⟨rfl, rfl⟩
  have some : (Nat.toDigits 10 n).isEmpty = false :=
    List.isEmpty_eq_false_iff.mpr Nat.toDigits_ne_nil
  rw [digits?, List.takeWhile_append_of_pos digits, List.dropWhile_append_of_pos digits, none.1,
    none.2, List.append_nil]
  simp only [some, Bool.false_eq_true, if_false]

/-- The digits of a number are read as a numeral without fraction and exponent. -/
theorem number?_toDigits (negative : Bool) (n : Nat) {rest : List Char} (stops : Stops rest) :
    number? negative (Nat.toDigits 10 n ++ rest) =
      some (Numeral.value negative ⟨Nat.toDigits 10 n, none, none⟩, rest) := by
  have noFraction : fraction? rest = some (none, rest) := by
    rcases stops.cases with rfl | ⟨tail, rfl | rfl | rfl⟩ <;> rfl
  have noExponent : exponent? rest = some (none, rest) := by
    rcases stops.cases with rfl | ⟨tail, rfl | rfl | rfl⟩ <;> rfl
  have noZero : ¬ ((Nat.toDigits 10 n).head? = some '0' && 1 < (Nat.toDigits 10 n).length) = true := by
    simp only [Bool.and_eq_true, decide_eq_true_eq, not_and, Nat.not_lt]
    intro zero
    rw [eq_zero_of_head_toDigits zero]
    decide
  rw [number?, digits?_toDigits n stops, Option.bind_eq_bind, Option.bind_some]
  dsimp only
  rw [if_neg noZero, noFraction, Option.bind_eq_bind, Option.bind_some]
  dsimp only
  rw [noExponent]
  rfl

theorem appendDigits_toDigits {n : Nat} (fits : n < UInt64.size) :
    appendDigits 0 (Nat.toDigits 10 n) = (n, 0) := by
  rw [appendDigits_of_fits, Nat.ofDigitChars_ten_toDigits]
  rw [Nat.ofDigitChars_ten_toDigits]
  exact fits

/-- Digits alone, of a number that fits, are a whole number. -/
theorem value_of_digits {n : Nat} (fits : n < UInt64.size) :
    Numeral.value false ⟨Nat.toDigits 10 n, none, none⟩ = .int n := by
  -- The conditions are decided one by one: a computation would count up to the bound.
  rw [Numeral.value]
  split
  next m beyond same =>
  obtain ⟨rfl, rfl⟩ := Prod.mk.inj ((appendDigits_toDigits fits).symm.trans same)
  rw [if_pos]
  · rw [if_pos]
    · rfl
  · rfl

theorem value_of_digits_neg {n : Nat} (positive : 0 < n) (fits : n ≤ 1 <<< 63) :
    Numeral.value true ⟨Nat.toDigits 10 n, none, none⟩ = .int (-(n : Int)) := by
  have within : n < UInt64.size := Nat.lt_of_le_of_lt fits (by decide)
  rw [Numeral.value]
  split
  next m beyond same =>
  obtain ⟨rfl, rfl⟩ := Prod.mk.inj ((appendDigits_toDigits within).symm.trans same)
  rw [if_pos]
  · rw [Bool.not_true, if_neg Bool.false_ne_true, if_pos]
    rw [Bool.and_eq_true, decide_eq_true_eq, decide_eq_true_eq]
    exact ⟨positive, fits⟩
  · rfl

/-- A whole number that fits 64 bits is read back from its digits. -/
theorem number?_nat {n : Nat} (fits : n < UInt64.size) {rest : List Char} (stops : Stops rest) :
    number? false (Nat.toDigits 10 n ++ rest) = some (.int n, rest) := by
  rw [number?_toDigits false n stops, value_of_digits fits]

theorem number?_neg {n : Nat} (positive : 0 < n) (fits : n ≤ 1 <<< 63) {rest : List Char}
    (stops : Stops rest) :
    number? true (Nat.toDigits 10 n ++ rest) = some (.int (-(n : Int)), rest) := by
  rw [number?_toDigits true n stops, value_of_digits_neg positive fits]

/-! ### Strings -/

theorem unicodeEscape?_byNumber {n : Nat} (control : n < 0x20) (rest : List Char) :
    unicodeEscape? ('0' :: '0' :: Text.hexDigit (n / 16) :: Text.hexDigit (n % 16) :: rest) =
      some (some (Char.ofNat n), rest) := by
  have digit : ∀ k < 16, Text.hexValue? (Text.hexDigit k) = some k := by decide
  have zero : Text.hexValue? '0' = some 0 := by decide
  have code : fourHex? ('0' :: '0' :: Text.hexDigit (n / 16) :: Text.hexDigit (n % 16) :: rest) =
      some (n, rest) := by
    have value : ((0 * 16 + 0) * 16 + n / 16) * 16 + n % 16 = n := by omega
    simp only [fourHex?, zero, digit (n / 16) (by omega), digit (n % 16) (by omega),
      Option.bind_eq_bind, Option.bind_some, value]
    rfl
  rw [unicodeEscape?, code, Option.bind_eq_bind, Option.bind_some]
  dsimp only
  rw [if_pos]
  · rfl
  · simp only [Bool.or_eq_true, decide_eq_true_eq]
    omega

theorem stringBody_unicode {fuel : Nat} {done cs rest : List Char} {c : Char}
    (read : unicodeEscape? cs = some (some c, rest)) :
    stringBody (fuel + 1) (some done) ('\\' :: 'u' :: cs) =
      stringBody fuel (some (c :: done)) rest := by
  rw [stringBody, if_neg (by decide), if_pos rfl, read]
  rfl

/-- The escape of a character is read as that character. -/
theorem stringBody_escapeChar (fuel : Nat) (done : List Char) (c : Char) (rest : List Char) :
    stringBody (fuel + 1) (some done) (escapeChar c ++ rest) =
      stringBody fuel (some (c :: done)) rest := by
  unfold escapeChar
  split_ifs with quote backslash newline return_ tab backspace feed control
  · subst quote
    rfl
  · subst backslash
    rfl
  · subst newline
    rfl
  · subst return_
    rfl
  · subst tab
    rfl
  · rw [← Char.ofNat_toNat c, backspace]
    rfl
  · rw [← Char.ofNat_toNat c, feed]
    rfl
  · rw [escapeByNumber]
    have read := unicodeEscape?_byNumber control rest
    rw [Char.ofNat_toNat] at read
    exact stringBody_unicode read
  · change (if c = '\x22' then _ else if c = '\\' then _ else if c.toNat < 0x20 then _ else _) = _
    rw [if_neg quote, if_neg backslash, if_neg control]
    rfl

theorem stringBody_escaped {fuel : Nat} {text : List Char} (enough : text.length < fuel)
    (done rest : List Char) :
    stringBody fuel (some done) (text.flatMap escapeChar ++ '\x22' :: rest) =
      some (some (String.ofList (done.reverse ++ text)), rest) := by
  induction text generalizing fuel done with
  | nil =>
      obtain ⟨fuel, rfl⟩ := Nat.exists_eq_succ_of_ne_zero (Nat.ne_zero_of_lt enough)
      rw [List.append_nil]
      rfl
  | cons c text ih =>
      obtain ⟨fuel, rfl⟩ := Nat.exists_eq_succ_of_ne_zero (Nat.ne_zero_of_lt enough)
      rw [List.flatMap_cons, List.append_assoc, stringBody_escapeChar,
        ih (Nat.lt_of_succ_lt_succ enough), List.reverse_cons, List.append_assoc]
      rfl

theorem toList_stringText (s : String) :
    (stringText s).toList = '\x22' :: (s.toList.flatMap escapeChar ++ ['\x22']) :=
  String.toList_ofList

theorem length_le_escaped (text : List Char) : text.length ≤ (text.flatMap escapeChar).length := by
  induction text with
  | nil => exact Nat.le_refl 0
  | cons c text ih =>
      have one : 1 ≤ (escapeChar c).length := by
        unfold escapeChar
        split_ifs <;> exact Nat.le_add_left 1 _
      rw [List.flatMap_cons, List.length_append, List.length_cons]
      omega

/-- A string is read back from what stands behind its opening quote. -/
theorem stringBody_stringText {fuel : Nat} (s : String) (rest : List Char)
    (enough : (s.toList.flatMap escapeChar).length < fuel) :
    stringBody fuel (some []) (s.toList.flatMap escapeChar ++ '\x22' :: rest) =
      some (some s, rest) := by
  rw [stringBody_escaped (Nat.lt_of_le_of_lt (length_le_escaped _) enough), List.reverse_nil,
    List.nil_append, String.ofList_toList]

end NodeSupply.Json
