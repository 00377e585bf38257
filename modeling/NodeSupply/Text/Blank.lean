/-!
Blank characters, and cutting them off both ends of a text. A character is blank when it has the
White_Space property; the separators U+001C to U+001F, U+180E, U+200B and U+FEFF have it not.
-/

namespace NodeSupply.Text

/-- Whether a character has the White_Space property. -/
def isBlank (c : Char) : Bool :=
  let n := c.toNat
  (0x9 ≤ n && n ≤ 0xD) || n = 0x20 || n = 0x85 || n = 0xA0 || n = 0x1680 ||
    (0x2000 ≤ n && n ≤ 0x200A) || n = 0x2028 || n = 0x2029 || n = 0x202F || n = 0x205F || n = 0x3000

def trimChars (cs : List Char) : List Char :=
  ((cs.dropWhile isBlank).reverse.dropWhile isBlank).reverse

def trim (s : String) : String :=
  String.ofList (trimChars s.toList)

def isBlankText (s : String) : Bool :=
  s.toList.all isBlank

theorem dropWhile_of_all_blank {cs : List Char} (blank : ∀ c ∈ cs, isBlank c) :
    cs.dropWhile isBlank = [] := by
  induction cs with
  | nil => rfl
  | cons c rest ih =>
    rw [List.dropWhile_cons, if_pos (blank c List.mem_cons_self)]
    exact ih fun x member => blank x (List.mem_cons_of_mem c member)

theorem trimChars_of_all_blank {cs : List Char} (blank : ∀ c ∈ cs, isBlank c) :
    trimChars cs = [] := by
  simp [trimChars, dropWhile_of_all_blank blank]

end NodeSupply.Text
