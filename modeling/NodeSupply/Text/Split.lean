/-!
Cutting a text at a separator.
-/

namespace NodeSupply.Text

/-- The parts of a list between the separators; there is one part more than there are separators. -/
def splitChars (separator : Char) : List Char → List (List Char)
  | [] => [[]]
  | c :: rest =>
    if c = separator then [] :: splitChars separator rest
    else
      match splitChars separator rest with
      | [] => [[c]]
      | part :: parts => (c :: part) :: parts

/-- What stands before and behind the first separator, if there is one. -/
def cutAt (separator : Char) : List Char → Option (List Char × List Char)
  | [] => none
  | c :: rest =>
    if c = separator then some ([], rest)
    else (cutAt separator rest).map fun (before, behind) => (c :: before, behind)

theorem cutAt_eq {separator : Char} {cs before behind : List Char}
    (cut : cutAt separator cs = some (before, behind)) : cs = before ++ separator :: behind := by
  induction cs generalizing before with
  | nil => simp [cutAt] at cut
  | cons c rest ih =>
    rw [cutAt] at cut
    split at cut
    · next same => simp only [Option.some.injEq, Prod.mk.injEq] at cut; simp [← cut.1, ← cut.2, same]
    · obtain ⟨⟨b, e⟩, hit, same⟩ := Option.map_eq_some_iff.mp cut
      simp only [Prod.mk.injEq] at same
      simp [← same.1, ih (same.2 ▸ hit)]

end NodeSupply.Text
