import NodeSupply.Proofs.Json.Scalars

/-! JSON text reads back. What is written for a value without fractions, whose numbers fit 64 bits and
which is not too deep, is read as that value. Reading works on a stack of open arrays and objects, so
the invariant is about the text of one value in front of a rest, and about the values that follow it
in its array or object. -/

namespace NodeSupply.Json

mutual

/-- Whether a value that stands inside of `depth` arrays and objects is read back from its text: no
number in it has a fraction or is beyond 64 bits, and nothing in it is too deep. -/
def IsPlain (depth : Nat) : Json → Prop
  | .null | .bool _ | .string _ => True
  | .int n => -(1 <<< 63 : Nat) ≤ n ∧ n < UInt64.size
  | .array items => depth < Frame.deepest ∧ ArePlain (depth + 1) items
  | .object members => depth < Frame.deepest ∧ HavePlain (depth + 1) members
  | .real _ | .unrepresentable => False

def ArePlain (depth : Nat) : List Json → Prop
  | [] => True
  | j :: rest => IsPlain depth j ∧ ArePlain depth rest

def HavePlain (depth : Nat) : List (String × Json) → Prop
  | [] => True
  | (_, j) :: rest => IsPlain depth j ∧ HavePlain depth rest

end

/-! ### Texts -/

/-- What is written for the items of an array behind the first. -/
def itemsTail (items : List Json) : List Char := items.flatMap fun j => ',' :: (text j).toList

def memberText (member : String × Json) : List Char :=
  (stringText member.1).toList ++ ':' :: (text member.2).toList

/-- What is written for the members of an object behind the first. -/
def membersTail (members : List (String × Json)) : List Char :=
  members.flatMap fun member => ',' :: memberText member

theorem toList_commaSeparated (first : String) (rest : List String) :
    (commaSeparated (first :: rest)).toList =
      first.toList ++ rest.flatMap fun t => ',' :: t.toList := by
  rw [commaSeparated, String.toList_intercalate]
  induction rest generalizing first with
  | nil => simp [List.intercalate]
  | cons second rest ih =>
      rw [List.map_cons, List.map_cons, List.intercalate_cons_cons, ← List.map_cons, ih,
        List.flatMap_cons, List.append_assoc]
      rfl

theorem itemTexts_eq (items : List Json) : itemTexts items = items.map text := by
  induction items with
  | nil => rfl
  | cons j rest ih => rw [itemTexts, ih, List.map_cons]

theorem memberTexts_eq (members : List (String × Json)) :
    memberTexts members = members.map fun m => stringText m.1 ++ ":" ++ text m.2 := by
  induction members with
  | nil => rfl
  | cons member rest ih => rw [memberTexts, ih, List.map_cons]

theorem toList_text_nil_array : (text (.array [])).toList = ['[', ']'] := rfl

theorem toList_text_nil_object : (text (.object [])).toList = ['\x7b', '\x7d'] := rfl

theorem toList_text_array (j : Json) (rest : List Json) :
    (text (.array (j :: rest))).toList = '[' :: ((text j).toList ++ (itemsTail rest ++ [']'])) := by
  rw [text, itemTexts, itemTexts_eq, String.toList_append, String.toList_append,
    toList_commaSeparated, List.flatMap_map, List.append_assoc, List.append_assoc]
  rfl

theorem toList_text_object (member : String × Json) (rest : List (String × Json)) :
    (text (.object (member :: rest))).toList =
      '\x7b' :: (memberText member ++ (membersTail rest ++ ['\x7d'])) := by
  have members : ∀ m : String × Json,
      (stringText m.1 ++ ":" ++ text m.2).toList = memberText m := by
    intro m
    rw [String.toList_append, String.toList_append, List.append_assoc]
    rfl
  have opening : "\x7b".toList = ['\x7b'] := rfl
  have closing : "\x7d".toList = ['\x7d'] := rfl
  rw [text, memberTexts_eq, List.map_cons, String.toList_append, String.toList_append,
    toList_commaSeparated, List.flatMap_map, List.append_assoc, List.append_assoc, opening, closing]
  simp only [members, membersTail, List.cons_append, List.nil_append]

theorem stops_itemsTail (items : List Json) (rest : List Char) :
    Stops (itemsTail items ++ ']' :: rest) := by
  cases items with
  | nil => exact stops_cons _ (.inr (.inl rfl))
  | cons j items => exact stops_cons _ (.inl rfl)

theorem stops_membersTail (members : List (String × Json)) (rest : List Char) :
    Stops (membersTail members ++ '\x7d' :: rest) := by
  cases members with
  | nil => exact stops_cons _ (.inr (.inr rfl))
  | cons member members => exact stops_cons _ (.inl rfl)

/-! ### Single steps -/

/-- Whether a text begins with a character that can begin a value. -/
def Begins (cs : List Char) : Prop :=
  ∃ c tail, cs = c :: tail ∧ c ≠ ' ' ∧ c ≠ '\n' ∧ c ≠ '\t' ∧ c ≠ '\r' ∧ c ≠ ']'

section Steps

variable {fuel depth : Nat} {frames : List Frame} {j : Json} {c : Char} {tail rest : List Char}

theorem skipSpace_cons (space : c ≠ ' ') (line : c ≠ '\n') (tab : c ≠ '\t') (return_ : c ≠ '\r')
    (tail : List Char) : skipSpace (c :: tail) = c :: tail := by
  refine List.dropWhile_cons_of_neg ?_
  simp only [space, line, tab, return_, decide_false, Bool.or_false, Bool.false_eq_true,
    not_false_eq_true]

theorem Begins.skipSpace {cs : List Char} (begins : Begins cs) : Json.skipSpace cs = cs := by
  obtain ⟨c, tail, rfl, space, line, tab, return_, -⟩ := begins
  exact skipSpace_cons space line tab return_ tail

theorem read?_scalar (begins : Begins (c :: tail)) (flat : Frame.opened? c = none)
    (scalar : scalar? fuel c tail = some (j, rest)) :
    read? (fuel + 1) none depth frames (c :: tail) = read? fuel (some j) depth frames rest := by
  rw [read?, begins.skipSpace]
  dsimp only
  rw [flat]
  dsimp only
  rw [scalar]

theorem read?_empty_array :
    read? (fuel + 1) none depth frames ('[' :: ']' :: rest) =
      read? fuel (some (Frame.value depth (.array []))) depth frames rest := by
  rw [read?]
  rfl

theorem read?_open_array (begins : Begins tail) :
    read? (fuel + 1) none depth frames ('[' :: tail) =
      read? fuel none (depth + 1) (.array [] :: frames) tail := by
  obtain ⟨c, tail, rfl, space, line, tab, return_, other⟩ := begins
  have opened : Frame.opened? '[' = some (.array []) := rfl
  rw [read?, skipSpace_cons (by decide) (by decide) (by decide) (by decide)]
  dsimp only
  rw [opened, skipSpace_cons space line tab return_]
  dsimp only
  rw [Frame.closer, if_neg other]
  rfl

theorem read?_comma_array {done : List Json} :
    read? (fuel + 1) (some j) depth (.array done :: frames) (',' :: tail) =
      read? fuel none depth (.array (j :: done) :: frames) tail := by
  rw [read?]
  rfl

theorem read?_close_array {done : List Json} :
    read? (fuel + 1) (some j) (depth + 1) (.array done :: frames) (']' :: rest) =
      read? fuel (some (Frame.value depth (.array (j :: done)))) depth frames rest := by
  rw [read?]
  rfl

theorem value_array (shallow : depth < Frame.deepest) (items : List Json) :
    Frame.value depth (.array items) = .array items.reverse :=
  if_neg (Nat.not_le.mpr shallow)

theorem value_object (shallow : depth < Frame.deepest) (members : List (String × Json)) :
    Frame.value depth (.object (some members) none) = .object members.reverse :=
  if_neg (Nat.not_le.mpr shallow)

theorem next?_of_key {members : Option (List (String × Json))} {before key : Option String}
    {cs : List Char} (read : stringBody fuel (some []) cs = some (key, ':' :: rest)) :
    Frame.next? fuel ('\x22' :: cs) (.object members before) = some (.object members key, rest) :=
  congrArg (fun read => Option.bind read _) read

/-- In an object the key is read together with the colon, and a value is due behind it. -/
theorem next?_memberText {members : Option (List (String × Json))} {before : Option String}
    (key : String) (value : Json) (rest : List Char)
    (enough : (memberText (key, value)).length ≤ fuel) :
    Frame.next? fuel (memberText (key, value) ++ rest) (.object members before) =
      some (.object members (some key), (text value).toList ++ rest) := by
  have written : memberText (key, value) ++ rest = '\x22' :: (key.toList.flatMap escapeChar ++
      '\x22' :: ':' :: ((text value).toList ++ rest)) := by
    rw [memberText, toList_stringText]
    simp only [List.cons_append, List.append_assoc, List.nil_append]
  have short : (key.toList.flatMap escapeChar).length < fuel := by
    refine Nat.lt_of_lt_of_le ?_ enough
    rw [memberText, toList_stringText]
    simp only [List.length_append, List.length_cons]
    omega
  rw [written]
  exact next?_of_key (stringBody_stringText key _ short)

theorem read?_empty_object :
    read? (fuel + 1) none depth frames ('\x7b' :: '\x7d' :: rest) =
      read? fuel (some (Frame.value depth (.object (some []) none))) depth frames rest := by
  rw [read?]
  rfl

theorem read?_open_object (key : String) (value : Json) (rest : List Char)
    (enough : (memberText (key, value)).length ≤ fuel) :
    read? (fuel + 1) none depth frames ('\x7b' :: (memberText (key, value) ++ rest)) =
      read? fuel none (depth + 1) (.object (some []) (some key) :: frames)
        ((text value).toList ++ rest) := by
  have written : ∃ inner, memberText (key, value) ++ rest = '\x22' :: inner := by
    rw [memberText, toList_stringText]
    exact ⟨_, rfl⟩
  obtain ⟨inner, quoted⟩ := written
  have opened : Frame.opened? '\x7b' = some (.object (some []) none) := rfl
  rw [read?, skipSpace_cons (by decide) (by decide) (by decide) (by decide), quoted]
  dsimp only
  rw [opened, skipSpace_cons (by decide) (by decide) (by decide) (by decide)]
  dsimp only
  rw [Frame.closer, if_neg (by decide), ← quoted, next?_memberText key value rest enough]

theorem read?_comma_object {done : List (String × Json)} {before : String} (key : String)
    (value : Json) (rest : List Char) (enough : (memberText (key, value)).length ≤ fuel) :
    read? (fuel + 1) (some j) depth (.object (some done) (some before) :: frames)
        (',' :: (memberText (key, value) ++ rest)) =
      read? fuel none depth (.object (some ((before, j) :: done)) (some key) :: frames)
        ((text value).toList ++ rest) := by
  have added : Frame.add j (.object (some done) (some before)) =
      .object (some ((before, j) :: done)) none := rfl
  rw [read?, skipSpace_cons (by decide) (by decide) (by decide) (by decide)]
  dsimp only
  rw [added, Frame.closer, if_neg (by decide), if_pos rfl, next?_memberText key value rest enough]

theorem read?_close_object {done : List (String × Json)} {key : String} :
    read? (fuel + 1) (some j) (depth + 1) (.object (some done) (some key) :: frames)
        ('\x7d' :: rest) =
      read? fuel (some (Frame.value depth (.object (some ((key, j) :: done)) none))) depth frames
        rest := by
  rw [read?]
  rfl

end Steps

/-! ### Scalars -/

theorem ne_of_digit {c other : Char} (digit : c.isDigit = true) (none : other.isDigit = false) :
    c ≠ other := by
  rintro rfl
  rw [digit] at none
  cases none

/-- The digits of a number, with the first of them set apart. -/
theorem toDigits_cons (n : Nat) :
    ∃ c digits, Nat.toDigits 10 n = c :: digits ∧ c.isDigit = true := by
  have nonempty : Nat.toDigits 10 n ≠ [] := Nat.toDigits_ne_nil
  obtain ⟨c, digits, same⟩ := List.exists_cons_of_ne_nil nonempty
  have member : c ∈ Nat.toDigits 10 n := by
    rw [same]
    exact List.mem_cons_self
  exact ⟨c, digits, same, Nat.isDigit_of_mem_toDigits (by decide) (by decide) member⟩

theorem toList_text_nat (n : Nat) : (text (.int n)).toList = Nat.toDigits 10 n := Nat.toList_repr

theorem toList_text_negSucc (n : Nat) :
    (text (.int (Int.negSucc n))).toList = '-' :: Nat.toDigits 10 (n + 1) := by
  rw [← Nat.toList_repr]
  exact String.toList_append

theorem begins_digits (n : Nat) (rest : List Char) : Begins (Nat.toDigits 10 n ++ rest) := by
  obtain ⟨c, digits, same, digit⟩ := toDigits_cons n
  rw [same]
  exact ⟨c, _, rfl, ne_of_digit digit rfl, ne_of_digit digit rfl, ne_of_digit digit rfl,
    ne_of_digit digit rfl, ne_of_digit digit rfl⟩

theorem begins_text {depth : Nat} {j : Json} (plain : IsPlain depth j) (rest : List Char) :
    Begins ((text j).toList ++ rest) := by
  have first : ∀ c tail, c ≠ ' ' ∧ c ≠ '\n' ∧ c ≠ '\t' ∧ c ≠ '\r' ∧ c ≠ ']' → Begins (c :: tail) :=
    fun c tail solid => ⟨c, tail, rfl, solid⟩
  cases j with
  | null => exact first 'n' _ (by decide)
  | bool b =>
      cases b with
      | false => exact first 'f' _ (by decide)
      | true => exact first 't' _ (by decide)
  | int n =>
      cases n with
      | ofNat n =>
          rw [Int.ofNat_eq_natCast, toList_text_nat]
          exact begins_digits n rest
      | negSucc n =>
          rw [toList_text_negSucc]
          exact first '-' _ (by decide)
  | real x => exact plain.elim
  | string s =>
      rw [text, toList_stringText]
      exact first '\x22' _ (by decide)
  | array items =>
      cases items with
      | nil => exact first '[' _ (by decide)
      | cons j items =>
          rw [toList_text_array]
          exact first '[' _ (by decide)
  | object members =>
      cases members with
      | nil => exact first '\x7b' _ (by decide)
      | cons member members =>
          rw [toList_text_object]
          exact first '\x7b' _ (by decide)
  | unrepresentable => exact plain.elim

/-! ### Values -/

/-- Whether reading gets to where `j` has been read in front of a rest, with fuel for the rest. -/
def Reaches (j : Json) (depth : Nat) (frames : List Frame) (rest : List Char)
    (reading : Option (Json × List Char)) : Prop :=
  ∃ left, rest.length < left ∧ reading = read? left (some j) depth frames rest

theorem Reaches.andThen {j i : Json} {depth below : Nat} {frames others : List Frame}
    {middle rest : List Char} {reading : Option (Json × List Char)}
    (first : Reaches j depth frames middle reading)
    (second : ∀ left, middle.length < left →
      Reaches i below others rest (read? left (some j) depth frames middle)) :
    Reaches i below others rest reading := by
  obtain ⟨left, enough, rfl⟩ := first
  exact second left enough

/-- Fuel for a member and what follows is fuel for its key, and then for its value. -/
theorem enough_of_member {key : String} {j : Json} {rest : List Char} {fuel : Nat}
    (enough : (memberText (key, j) ++ rest).length < fuel) :
    (memberText (key, j)).length ≤ fuel ∧ ((text j).toList ++ rest).length < fuel := by
  rw [List.length_append] at enough ⊢
  have split : (memberText (key, j)).length =
      (stringText key).toList.length + ((text j).toList.length + 1) := by
    rw [memberText, List.length_append, List.length_cons]
  omega

section Scalars

variable {fuel depth : Nat} {frames : List Frame} {rest : List Char}

theorem reaches_scalar {j : Json} {c : Char} {tail : List Char} (begins : Begins (c :: tail))
    (flat : Frame.opened? c = none)
    (scalar : ∀ fuel, tail.length < fuel → scalar? fuel c tail = some (j, rest))
    (shorter : rest.length ≤ tail.length) (enough : (c :: tail).length < fuel) :
    Reaches j depth frames rest (read? fuel none depth frames (c :: tail)) := by
  obtain ⟨fuel, rfl⟩ := Nat.exists_eq_succ_of_ne_zero (Nat.ne_zero_of_lt enough)
  have left : tail.length < fuel := Nat.lt_of_succ_lt_succ enough
  exact ⟨fuel, Nat.lt_of_le_of_lt shorter left, read?_scalar begins flat (scalar fuel left)⟩

theorem scalar?_digit {c : Char} (digit : c.isDigit = true) (fuel : Nat) (tail : List Char) :
    scalar? fuel c tail = number? false (c :: tail) := by
  rw [scalar?, if_neg (ne_of_digit digit rfl), if_neg (ne_of_digit digit rfl),
    if_neg (ne_of_digit digit rfl), if_neg (ne_of_digit digit rfl), if_neg (ne_of_digit digit rfl)]

theorem flat_of_digit {c : Char} (digit : c.isDigit = true) : Frame.opened? c = none := by
  rw [Frame.opened?, if_neg (ne_of_digit digit rfl), if_neg (ne_of_digit digit rfl)]

theorem reaches_int {n : Int} (fits : -(1 <<< 63 : Nat) ≤ n ∧ n < UInt64.size) (stops : Stops rest)
    (enough : ((text (.int n)).toList ++ rest).length < fuel) :
    Reaches (.int n) depth frames rest
      (read? fuel none depth frames ((text (.int n)).toList ++ rest)) := by
  cases n with
  | ofNat n =>
      obtain ⟨c, digits, same, digit⟩ := toDigits_cons n
      have begins := begins_digits n rest
      have number := number?_nat (Int.ofNat_lt.mp fits.2) stops
      rw [Int.ofNat_eq_natCast, toList_text_nat] at enough ⊢
      rw [same] at enough begins number ⊢
      refine reaches_scalar begins (flat_of_digit digit) ?_ ?_ enough
      · intro fuel _
        rw [scalar?_digit digit]
        exact number
      · exact (List.length_append ▸ Nat.le_add_left _ _)
  | negSucc n =>
      have number := number?_neg (Nat.succ_pos n) (by omega) stops
      have plain : IsPlain depth (.int (Int.negSucc n)) := fits
      have begins := begins_text plain rest
      rw [toList_text_negSucc] at enough begins ⊢
      refine reaches_scalar begins rfl ?_ ?_ enough
      · intro fuel _
        exact number
      · exact (List.length_append ▸ Nat.le_add_left _ _)

theorem reaches_string (s : String) (enough : ((text (.string s)).toList ++ rest).length < fuel) :
    Reaches (.string s) depth frames rest
      (read? fuel none depth frames ((text (.string s)).toList ++ rest)) := by
  have plain : IsPlain 0 (.string s) := trivial
  have begins := begins_text plain rest
  rw [text, toList_stringText, List.cons_append, List.append_assoc] at enough begins ⊢
  refine reaches_scalar begins rfl ?_ ?_ enough
  · intro fuel enough
    rw [List.length_append] at enough
    change (stringBody fuel (some []) _).map _ = _
    rw [List.cons_append, List.nil_append, stringBody_stringText s rest (by omega)]
    rfl
  · simp only [List.length_append, List.length_cons]
    omega

theorem reaches_null (enough : ((text .null).toList ++ rest).length < fuel) :
    Reaches .null depth frames rest
      (read? fuel none depth frames ((text .null).toList ++ rest)) := by
  have plain : IsPlain 0 .null := trivial
  exact reaches_scalar (begins_text plain rest) rfl (fun _ _ => rfl) (by simp; omega) enough

theorem reaches_bool (b : Bool) (enough : ((text (.bool b)).toList ++ rest).length < fuel) :
    Reaches (.bool b) depth frames rest
      (read? fuel none depth frames ((text (.bool b)).toList ++ rest)) := by
  have plain : IsPlain 0 (.bool b) := trivial
  have begins := begins_text plain rest
  cases b with
  | false => exact reaches_scalar begins rfl (fun _ _ => rfl) (by simp; omega) enough
  | true => exact reaches_scalar begins rfl (fun _ _ => rfl) (by simp; omega) enough

end Scalars

mutual

/-- The text of a plain value is read as that value, whatever is open around it. -/
theorem reaches_text : (j : Json) → ∀ (fuel depth : Nat) (frames : List Frame) (rest : List Char),
    IsPlain depth j → Stops rest → ((text j).toList ++ rest).length < fuel →
      Reaches j depth frames rest (read? fuel none depth frames ((text j).toList ++ rest))
  | .null => fun _ _ _ _ _ _ enough => reaches_null enough
  | .bool b => fun _ _ _ _ _ _ enough => reaches_bool b enough
  | .int _ => fun _ _ _ _ fits stops enough => reaches_int fits stops enough
  | .real _ => fun _ _ _ _ plain _ _ => plain.elim
  | .string s => fun _ _ _ _ _ _ enough => reaches_string s enough
  | .unrepresentable => fun _ _ _ _ plain _ _ => plain.elim
  | .array [] => by
    intro fuel depth frames rest ⟨shallow, _⟩ _ enough
    obtain ⟨fuel, rfl⟩ := Nat.exists_eq_succ_of_ne_zero (Nat.ne_zero_of_lt enough)
    rw [toList_text_nil_array, List.cons_append, List.cons_append, List.nil_append] at enough ⊢
    refine ⟨fuel, Nat.lt_of_succ_lt (Nat.lt_of_succ_lt_succ enough), ?_⟩
    rw [read?_empty_array, value_array shallow, List.reverse_nil]
  | .array (j :: items) => by
    intro fuel depth frames rest ⟨shallow, plain, others⟩ _ enough
    obtain ⟨fuel, rfl⟩ := Nat.exists_eq_succ_of_ne_zero (Nat.ne_zero_of_lt enough)
    -- The bracket opens a frame, the first item is read in front of the others, then these are.
    rw [toList_text_array] at enough ⊢
    simp only [List.cons_append, List.append_assoc, List.nil_append] at enough ⊢
    rw [read?_open_array (begins_text plain _)]
    have short := Nat.lt_of_succ_lt_succ enough
    refine (reaches_text j _ _ _ _ plain (stops_itemsTail items rest) short).andThen
      fun left enough => ?_
    exact reaches_itemsTail items _ _ _ _ _ _ shallow others enough
  | .object [] => by
    intro fuel depth frames rest ⟨shallow, _⟩ _ enough
    obtain ⟨fuel, rfl⟩ := Nat.exists_eq_succ_of_ne_zero (Nat.ne_zero_of_lt enough)
    rw [toList_text_nil_object, List.cons_append, List.cons_append, List.nil_append] at enough ⊢
    refine ⟨fuel, Nat.lt_of_succ_lt (Nat.lt_of_succ_lt_succ enough), ?_⟩
    rw [read?_empty_object, value_object shallow, List.reverse_nil]
  | .object ((key, j) :: members) => by
    intro fuel depth frames rest ⟨shallow, plain, others⟩ _ enough
    obtain ⟨fuel, rfl⟩ := Nat.exists_eq_succ_of_ne_zero (Nat.ne_zero_of_lt enough)
    rw [toList_text_object] at enough ⊢
    simp only [List.cons_append, List.append_assoc, List.nil_append] at enough ⊢
    obtain ⟨forKey, forValue⟩ := enough_of_member (Nat.lt_of_succ_lt_succ enough)
    rw [read?_open_object key j _ forKey]
    refine (reaches_text j _ _ _ _ plain (stops_membersTail members rest) forValue).andThen
      fun left enough => ?_
    exact reaches_membersTail members _ _ _ _ _ _ _ shallow others enough

/-- Behind an item of an array the other items are read and the array is closed. -/
theorem reaches_itemsTail : (items : List Json) → ∀ (fuel depth : Nat) (frames : List Frame)
    (rest : List Char) (done : List Json) (j : Json), depth < Frame.deepest →
    ArePlain (depth + 1) items → (itemsTail items ++ ']' :: rest).length < fuel →
      Reaches (.array (done.reverse ++ j :: items)) depth frames rest
        (read? fuel (some j) (depth + 1) (.array done :: frames) (itemsTail items ++ ']' :: rest))
  | [] => by
    intro fuel depth frames rest done j shallow _ enough
    obtain ⟨fuel, rfl⟩ := Nat.exists_eq_succ_of_ne_zero (Nat.ne_zero_of_lt enough)
    refine ⟨fuel, Nat.lt_of_succ_lt_succ enough, ?_⟩
    refine read?_close_array.trans ?_
    rw [value_array shallow, List.reverse_cons]
  | i :: items => by
    intro fuel depth frames rest done j shallow ⟨plain, others⟩ enough
    obtain ⟨fuel, rfl⟩ := Nat.exists_eq_succ_of_ne_zero (Nat.ne_zero_of_lt enough)
    -- At the comma the item read last joins those that are done, which are kept last first.
    have moved : done.reverse ++ j :: i :: items = (j :: done).reverse ++ i :: items := by
      rw [List.reverse_cons, List.append_assoc]
      rfl
    rw [itemsTail, List.flatMap_cons, List.cons_append, List.cons_append, List.append_assoc]
      at enough ⊢
    rw [read?_comma_array, moved]
    have short := Nat.lt_of_succ_lt_succ enough
    refine (reaches_text i _ _ _ _ plain (stops_itemsTail items rest) short).andThen
      fun left enough => ?_
    exact reaches_itemsTail items _ _ _ _ _ _ shallow others enough

theorem reaches_membersTail : (members : List (String × Json)) → ∀ (fuel depth : Nat)
    (frames : List Frame) (rest : List Char) (done : List (String × Json)) (key : String) (j : Json),
    depth < Frame.deepest → HavePlain (depth + 1) members →
    (membersTail members ++ '\x7d' :: rest).length < fuel →
      Reaches (.object (done.reverse ++ (key, j) :: members)) depth frames rest
        (read? fuel (some j) (depth + 1) (.object (some done) (some key) :: frames)
          (membersTail members ++ '\x7d' :: rest))
  | [] => by
    intro fuel depth frames rest done key j shallow _ enough
    obtain ⟨fuel, rfl⟩ := Nat.exists_eq_succ_of_ne_zero (Nat.ne_zero_of_lt enough)
    refine ⟨fuel, Nat.lt_of_succ_lt_succ enough, ?_⟩
    refine read?_close_object.trans ?_
    rw [value_object shallow, List.reverse_cons]
  | (next, i) :: members => by
    intro fuel depth frames rest done key j shallow ⟨plain, others⟩ enough
    obtain ⟨fuel, rfl⟩ := Nat.exists_eq_succ_of_ne_zero (Nat.ne_zero_of_lt enough)
    have moved : done.reverse ++ (key, j) :: (next, i) :: members =
        ((key, j) :: done).reverse ++ (next, i) :: members := by
      rw [List.reverse_cons, List.append_assoc]
      rfl
    rw [membersTail, List.flatMap_cons, List.cons_append, List.cons_append, List.append_assoc]
      at enough ⊢
    obtain ⟨forKey, forValue⟩ := enough_of_member (Nat.lt_of_succ_lt_succ enough)
    rw [read?_comma_object next i _ forKey, moved]
    refine (reaches_text i _ _ _ _ plain (stops_membersTail members rest) forValue).andThen
      fun left enough => ?_
    exact reaches_membersTail members _ _ _ _ _ _ _ shallow others enough

end

mutual

theorem representable_of_plain : (j : Json) → {depth : Nat} → IsPlain depth j →
    j.isRepresentable = true
  | .null, _, _ | .bool _, _, _ | .int _, _, _ | .string _, _, _ => rfl
  | .real _, _, plain => plain.elim
  | .unrepresentable, _, plain => plain.elim
  | .array items, _, plain => representable_of_arePlain items plain.2
  | .object members, _, plain => representable_of_havePlain members plain.2

theorem representable_of_arePlain : (items : List Json) → {depth : Nat} → ArePlain depth items →
    areRepresentable items = true
  | [], _, _ => rfl
  | j :: items, _, plain => by
    rw [areRepresentable, representable_of_plain j plain.1, representable_of_arePlain items plain.2]
    rfl

theorem representable_of_havePlain : (members : List (String × Json)) → {depth : Nat} →
    HavePlain depth members → haveRepresentable members = true
  | [], _, _ => rfl
  | (key, j) :: members, _, plain => by
    rw [haveRepresentable, representable_of_plain j plain.1,
      representable_of_havePlain members plain.2]
    rfl

end

/-- A plain value is what its text stands for. -/
theorem parse?_text {j : Json} (plain : IsPlain 0 j) : parse? (text j) = some j := by
  have enough : ((text j).toList ++ []).length < (text j).toList.length + 1 := by
    rw [List.append_nil]
    exact Nat.lt_succ_self _
  obtain ⟨left, positive, same⟩ := reaches_text j _ _ [] _ plain stops_nil enough
  obtain ⟨left, rfl⟩ := Nat.exists_eq_succ_of_ne_zero (Nat.ne_zero_of_lt positive)
  rw [List.append_nil] at same
  have loosely : parseLoosely? (text j) = some j := by
    rw [parseLoosely?, same]
    rfl
  rw [parse?, loosely, Option.filter_some, if_pos (representable_of_plain j plain)]

end NodeSupply.Json
