import NodeSupply.Config
import NodeSupply.Proofs.Text

/-! The texts that set feature gates. A text is cut at its commas; each segment is blank or sets one gate,
and the last segment that sets a gate decides on it. Which other texts come to the same follows from
what may be done to the segments one at a time. -/

namespace NodeSupply.FeatureGates

open Text

/-! ### Gates and their values -/

def Gate.name : Gate → String
  | .ensureNodeClass => "ensureNodeClass"
  | .disableNodeAutoProvisioning => "disableNodeAutoProvisioning"

def isOn (gates : FeatureGates) : Gate → Bool
  | .ensureNodeClass => gates.ensureNodeClass
  | .disableNodeAutoProvisioning => gates.disableNodeAutoProvisioning

/-- The gates after a setting, if there is one. -/
def apply (gates : FeatureGates) : Option (Gate × Bool) → FeatureGates
  | none => gates
  | some (gate, on) => gates.set gate on

theorem isOn_set (gates : FeatureGates) (gate other : Gate) (on : Bool) :
    (gates.set gate on).isOn other = if other = gate then on else gates.isOn other := by
  cases gate <;> cases other <;> rfl

theorem set_comm (gates : FeatureGates) {gate other : Gate} (apart : gate ≠ other) (x y : Bool) :
    (gates.set gate x).set other y = (gates.set other y).set gate x := by
  cases gate <;> cases other <;> first | rfl | exact (apart rfl).elim

variable {gates : FeatureGates} {gate : Gate} {on : Bool} {setting : Option (Gate × Bool)}
  {segment name value : List Char} {segments others : List (List Char)}

theorem Gate.ofName?_eq_some_iff : ofName? name = some gate ↔ name = gate.name.toList := by
  rw [ofName?]
  split
  · next first =>
    subst first
    cases gate <;> simp [Gate.name]
  · next notFirst =>
    split
    · next second =>
      subst second
      cases gate <;> simp [Gate.name]
    · next notSecond => cases gate <;> simp_all [Gate.name]

theorem wordValue?_eq_some_iff : wordValue? value = some on ↔ value = (toString on).toList := by
  rw [wordValue?]
  split
  · next yes =>
    subst yes
    cases on <;> decide
  · next notYes =>
    split
    · next no =>
      subst no
      cases on <;> decide
    · next notNo =>
      cases on
      · exact iff_of_false nofun notNo
      · exact iff_of_false nofun notYes

/-! ### Segments -/

/-- What a segment sets: nothing if it is blank, else the gate named before the first equals sign, to the
value behind it. -/
inductive Sets (segment : List Char) : Option (Gate × Bool) → Prop
  | nothing (blank : trimChars segment = []) : Sets segment none
  | setting {name value : List Char} {gate : Gate} {on : Bool}
      (cut : trimChars segment = name ++ '=' :: value) (first : '=' ∉ name)
      (named : trimChars name = gate.name.toList)
      (valued : trimChars value = (toString on).toList) : Sets segment (some (gate, on))

theorem Sets.settingOf (sets : Sets segment setting) : settingOf segment = .ok setting := by
  rw [FeatureGates.settingOf]
  cases sets with
  | nothing blank => rw [blank, if_pos List.isEmpty_nil]
  | @setting name value gate on cut first named valued =>
      rw [cut, if_neg (by simp), cutAt_append first]
      dsimp only
      rw [valued, wordValue?_eq_some_iff.mpr rfl]
      dsimp only
      rw [named, Gate.ofName?_eq_some_iff.mpr rfl]

theorem sets_of_settingOf (read : settingOf segment = .ok setting) : Sets segment setting := by
  rw [settingOf] at read
  split at read
  · next blank =>
    cases read
    exact .nothing (List.isEmpty_iff.mp blank)
  · split at read
    · cases read
    · next cut =>
      split at read
      · cases read
      · next valued =>
        split at read
        · cases read
        · next named =>
          cases read
          obtain ⟨cut, first⟩ := cutAt_eq_some_iff.mp cut
          exact .setting cut first (Gate.ofName?_eq_some_iff.mp named)
            (wordValue?_eq_some_iff.mp valued)

theorem Sets.unique {other : Option (Gate × Bool)} (sets : Sets segment setting)
    (again : Sets segment other) : setting = other :=
  Except.ok.inj (sets.settingOf.symm.trans again.settingOf)

theorem settingOf_padded {front back : List Char} (before : Blank front) (behind : Blank back) :
    settingOf (front ++ segment ++ back) = settingOf segment := by
  rw [settingOf, trimChars_padded before behind, settingOf]

/-- The name and the value of a setting may each be trimmed before the whole segment is. -/
theorem settingOf_cut (first : '=' ∉ name) (value : List Char) :
    (settingOf (name ++ '=' :: value)).toOption =
      (wordValue? (trimChars value)).bind fun on =>
        (Gate.ofName? (trimChars name)).map fun gate => some (gate, on) := by
  obtain ⟨name', value', trimmed, part, named, valued⟩ := trimChars_around (c := '=') rfl name value
  have first' : '=' ∉ name' := fun member => first (part.subset member)
  rw [settingOf, trimmed, if_neg (by simp), cutAt_append first', ← named, ← valued]
  dsimp only
  cases wordValue? (trimChars value') with
  | none => rfl
  | some on =>
      dsimp only
      cases Gate.ofName? (trimChars name') <;> rfl

/-! ### Lists of segments -/

theorem applySegments_cons (gates : FeatureGates) (segment : List Char) (rest : List (List Char)) :
    applySegments gates (segment :: rest) =
      (settingOf segment).bind fun setting => applySegments (gates.apply setting) rest := by
  rw [applySegments]
  cases settingOf segment with
  | error e => rfl
  | ok setting => cases setting <;> rfl

theorem applySegments_isOk_iff :
    (∃ final, applySegments gates segments = .ok final) ↔
      ∀ segment ∈ segments, ∃ setting, Sets segment setting := by
  induction segments generalizing gates with
  | nil => simp [applySegments]
  | cons segment rest ih =>
      rw [applySegments_cons, List.forall_mem_cons]
      cases read : settingOf segment with
      | error e =>
          refine iff_of_false (by rintro ⟨_, passed⟩; cases passed) ?_
          rintro ⟨⟨setting, sets⟩, -⟩
          rw [sets.settingOf] at read
          cases read
      | ok setting =>
          refine ih.trans (iff_and_self.mpr fun _ => ⟨setting, sets_of_settingOf read⟩)

/-- Whether a value is that of the last segment that sets a gate, or the one from before if none does. -/
def SetBy (before : Bool) (segments : List (List Char)) (gate : Gate) (on : Bool) : Prop :=
  (∃ front last back, segments = front ++ last :: back ∧ Sets last (some (gate, on)) ∧
    ∀ segment ∈ back, ∀ other, ¬ Sets segment (some (gate, other))) ∨
  on = before ∧ ∀ segment ∈ segments, ∀ other, ¬ Sets segment (some (gate, other))

theorem setBy_of_applySegments {final : FeatureGates}
    (passed : applySegments gates segments = .ok final) (gate : Gate) :
    SetBy (gates.isOn gate) segments gate (final.isOn gate) := by
  induction segments generalizing gates with
  | nil =>
      cases passed
      exact .inr ⟨rfl, nofun⟩
  | cons segment rest ih =>
      rw [applySegments_cons] at passed
      cases read : settingOf segment with
      | error e =>
          rw [read] at passed
          cases passed
      | ok setting =>
          rw [read] at passed
          have sets := sets_of_settingOf read
          rcases ih passed with ⟨front, last, back, rfl, decides, later⟩ | ⟨kept, later⟩
          · exact .inl ⟨segment :: front, last, back, rfl, decides, later⟩
          -- No later segment sets the gate, so that this one decides if it does.
          · by_cases own : ∃ on, setting = some (gate, on)
            · obtain ⟨on, rfl⟩ := own
              rw [apply, isOn_set, if_pos rfl] at kept
              exact .inl ⟨[], segment, rest, rfl, kept ▸ sets, later⟩
            · refine .inr ⟨?_, List.forall_mem_cons.mpr ⟨?_, later⟩⟩
              · rw [kept]
                match setting with
                | none => rfl
                | some (other, on) =>
                    refine (isOn_set gates other gate on).trans (if_neg ?_)
                    rintro rfl
                    exact own ⟨on, rfl⟩
              · intro on again
                exact own ⟨on, sets.unique again⟩

/-! ### Other ways of writing -/

/-- The ways in which the segments of a text may be written differently: blank segments put in, blanks put
around segments, names and values, and segments exchanged that do not set the same gate. -/
inductive Rewritten : List (List Char) → List (List Char) → Prop
  | refl (segments : List (List Char)) : Rewritten segments segments
  | trans {first second third : List (List Char)} (here : Rewritten first second)
      (there : Rewritten second third) : Rewritten first third
  | cons (segment : List Char) {rest others : List (List Char)} (later : Rewritten rest others) :
      Rewritten (segment :: rest) (segment :: others)
  | blank {segment : List Char} (blank : Blank segment) (rest : List (List Char)) :
      Rewritten rest (segment :: rest)
  | padded {front back : List Char} (before : Blank front) (behind : Blank back)
      (segment : List Char) (rest : List (List Char)) :
      Rewritten (segment :: rest) ((front ++ segment ++ back) :: rest)
  | spaced {name front back front' back' : List Char} (first : '=' ∉ name)
      (beforeName : Blank front) (behindName : Blank back)
      (beforeValue : Blank front') (behindValue : Blank back')
      (value : List Char) (rest : List (List Char)) :
      Rewritten ((name ++ '=' :: value) :: rest)
        ((front ++ name ++ back ++ '=' :: (front' ++ value ++ back')) :: rest)
  | exchanged {segment other : List Char}
      (apart : ∀ gate x y, Sets segment (some (gate, x)) → ¬ Sets other (some (gate, y)))
      (rest : List (List Char)) :
      Rewritten (segment :: other :: rest) (other :: segment :: rest)

theorem toOption_applySegments_cons (gates : FeatureGates) (segment : List Char)
    (rest : List (List Char)) :
    (applySegments gates (segment :: rest)).toOption =
      (settingOf segment).toOption.bind fun setting =>
        (applySegments (gates.apply setting) rest).toOption := by
  rw [applySegments_cons]
  cases settingOf segment <;> rfl

theorem applySegments_congr {other : List Char}
    (same : (settingOf segment).toOption = (settingOf other).toOption) (gates : FeatureGates)
    (rest : List (List Char)) :
    (applySegments gates (segment :: rest)).toOption =
      (applySegments gates (other :: rest)).toOption := by
  rw [toOption_applySegments_cons, toOption_applySegments_cons, same]

theorem applySegments_exchanged {other : List Char}
    (apart : ∀ gate x y, Sets segment (some (gate, x)) → ¬ Sets other (some (gate, y)))
    (gates : FeatureGates) (rest : List (List Char)) :
    (applySegments gates (segment :: other :: rest)).toOption =
      (applySegments gates (other :: segment :: rest)).toOption := by
  simp only [toOption_applySegments_cons]
  cases first : settingOf segment with
  | error e => cases settingOf other <;> rfl
  | ok x =>
      cases second : settingOf other with
      | error e => rfl
      | ok y =>
          have commute : (gates.apply x).apply y = (gates.apply y).apply x := by
            match x, y with
            | none, _ | some _, none => rfl
            | some (gate, on), some (gate', on') =>
                refine set_comm gates ?_ on on'
                rintro rfl
                exact apart gate on on' (sets_of_settingOf first) (sets_of_settingOf second)
          exact congrArg (fun gates => (applySegments gates rest).toOption) commute

theorem Rewritten.applySegments (rewritten : Rewritten segments others) (gates : FeatureGates) :
    (applySegments gates segments).toOption = (applySegments gates others).toOption := by
  induction rewritten generalizing gates with
  | refl segments => rfl
  | trans _ _ here there => exact (here gates).trans (there gates)
  | cons segment _ later =>
      rw [toOption_applySegments_cons, toOption_applySegments_cons]
      exact congrArg _ (funext fun setting => later (gates.apply setting))
  | @blank segment blank rest =>
      have nothing : Sets segment none := .nothing (trimChars_of_all_blank blank)
      rw [toOption_applySegments_cons, nothing.settingOf]
      rfl
  | padded before behind segment rest =>
      refine applySegments_congr ?_ gates rest
      rw [settingOf_padded before behind]
  | @spaced name front back front' back' first beforeName behindName beforeValue behindValue value
      rest =>
      have first' : '=' ∉ front ++ name ++ back := by
        simp only [List.mem_append, not_or]
        exact ⟨⟨beforeName.not_mem rfl, first⟩, behindName.not_mem rfl⟩
      refine applySegments_congr ?_ gates rest
      rw [settingOf_cut first, settingOf_cut first', trimChars_padded beforeName behindName,
        trimChars_padded beforeValue behindValue]
  | exchanged apart rest => exact applySegments_exchanged apart gates rest

/-! ### Texts -/

/-- The segments of a text. -/
def segmentsOf (raw : String) : List (List Char) := raw.toList.splitOn ','

theorem parse_eq (raw : String) : parse raw = applySegments {} (segmentsOf raw) := by
  rw [parse, splitChars_eq, segmentsOf]

theorem segmentsOf_joined (first second : String) :
    segmentsOf (first ++ "," ++ second) = segmentsOf first ++ segmentsOf second := by
  rw [segmentsOf, String.toList_append, String.toList_append, List.append_assoc]
  exact List.splitOn_append_cons_self _ _

/-- The law of feature gates. A text is accepted just if each of its segments is blank or sets a gate. Then
each gate has the value of the last segment that sets it, and is off if none does. The same is accepted,
with the same gates, however the segments are written; two texts joined by a comma are accepted just if
both are. A text that is refused makes the whole configuration of an environment invalid. -/
theorem parse_exact :
    (∀ raw, (∃ gates, parse raw = .ok gates) ↔
      ∀ segment ∈ segmentsOf raw, ∃ setting, Sets segment setting) ∧
    (∀ raw gates, parse raw = .ok gates →
      ∀ gate, SetBy false (segmentsOf raw) gate (gates.isOn gate)) ∧
    (∀ raw other, Rewritten (segmentsOf raw) (segmentsOf other) →
      (parse raw).toOption = (parse other).toOption) ∧
    (∀ first second, (∃ gates, parse (first ++ "," ++ second) = .ok gates) ↔
      (∃ gates, parse first = .ok gates) ∧ ∃ gates, parse second = .ok gates) ∧
    ∀ raw e, parse raw = .error e → ∀ (env : Config.Environment) (provider : String) cloud,
      env.cloudProvider = some provider → CloudProvider.parse provider = .ok cloud →
      env.featureGates = some raw →
      Config.ofEnvironment env = .error (.invalid (.gates e)) := by
  have accepted (raw : String) : (∃ gates, parse raw = .ok gates) ↔
      ∀ segment ∈ segmentsOf raw, ∃ setting, Sets segment setting := by
    rw [parse_eq]
    exact applySegments_isOk_iff
  refine ⟨accepted, ?_, ?_, ?_, ?_⟩
  · intro raw gates parsed gate
    rw [parse_eq] at parsed
    have set := setBy_of_applySegments parsed gate
    cases gate <;> exact set
  · intro raw other rewritten
    rw [parse_eq, parse_eq]
    exact rewritten.applySegments {}
  · intro first second
    rw [accepted, accepted, accepted, segmentsOf_joined, List.forall_mem_append]
  · intro raw e refused env provider cloud named known given
    rw [Config.ofEnvironment, named, given]
    dsimp only
    rw [known, refused]
    rfl

example : parse " ensureNodeClass = true ,, ensureNodeClass=false" = .ok {} := by decide +kernel

end NodeSupply.FeatureGates
