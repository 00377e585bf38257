import NodeSupply.Proofs.Json.RoundTrip
import NodeSupply.Proofs.KeyMap
import NodeSupply.Wire.NodeClaim

/-! Records written as JSON objects, and what their fields are read as. Members that are written in
the order of the fields, some of them left out, pass the judging of the members, so reading a record
comes down to looking up one member after the other. -/

namespace NodeSupply.Json

variable {α : Type} {height : Nat} {read : Reader α} {encode : α → Json}

/-- Whether a value is read back from its text wherever there is room for its arrays and objects. -/
def Shallow (height : Nat) (j : Json) : Prop :=
  ∀ depth, depth + height ≤ Frame.deepest → IsPlain depth j

/-- Whether every value is read back from what is written for it, which is never null and at most
`height` arrays and objects deep. -/
structure Lossless (height : Nat) (read : Reader α) (encode : α → Json) : Prop where
  shallow : ∀ a, Shallow height (encode a)
  present : ∀ a, encode a ≠ .null
  restores : ∀ a, read (encode a) = .ok a

/-- The value that a text is read as, if it is JSON of its type. -/
def decode? (read : Reader α) (text : String) : Option α :=
  (parse? text).bind fun j => (read j).toOption

theorem decode?_text {j : Json} {a : α} (shallow : Shallow height j)
    (room : height ≤ Frame.deepest) (reads : read j = .ok a) : decode? read (text j) = some a := by
  have plain : IsPlain 0 j := shallow 0 (by omega)
  rw [decode?, parse?_text plain, Option.bind_some, reads]
  rfl

theorem Lossless.decode? (codec : Lossless height read encode) (room : height ≤ Frame.deepest)
    (a : α) : decode? read (text (encode a)) = some a :=
  decode?_text (codec.shallow a) room (codec.restores a)

@[simp] theorem ok_bind {β ε : Type} (a : α) (f : α → Except ε β) : (Except.ok a >>= f) = f a := rfl

/-! ### Scalars -/

@[simp] theorem readString_string (s : String) : readString (.string s) = .ok s := rfl

@[simp] theorem readBool_bool (b : Bool) : readBool (.bool b) = .ok b := rfl

theorem readNatBelow_nat {bound n : Nat} (below : n < bound) (expected : String) :
    readNatBelow bound expected (.nat n) = .ok n :=
  if_pos ⟨Int.natCast_nonneg n, Int.ofNat_lt.mpr below⟩

@[simp] theorem readU32_nat (n : UInt32) : readU32 (.nat n.toNat) = .ok n := by
  rw [readU32, readNatBelow_nat n.toNat_lt]
  exact congrArg Except.ok UInt32.ofNat_toNat

@[simp] theorem readU64_nat (n : UInt64) : readU64 (.nat n.toNat) = .ok n := by
  rw [readU64, readNatBelow_nat n.toNat_lt]
  exact congrArg Except.ok UInt64.ofNat_toNat

theorem shallow_nat {n : Nat} (fits : n < UInt64.size) (height : Nat) : Shallow height (.nat n) :=
  fun _ _ => ⟨Int.le_trans (Int.neg_nonpos_of_nonneg (Int.natCast_nonneg _)) (Int.natCast_nonneg n),
    Int.ofNat_lt.mpr fits⟩

theorem lossless_string (height : Nat) : Lossless height readString .string where
  shallow _ _ _ := trivial
  present _ := Json.noConfusion
  restores := readString_string

theorem lossless_bool (height : Nat) : Lossless height readBool .bool where
  shallow _ _ _ := trivial
  present _ := Json.noConfusion
  restores := readBool_bool

theorem lossless_u32 (height : Nat) :
    Lossless height readU32 fun n : UInt32 => .nat n.toNat where
  shallow n := shallow_nat (Nat.lt_trans n.toNat_lt (by decide)) height
  present _ := Json.noConfusion
  restores := readU32_nat

theorem lossless_u64 (height : Nat) :
    Lossless height readU64 fun n : UInt64 => .nat n.toNat where
  shallow n := shallow_nat n.toNat_lt height
  present _ := Json.noConfusion
  restores := readU64_nat

/-! ### Lists and text maps -/

theorem arePlain_map {depth : Nat} (items : List α) (plain : ∀ a, IsPlain depth (encode a)) :
    ArePlain depth (items.map encode) := by
  induction items with
  | nil => exact trivial
  | cons a rest ih => exact ⟨plain a, ih⟩

theorem Lossless.readList_map (codec : Lossless height read encode) (items : List α) :
    readList read (.array (items.map encode)) = .ok items := by
  rw [readList]
  induction items with
  | nil => rfl
  | cons a rest ih =>
      rw [List.map_cons, readItems, codec.restores, ok_bind, ih]
      rfl

theorem Lossless.list (codec : Lossless height read encode) :
    Lossless (height + 1) (readList read) (Json.list encode) where
  shallow items depth room := by
    refine ⟨by omega, arePlain_map items fun a => codec.shallow a (depth + 1) (by omega)⟩
  present _ := Json.noConfusion
  restores := codec.readList_map

theorem havePlain_texts {depth : Nat} (entries : List (String × String)) :
    HavePlain depth (entries.map fun entry => (entry.1, .string entry.2)) := by
  induction entries with
  | nil => exact trivial
  | cons entry rest ih => exact ⟨trivial, ih⟩

theorem readBindings_texts (entries : List (String × String)) :
    readBindings (entries.map fun entry => (entry.1, .string entry.2)) = .ok entries := by
  induction entries with
  | nil => rfl
  | cons entry rest ih =>
      rw [List.map_cons, readBindings, ih]
      rfl

theorem lossless_textMap (height : Nat) : Lossless (height + 1) readTextMap textMap where
  shallow map depth room := ⟨by omega, havePlain_texts map.entries⟩
  present _ := Json.noConfusion
  restores map := by
    have same : KeyMap.ofList map.entries = map := by
      apply KeyMap.ext_get?
      intro key
      rw [KeyMap.ofList, KeyMap.get?_insertMany_entries, KeyMap.get?_empty, Option.or_none]
    rw [textMap, readTextMap, readBindings_texts]
    exact congrArg Except.ok same

/-! ### Members -/

@[simp] theorem listMember_eq (key : String) (encode : α → Json) (items : List α) :
    listMember key encode items =
      member? key (list encode) (Option.guard (fun items => !items.isEmpty) items) := by
  cases items <;> rfl

@[simp] theorem textMapMember_eq (key : String) (map : KeyMap String) :
    textMapMember key map = member? key textMap (Option.guard (fun map => !map.isEmpty) map) := by
  rw [textMapMember, Option.guard]
  cases map.isEmpty <;> rfl

/-- Whether members stand for fields in their order, some of which may be left out, each with a value
that its field accepts. -/
inductive Written (height : Nat) : List FieldSpec → Fields → Prop
  | nil : Written height [] []
  | skip {spec : FieldSpec} {specs : List FieldSpec} {members : Fields} :
      Written height specs members → Written height (spec :: specs) members
  | field {spec : FieldSpec} {specs : List FieldSpec} {members : Fields} {j : Json} :
      Shallow height j → spec.accepts j = .ok () → Written height specs members →
      Written height (spec :: specs) ((spec.name, j) :: members)

theorem nullable_of_ne {j : Json} (given : j ≠ .null) : nullable read j = (read j).map some := by
  cases j with
  | null => exact absurd rfl given
  | _ => rfl

theorem Lossless.nullable (codec : Lossless height read encode) (a : α) :
    nullable read (encode a) = .ok (some a) := by
  rw [nullable_of_ne (codec.present a), codec.restores]
  rfl

namespace Written

variable {specs : List FieldSpec} {members : Fields} {name : String}

theorem ofRead {spec : FieldSpec} {j : Json} {a : α}
    (accepts : spec.accepts = fun j => (read j).map fun _ => ()) (shallow : Shallow height j)
    (reads : read j = .ok a) (rest : Written height specs members) :
    Written height (spec :: specs) ((spec.name, j) :: members) := by
  refine .field shallow ?_ rest
  rw [accepts]
  exact congrArg (Except.map fun _ => ()) reads

theorem needed (codec : Lossless height read encode) (a : α) (rest : Written height specs members) :
    Written height (needed name read :: specs) ((name, encode a) :: members) :=
  ofRead rfl (codec.shallow a) (codec.restores a) rest

theorem defaulted (codec : Lossless height read encode) (a : α)
    (rest : Written height specs members) :
    Written height (defaulted name read :: specs) ((name, encode a) :: members) :=
  ofRead rfl (codec.shallow a) (codec.restores a) rest

theorem given (codec : Lossless height read encode) (a : α) (rest : Written height specs members) :
    Written height (optional name read :: specs) ((name, encode a) :: members) :=
  ofRead rfl (codec.shallow a) (codec.nullable a) rest

/-- A field that is null if there is no value. -/
theorem orNull (codec : Lossless height read encode) (o : Option α)
    (rest : Written height specs members) :
    Written height (optional name read :: specs) ((name, ofOption encode o) :: members) := by
  cases o with
  | none => exact .field (fun _ _ => trivial) rfl rest
  | some a => exact given codec a rest

/-- A field that is left out if there is no value. -/
theorem orAbsent (codec : Lossless height read encode) (o : Option α)
    (rest : Written height specs members) :
    Written height (optional name read :: specs) (member? name encode o ++ members) := by
  cases o with
  | none => exact .skip rest
  | some a => exact given codec a rest

/-- A field that is left out if it has its default. -/
theorem orDefault (codec : Lossless height read encode) (o : Option α)
    (rest : Written height specs members) :
    Written height (Json.defaulted name read :: specs) (member? name encode o ++ members) := by
  cases o with
  | none => exact .skip rest
  | some a => exact defaulted codec a rest

theorem items (codec : Lossless height read encode) (items : List α)
    (rest : Written (height + 1) specs members) :
    Written (height + 1) (Json.defaulted name (readList read) :: specs)
      (listMember name encode items ++ members) := by
  rw [listMember_eq]
  exact orDefault codec.list _ rest

theorem texts (map : KeyMap String) (rest : Written (height + 1) specs members) :
    Written (height + 1) (Json.defaulted name readTextMap :: specs)
      (textMapMember name map ++ members) := by
  rw [textMapMember_eq]
  exact orDefault (lossless_textMap height) _ rest

/-- The members of the last fields. -/
theorem last (written : Written height specs (members ++ [])) : Written height specs members := by
  rwa [List.append_nil] at written

end Written

theorem Written.havePlain {specs : List FieldSpec} {members : Fields}
    (written : Written height specs members) {depth : Nat} (room : depth + height ≤ Frame.deepest) :
    HavePlain depth members := by
  induction written with
  | nil => exact trivial
  | skip _ ih => exact ih
  | field shallow _ _ ih => exact ⟨shallow depth room, ih⟩

theorem Written.shallow {specs : List FieldSpec} {members : Fields}
    (written : Written height specs members) : Shallow (height + 1) (.object members) :=
  fun depth room => ⟨by omega, written.havePlain (by omega)⟩

/-- The members pass in front of fields whose names are still unseen. -/
theorem Written.judged {all specs : List FieldSpec} {members : Fields}
    (written : Written height specs members) (distinct : (all.map (·.name)).Nodup)
    (within : specs.Sublist all) (seen : List String) (unseen : ∀ spec ∈ specs, spec.name ∉ seen) :
    judgeMembers all seen members = .ok () := by
  -- What has been seen are names of fields that are passed, so it never meets those still to come.
  have names : (specs.map (·.name)).Nodup := distinct.sublist (within.map _)
  induction written generalizing seen with
  | nil => rfl
  | skip _ ih =>
      have names := (List.nodup_cons.mp names).2
      exact ih ((List.sublist_cons_self _ _).trans within) seen
        (fun spec member => unseen spec (List.mem_cons_of_mem _ member)) names
  | @field spec specs members j _ accepted _ ih =>
      obtain ⟨fresh, names⟩ := List.nodup_cons.mp names
      have found := (find?_key_iff distinct).mpr ⟨within.mem List.mem_cons_self, rfl⟩
      have first : seen.contains spec.name = false := by
        simpa using unseen spec List.mem_cons_self
      rw [judgeMembers, found]
      dsimp only
      rw [first, if_neg Bool.false_ne_true, accepted]
      apply ih ((List.sublist_cons_self _ _).trans within) _ _ names
      intro other member repeated
      rcases List.mem_cons.mp repeated with same | repeated
      · exact fresh (List.mem_map.mpr ⟨other, member, same⟩)
      · exact unseen other (List.mem_cons_of_mem _ member) repeated

theorem Written.readFields {specs : List FieldSpec} {members : Fields}
    (written : Written height specs members) (distinct : (specs.map (·.name)).Nodup)
    (typeName : String) : readFields typeName specs (.object members) = .ok members := by
  rw [Json.readFields, written.judged distinct (.refl _) [] fun _ _ => List.not_mem_nil]
  rfl

theorem Written.reads {typeName : String} {specs : List FieldSpec} {members : Fields}
    {build : Fields → Except ReadError α} {a : α} (written : Written height specs members)
    (distinct : (specs.map (·.name)).Nodup) (builds : build members = .ok a) :
    (Json.readFields typeName specs (.object members) >>= build) = .ok a := by
  rw [written.readFields distinct, ok_bind, builds]

/-- A record is read back if it is written in the order of its fields and each value is found again
in the members. -/
theorem lossless_record {typeName : String} {specs : List FieldSpec}
    {build : Fields → Except ReadError α} {members : α → Fields}
    (distinct : (specs.map (·.name)).Nodup) (shape : ∀ a, encode a = .object (members a))
    (written : ∀ a, Written height specs (members a)) (builds : ∀ a, build (members a) = .ok a) :
    Lossless (height + 1) (fun j => readFields typeName specs j >>= build) encode where
  shallow a := shape a ▸ (written a).shallow
  present a := by
    rw [shape]
    exact Json.noConfusion
  restores a := by
    rw [shape]
    exact (written a).reads distinct (builds a)

/-! ### Looking members up -/

section Lookup

variable {name : String}

/-- What is read of the member that a lookup came to. -/
def readOr (missing : Except ReadError α) (read : Reader α) : Option Json → Except ReadError α
  | none => missing
  | some j => read j

@[simp] theorem readOr_some (missing : Except ReadError α) (read : Reader α) (j : Json) :
    readOr missing read (some j) = read j := by rw [readOr]

@[simp] theorem get_eq (members : Fields) (name : String) (read : Reader α) :
    members.get name read = readOr (.error (.missingField name)) read (members.lookup name) := by
  rw [Fields.get]
  cases members.lookup name <;> rfl

@[simp] theorem getD_eq (members : Fields) (name : String) (read : Reader α) (default : α) :
    members.getD name read default = readOr (.ok default) read (members.lookup name) := by
  rw [Fields.getD]
  cases members.lookup name <;> rfl

@[simp] theorem get?_eq (members : Fields) (name : String) (read : Reader α) :
    members.get? name read = readOr (.ok none) (nullable read) (members.lookup name) :=
  getD_eq members name (nullable read) none

@[simp] theorem lookup_member? (key : String) (o : Option α) :
    (member? key encode o).lookup name = if name = key then o.map encode else none := by
  cases o with
  | none => rw [member?, List.lookup_nil, Option.map_none, ite_self]
  | some a =>
      rw [member?, List.lookup_cons, List.lookup_nil]
      by_cases same : name = key
      · rw [if_pos same, beq_iff_eq.mpr same, Option.map_some]
      · rw [if_neg same, beq_eq_false_iff_ne.mpr same]

/-- A value that was left out for being the default is the default. -/
theorem readOr_default (codec : Lossless height read encode) {skip : α → Bool} {a default : α}
    (same : skip a = true → a = default) :
    readOr (.ok default) read ((Option.guard (fun a => !skip a) a).map encode) = .ok a := by
  rw [Option.guard]
  cases skipped : skip a with
  | true => exact congrArg Except.ok (same skipped).symm
  | false => exact codec.restores a

theorem readOr_absent (codec : Lossless height read encode) (o : Option α) :
    readOr (.ok none) (nullable read) (o.map encode) = .ok o := by
  cases o with
  | none => rfl
  | some a => exact codec.nullable a

theorem readOr_null (codec : Lossless height read encode) (o : Option α) :
    readOr (.ok none) (nullable read) (some (ofOption encode o)) = .ok o := by
  cases o with
  | none => rfl
  | some a => exact codec.nullable a

end Lookup

end NodeSupply.Json
