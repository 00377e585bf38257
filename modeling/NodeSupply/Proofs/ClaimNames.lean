import NodeSupply.Proofs.Orchestrator.NameCollisions
import NodeSupply.Proofs.Program.Steps
import NodeSupply.Proofs.Text

/-! What the names of claims are made from. Nothing stands between a workload's namespace, its name and the
identifier, so digits at the end of a workload's name can pass for digits of an identifier. Only so can two
claims of a run be made from the same bytes. -/

namespace NodeSupply

/-- What stands in front of the identifier when a claim of the workload is named. -/
def WorkloadRef.joined (owner : WorkloadRef) : String := owner.nameSpace ++ owner.name

namespace ClaimName

variable {nameSpace name id nameSpace' name' id' owner owner' : String}

/-- The digits of a digest that a name shows. -/
def shownDigits (bytes : List UInt8) : List Char := (hexDigits (Sha256.digest bytes)).take 9

/-- The name that bytes come to. -/
def ofBytes (bytes : List UInt8) : String := "ws" ++ String.ofList (shownDigits bytes)

theorem of_eq_iff :
    of nameSpace name id = of nameSpace' name' id' ↔
      shownDigits (source nameSpace name id) = shownDigits (source nameSpace' name' id') := by
  simp only [of, shownDigits, String.ext_iff, String.toList_append, String.toList_ofList,
    List.append_cancel_left_eq]

theorem source_eq (nameSpace name id : String) :
    source nameSpace name id = (nameSpace ++ name ++ id).toUTF8.toList := by
  rw [source, Text.toUTF8_toList_append, Text.toUTF8_toList_append]

/-- Whether the first identifier begins with the very characters by which the second owner's text is longer
than the first one's, and goes on as the second identifier. -/
def Shifted (owner id owner' id' : String) : Prop :=
  ∃ front : String, front ≠ "" ∧ id = front ++ id' ∧ owner' = owner ++ front

theorem append_eq_append_of_shifted (shifted : Shifted owner id owner' id') :
    owner ++ id = owner' ++ id' := by
  obtain ⟨front, -, rfl, rfl⟩ := shifted
  rw [String.append_assoc]

theorem shifted_of_toList {front : List Char} (differ : id ≠ id')
    (ids : id.toList = front ++ id'.toList) (owners : owner'.toList = owner.toList ++ front) :
    Shifted owner id owner' id' := by
  refine ⟨String.ofList front, ?_, ?_, ?_⟩
  · intro none
    have nothing : front = [] := by rw [← String.toList_ofList (l := front), none]; rfl
    rw [nothing] at ids
    exact differ (String.toList_inj.mp ids)
  · rw [String.ext_iff, String.toList_append, String.toList_ofList, ids]
  · rw [String.ext_iff, String.toList_append, String.toList_ofList, owners]

/-- Two texts with different ends are equal only if one end begins within the other text. -/
theorem append_eq_append_iff_shifted (differ : id ≠ id') :
    owner ++ id = owner' ++ id' ↔ Shifted owner id owner' id' ∨ Shifted owner' id' owner id := by
  constructor
  · intro same
    rw [String.ext_iff, String.toList_append, String.toList_append, List.append_eq_append_iff] at same
    rcases same with ⟨front, owners, ids⟩ | ⟨front, owners, ids⟩
    · exact .inl (shifted_of_toList differ ids owners)
    · exact .inr (shifted_of_toList differ.symm ids owners)
  · rintro (shifted | shifted)
    · exact append_eq_append_of_shifted shifted
    · exact (append_eq_append_of_shifted shifted).symm

theorem ne_append_of_ne_empty {behind : String} (more : behind ≠ "") : owner ≠ owner ++ behind := by
  intro same
  rw [String.ext_iff, String.toList_append, List.self_eq_append_right] at same
  exact more (String.toList_inj.mp same)

theorem not_shifted_of_same : ¬Shifted owner id owner id' :=
  fun ⟨_, more, _, owners⟩ => ne_append_of_ne_empty more owners

end ClaimName

namespace IdSequence

variable (ids : IdSequence) {i j : Nat}

theorem skip_eq (count : Nat) : IdSource.skip ids count = ⟨ids.next + UInt64.ofNat count⟩ := by
  induction count with
  | zero => simp [IdSource.skip]
  | succ count ih =>
      rw [← IdSource.take_skip, ih, UInt64.ofNat_add, ← UInt64.add_assoc]
      rfl

theorem toList_nth (place : Nat) :
    (IdSource.nth ids place).toList = Nat.toDigits 10 (ids.next + UInt64.ofNat place).toNat := by
  rw [IdSource.nth, skip_eq]
  exact Nat.toList_repr

theorem isDigit_of_mem_nth (place : Nat) {c : Char} (member : c ∈ (IdSource.nth ids place).toList) :
    c.isDigit = true := by
  rw [toList_nth] at member
  exact Nat.isDigit_of_mem_toDigits (by decide) (by decide) member

/-- The counter wraps, but comes to no number a second time before all were handed out. -/
theorem nth_injective (early : i < UInt64.size) (early' : j < UInt64.size)
    (same : IdSource.nth ids i = IdSource.nth ids j) : i = j := by
  rw [String.ext_iff, toList_nth, toList_nth] at same
  have numbers := congrArg (fun digits => Nat.ofDigitChars 10 digits 0) same
  simp only [Nat.ofDigitChars_ten_toDigits, UInt64.toNat_inj, UInt64.add_right_inj] at numbers
  have places := congrArg UInt64.toNat numbers
  rwa [UInt64.toNat_ofNat_of_lt' early, UInt64.toNat_ofNat_of_lt' early'] at places

end IdSequence

namespace NodeRequest

/-- The bytes that name the claim of a request at its place in a run, counted from zero. -/
def nameBytes {ι : Type} [IdSource ι] (request : NodeRequest) (ids : ι) (place : Nat) : List UInt8 :=
  ClaimName.source request.owner.nameSpace request.owner.name (IdSource.nth ids place)

variable {first second : NodeRequest} {ids : IdSequence} {i j : Nat}

/-- Two claims of a run are named by the same bytes only if digits moved from an identifier to an owner. -/
theorem nameBytes_eq_iff (early : i < UInt64.size) (early' : j < UInt64.size) (apart : i ≠ j) :
    first.nameBytes ids i = second.nameBytes ids j ↔
      ClaimName.Shifted first.owner.joined (IdSource.nth ids i) second.owner.joined
          (IdSource.nth ids j) ∨
        ClaimName.Shifted second.owner.joined (IdSource.nth ids j) first.owner.joined
          (IdSource.nth ids i) := by
  have differ : IdSource.nth ids i ≠ IdSource.nth ids j :=
    fun same => apart (ids.nth_injective early early' same)
  rw [← ClaimName.append_eq_append_iff_shifted differ, nameBytes, nameBytes, ClaimName.source_eq,
    ClaimName.source_eq, Text.toUTF8_toList_inj]
  rfl

end NodeRequest

/-- Whether the second workload, in front of an identifier, is the first one with digits behind it. -/
def WorkloadRef.Numbered (first second : WorkloadRef) : Prop :=
  ∃ digits : String, digits ≠ "" ∧ (∀ c ∈ digits.toList, c.isDigit = true) ∧
    second.joined = first.joined ++ digits

/-- The shifted part of an identifier consists of digits. -/
theorem WorkloadRef.numbered_of_shifted {first second : WorkloadRef} {ids : IdSequence} {i : Nat}
    {id' : String}
    (shifted : ClaimName.Shifted first.joined (IdSource.nth ids i) second.joined id') :
    first.Numbered second := by
  obtain ⟨front, more, whole, owners⟩ := shifted
  refine ⟨front, more, fun c member => ids.isDigit_of_mem_nth i ?_, owners⟩
  rw [whole, String.toList_append]
  exact List.mem_append_left _ member

namespace Orchestrator

variable {σ : Type}

/-- The bytes that name the claims of a run, in order. -/
def nameBytes {ι : Type} [IdSource ι] (requests : List NodeRequest) (ids : ι) : List (List UInt8) :=
  requests.mapIdx fun place request => request.nameBytes ids place

theorem run_generateClaims {ι : Type} [IdSource ι] (o : Orchestrator) (serve : Server σ)
    (requests : List NodeRequest) (w : World σ ι) :
    ((Program.inTurn (requests.map o.generateClaim)).run serve w).1 =
      requests.mapIdx fun place request => o.freshClaim request w.ids place := by
  induction requests generalizing w with
  | nil => rfl
  | cons request rest ih =>
      rw [List.map_cons, Program.inTurn, Program.run_bind, Program.run_bind, ih, List.mapIdx_cons]
      rfl

/-- How the claims of a run are named, and when two of them are made from the same bytes. -/
structure NamedApart (requests : List NodeRequest) (ids : IdSequence) (claims : List NodeClaim) :
    Prop where
  named : claims.map NodeClaim.name = (nameBytes requests ids).map ClaimName.ofBytes
  /-- The bytes of two claims are the same exactly if digits moved from an identifier to an owner. -/
  meet : ∀ (i j : Nat) (first second : NodeRequest), requests[i]? = some first →
    requests[j]? = some second → i ≠ j →
      (first.nameBytes ids i = second.nameBytes ids j ↔
        ClaimName.Shifted first.owner.joined (IdSource.nth ids i) second.owner.joined
            (IdSource.nth ids j) ∨
          ClaimName.Shifted second.owner.joined (IdSource.nth ids j) first.owner.joined
            (IdSource.nth ids i))
  /-- The claims of one workload are made from different bytes. -/
  repeated : ∀ (i j : Nat) (first second : NodeRequest), requests[i]? = some first →
    requests[j]? = some second → i ≠ j → first.owner.joined = second.owner.joined →
      first.nameBytes ids i ≠ second.nameBytes ids j
  /-- All claims are, unless only digits tell two workloads apart. -/
  distinct : (∀ first ∈ requests, ∀ second ∈ requests, ¬first.owner.Numbered second.owner) →
    (nameBytes requests ids).Nodup
  /-- Claims that are made from different bytes share a name only if the digits of the digests do. -/
  shared : ∀ (i j : Nat) (one other : NodeClaim) (bytes bytes' : List UInt8), claims[i]? = some one →
    claims[j]? = some other → (nameBytes requests ids)[i]? = some bytes →
      (nameBytes requests ids)[j]? = some bytes' →
        (one.name = other.name ↔ ClaimName.shownDigits bytes = ClaimName.shownDigits bytes')

variable {requests : List NodeRequest} {ids : IdSequence} {i j : Nat}

theorem place_lt (few : requests.length < UInt64.size) {request : NodeRequest}
    (here : requests[i]? = some request) : i < UInt64.size :=
  Nat.lt_trans (List.getElem?_eq_some_iff.mp here).1 few

theorem nodup_nameBytes (few : requests.length < UInt64.size)
    (apart : ∀ first ∈ requests, ∀ second ∈ requests, ¬first.owner.Numbered second.owner) :
    (nameBytes requests ids).Nodup := by
  rw [List.nodup_iff_getElem?_ne_getElem?]
  intro i j before within same
  rw [nameBytes, List.length_mapIdx] at within
  have first := List.getElem?_eq_getElem (Nat.lt_trans before within)
  have second := List.getElem?_eq_getElem within
  rw [nameBytes, List.getElem?_mapIdx, List.getElem?_mapIdx, first, second, Option.map_some,
    Option.map_some, Option.some_inj, NodeRequest.nameBytes_eq_iff (place_lt few first)
    (place_lt few second) (Nat.ne_of_lt before)] at same
  rcases same with shifted | shifted
  · exact apart _ (List.mem_of_getElem? first) _ (List.mem_of_getElem? second)
      (WorkloadRef.numbered_of_shifted shifted)
  · exact apart _ (List.mem_of_getElem? second) _ (List.mem_of_getElem? first)
      (WorkloadRef.numbered_of_shifted shifted)

/-- In a run that does not use up the identifiers, the bytes that name two claims differ, unless digits at
the end of one workload's name pass for digits of the other one's identifier. -/
theorem generated_named_apart (o : Orchestrator) (serve : Server σ) (requests : List NodeRequest)
    (w : World σ IdSequence) (few : requests.length < UInt64.size) :
    NamedApart requests w.ids
      ((Program.inTurn (requests.map o.generateClaim)).run serve w).1 := by
  rw [run_generateClaims]
  refine ⟨?_, ?_, ?_, nodup_nameBytes few, ?_⟩
  · refine List.ext_getElem? fun place => ?_
    rw [nameBytes, List.getElem?_map, List.getElem?_map, List.getElem?_mapIdx, List.getElem?_mapIdx,
      Option.map_map, Option.map_map]
    rfl
  · intro i j first second here there
    exact NodeRequest.nameBytes_eq_iff (place_lt few here) (place_lt few there)
  · intro i j first second here there apart same meets
    rw [NodeRequest.nameBytes_eq_iff (place_lt few here) (place_lt few there) apart, same] at meets
    exact meets.elim ClaimName.not_shifted_of_same ClaimName.not_shifted_of_same
  · intro i j one other bytes bytes' made made' hashed hashed'
    rw [List.getElem?_mapIdx, Option.map_eq_some_iff] at made made'
    obtain ⟨first, here, rfl⟩ := made
    obtain ⟨second, there, rfl⟩ := made'
    rw [nameBytes, List.getElem?_mapIdx, here, Option.map_some, Option.some_inj] at hashed
    rw [nameBytes, List.getElem?_mapIdx, there, Option.map_some, Option.some_inj] at hashed'
    rw [← hashed, ← hashed']
    exact ClaimName.of_eq_iff

/-- A run of three requests during which the counter wraps. Two workloads of one joined text are kept apart
by their identifiers. -/
theorem generated_named_apart_of_wrap :
    let o : Orchestrator := { dialect := .azure, config := { cloudProvider := .azure } }
    let request (name nameSpace : String) : NodeRequest :=
      .new ⟨name, nameSpace⟩ "Standard_NC24ads_A100_v4"
    let requests := [request "llama" "ai", request "llama" "ai", request "ama" "aill"]
    let w : World StampedStore IdSequence :=
      { cluster := { nextStamp := ⟨0, 0⟩ }, ids := ⟨18446744073709551615⟩ }
    requests.length < UInt64.size ∧
      NamedApart requests w.ids
        ((Program.inTurn (requests.map o.generateClaim)).run StampedStore.serve w).1 ∧
      (nameBytes requests w.ids).Nodup := by
  intro o request requests w
  have few : requests.length < UInt64.size := by decide
  have apart := generated_named_apart o StampedStore.serve requests w few
  have joined : ∀ request ∈ requests, request.owner.joined = "aillama" := by decide
  refine ⟨few, apart, apart.distinct fun first one second other numbered => ?_⟩
  obtain ⟨digits, more, -, longer⟩ := numbered
  rw [joined first one, joined second other] at longer
  exact ClaimName.ne_append_of_ne_empty more longer

/-- Digits can be moved: the first claim of one workload and the eleventh of the run, of a workload that
lacks the digit at the end, are made from the same bytes, and so have one name. -/
theorem bytes_meet_of_moved_digit :
    let o : Orchestrator := { dialect := .azure, config := { cloudProvider := .azure } }
    let request (name : String) : NodeRequest := .new ⟨name, "default"⟩ "Standard_NC24ads_A100_v4"
    let requests := request "llama1" :: List.replicate 10 (request "llama")
    let w : World StampedStore IdSequence := { cluster := { nextStamp := ⟨0, 0⟩ }, ids := ⟨0⟩ }
    let claims := ((Program.inTurn (requests.map o.generateClaim)).run StampedStore.serve w).1
    requests.length < UInt64.size ∧ ¬(nameBytes requests w.ids).Nodup ∧
      claims[0]?.map NodeClaim.name = claims[10]?.map NodeClaim.name := by
  intro o request requests w claims
  have meet : (request "llama1").nameBytes w.ids 0 = (request "llama").nameBytes w.ids 10 := by
    have texts : "default" ++ "llama1" ++ IdSource.nth w.ids 0 =
        "default" ++ "llama" ++ IdSource.nth w.ids 10 := by decide
    exact (ClaimName.source_eq _ _ _).trans ((congrArg (·.toUTF8.toList) texts).trans
      (ClaimName.source_eq _ _ _).symm)
  refine ⟨by decide, fun nodup => ?_, ?_⟩
  · exact List.nodup_iff_getElem?_ne_getElem?.mp nodup 0 10 (by decide) (by simp [requests, nameBytes])
      (congrArg Option.some meet)
  · have same : (o.freshClaim (request "llama1") w.ids 0).name =
        (o.freshClaim (request "llama") w.ids 10).name := congrArg ClaimName.ofBytes meet
    have made : claims = _ := run_generateClaims o StampedStore.serve requests w
    rw [made, List.getElem?_mapIdx, List.getElem?_mapIdx]
    exact congrArg Option.some same

end Orchestrator

end NodeSupply
