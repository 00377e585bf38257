import NodeSupply.Orchestrator

/-! The order in which claims go. It ranks all claims, those that are being deleted first, so of the
claims that have to go no more than necessary are live. -/

namespace NodeSupply

namespace Timestamp

variable {a b c : Timestamp}

theorem not_before_iff :
    a.before b = false ↔ b.seconds < a.seconds ∨ (a.seconds = b.seconds ∧ b.nanos ≤ a.nanos) := by
  simp only [before, Bool.or_eq_false_iff, decide_eq_false_iff_not, Bool.and_eq_false_imp,
    decide_eq_true_eq]
  omega

theorem before_asymm (first : a.before b = true) : b.before a = false := by
  simp only [before, Bool.or_eq_true, decide_eq_true_eq, Bool.and_eq_true] at first
  rw [not_before_iff]
  omega

theorem not_before_trans (ab : a.before b = false) (bc : b.before c = false) :
    a.before c = false := by
  rw [not_before_iff] at *
  omega

end Timestamp

namespace Orchestrator

theorem isNewer_asymm {a b : Option Timestamp} (newer : isNewer a b = true) :
    isNewer b a = false := by
  cases a with
  | none => cases newer
  | some a =>
      cases b with
      | none => rfl
      | some b => exact Timestamp.before_asymm newer

theorem not_isNewer_trans {a b c : Option Timestamp} (ab : isNewer a b = false)
    (bc : isNewer b c = false) : isNewer a c = false := by
  cases a with
  | none => rfl
  | some a =>
      cases b with
      | none => cases ab
      | some b =>
          cases c with
          | none => cases bc
          | some c => exact Timestamp.not_before_trans bc ab

variable {a b c : NodeClaim}

/-- One claim does not go before another if the other is of the same rank or of an earlier one. -/
theorem not_goesBefore_iff :
    goesBefore a b = false ↔
      (a.isDeleting = true → b.isDeleting = true) ∧
        (a.isDeleting = b.isDeleting →
          (b.isProvisioned = true → a.isProvisioned = true) ∧
            (a.isProvisioned = b.isProvisioned →
              isNewer a.createdAt b.createdAt = false)) := by
  unfold goesBefore
  cases a.isDeleting <;> cases b.isDeleting <;> cases a.isProvisioned <;> cases b.isProvisioned <;>
    simp

theorem goesBefore_asymm (first : goesBefore a b = true) : goesBefore b a = false := by
  rw [not_goesBefore_iff]
  unfold goesBefore at first
  by_cases deleting : a.isDeleting = b.isDeleting
  · rw [if_neg (Decidable.not_not.mpr deleting)] at first
    refine ⟨fun other => deleting.trans other, fun _ => ?_⟩
    by_cases provisioned : a.isProvisioned = b.isProvisioned
    · rw [if_neg (Decidable.not_not.mpr provisioned)] at first
      exact ⟨fun other => provisioned.symm.trans other, fun _ => isNewer_asymm first⟩
    · rw [if_pos provisioned] at first
      exact ⟨fun _ => first, fun same => absurd same.symm provisioned⟩
  · rw [if_pos deleting] at first
    exact ⟨fun _ => first, fun same => absurd same.symm deleting⟩

theorem eq_of_between {first middle last : Bool} (up : first = true → middle = true)
    (on : middle = true → last = true) (same : first = last) : first = middle := by
  cases first <;> cases middle <;> simp_all

theorem not_goesBefore_trans (ab : goesBefore a b = false) (bc : goesBefore b c = false) :
    goesBefore a c = false := by
  rw [not_goesBefore_iff] at *
  obtain ⟨deletingAB, sameAB⟩ := ab
  obtain ⟨deletingBC, sameBC⟩ := bc
  refine ⟨fun deleting => deletingBC (deletingAB deleting), ?_⟩
  intro same
  -- Between two claims that agree, the third can only agree as well.
  have first := eq_of_between deletingAB deletingBC same
  obtain ⟨provisionedAB, newestAB⟩ := sameAB first
  obtain ⟨provisionedBC, newestBC⟩ := sameBC (first.symm.trans same)
  refine ⟨fun provisioned => provisionedAB (provisionedBC provisioned), ?_⟩
  intro alike
  have second := alike.trans (eq_of_between provisionedBC provisionedAB alike.symm)
  exact not_isNewer_trans (newestAB second) (newestBC (second.symm.trans alike))

theorem deletionOrder_perm (claims : List NodeClaim) : (deletionOrder claims).Perm claims :=
  List.mergeSort_perm _ _

/-- No claim goes before one that stands ahead of it. -/
theorem deletionOrder_pairwise (claims : List NodeClaim) :
    (deletionOrder claims).Pairwise fun a b => goesBefore b a = false := by
  have sorted : (deletionOrder claims).Pairwise fun a b => (!goesBefore b a) = true := by
    apply List.pairwise_mergeSort
    · intro a b c ab bc
      rw [Bool.not_eq_true'] at *
      exact not_goesBefore_trans bc ab
    · intro a b
      cases first : goesBefore b a with
      | false => rfl
      | true =>
          rw [goesBefore_asymm first]
          rfl
  refine sorted.imp ?_
  intro a b ahead
  rwa [Bool.not_eq_true'] at ahead

/-! ### Which claims go -/

theorem victims_sublist (claims : List NodeClaim) (required : Nat) :
    (victims claims required).Sublist (deletionOrder claims) := List.take_sublist _ _

theorem victims_length (claims : List NodeClaim) (required : Nat) :
    (victims claims required).length = claims.length - required := by
  rw [victims, List.length_take, (deletionOrder_perm claims).length_eq]
  omega

theorem mem_of_mem_victims {claims : List NodeClaim} {required : Nat} {claim : NodeClaim}
    (victim : claim ∈ victims claims required) : claim ∈ claims :=
  (deletionOrder_perm claims).mem_iff.mp ((victims_sublist claims required).mem victim)

/-- From a list in which all that meet a condition stand behind the others, taking some takes these
only after all others. -/
theorem countP_take_of_pairwise {α : Type} {p : α → Bool} {items : List α}
    (behind : items.Pairwise fun a b => p a = true → p b = true) (count : Nat) :
    (items.take count).countP p =
      min count items.length - (items.length - items.countP p) := by
  induction items generalizing count with
  | nil => simp
  | cons first rest ih =>
      obtain ⟨all, behindRest⟩ := List.pairwise_cons.mp behind
      cases count with
      | zero => simp
      | succ count =>
          have inner := ih behindRest count
          have most := rest.countP_le_length (p := p)
          cases met : p first with
          | false =>
              rw [List.take_succ_cons, List.countP_cons_of_neg (by simp [met]),
                List.countP_cons_of_neg (by simp [met]), List.length_cons]
              omega
          | true =>
              have full : rest.countP p = rest.length :=
                List.countP_eq_length.mpr fun item member => all item member met
              rw [List.take_succ_cons, List.countP_cons_of_pos met, List.countP_cons_of_pos met,
                List.length_cons]
              omega

/-- Of the claims that have to go, only those are live that are too many even among the live. -/
theorem countP_victims (claims : List NodeClaim) (required : Nat) :
    (victims claims required).countP (fun claim => !claim.isDeleting) =
      claims.countP (fun claim => !claim.isDeleting) - required := by
  -- The order puts claims that are being deleted first, whatever it does among the others.
  have behind : (deletionOrder claims).Pairwise
      fun a b => (!a.isDeleting) = true → (!b.isDeleting) = true := by
    refine (deletionOrder_pairwise claims).imp ?_
    intro a b ahead staysA
    have deleting := (not_goesBefore_iff.mp ahead).1
    rw [Bool.not_eq_true'] at *
    exact Bool.eq_false_iff.mpr fun other => Bool.eq_false_iff.mp staysA (deleting other)
  have most := claims.countP_le_length (p := fun claim => !claim.isDeleting)
  have perm := deletionOrder_perm claims
  rw [victims, countP_take_of_pairwise behind, perm.countP_eq, perm.length_eq]
  omega

end Orchestrator

end NodeSupply
