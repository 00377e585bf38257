import Mathlib.Order.Compare
import NodeSupply.Proofs.Orchestrator.Deletion

/-! Which claims a sync deletes that is to come to fewer. Claims are ranked by three keys, and of those of
equal rank the first by name goes first; so every claim that goes ranks before every one that stays. -/

namespace NodeSupply

variable {ι : Type} [IdSource ι]

namespace Timestamp

/-- Earlier moments come first. -/
instance : Ord Timestamp := ⟨compareLex (compareOn seconds) (compareOn nanos)⟩

instance : Std.TransOrd Timestamp :=
  inferInstanceAs (Std.TransCmp (compareLex (compareOn seconds) (compareOn nanos)))

theorem before_iff {a b : Timestamp} : a.before b = true ↔ compare a b = .lt := by
  have keys : compare a b = (compare a.seconds b.seconds).then (compare a.nanos b.nanos) := rfl
  simp [keys, before, Ordering.then_eq_lt, Int.compare_eq_lt, Nat.compare_eq_lt]

end Timestamp

namespace Store

/-- Claims that stand under their own names are listed in the order of these. -/
theorem Keyed.owned_ascending {s : Store} (keyed : s.Keyed) (owner : WorkloadRef) :
    (s.owned owner).Pairwise fun a b => a.name < b.name := by
  apply List.Pairwise.filter
  rw [KeyMap.values, List.pairwise_map]
  refine s.claims.ascending.imp_of_mem ?_
  intro a b first second below
  rwa [keyed a.1 a.2 (KeyMap.get?_eq_some_iff.mpr first),
    keyed b.1 b.2 (KeyMap.get?_eq_some_iff.mpr second)]

/-- A choice of claims to delete among those that a workload owns: as many as are too many, and each of
them ranks before every claim that stays. -/
structure Chooses (s : Store) (owner : WorkloadRef) (required : Nat)
    (gone : List NodeClaim) : Prop where
  surplus : gone.length = (s.owned owner).length - required
  owned : ∀ v ∈ gone, v ∈ s.owned owner
  distinct : (gone.map NodeClaim.name).Nodup
  deleting : ∀ v ∈ gone, ∀ kept ∈ s.owned owner, kept ∉ gone →
    kept.isDeleting = true → v.isDeleting = true
  provisioned : ∀ v ∈ gone, ∀ kept ∈ s.owned owner, kept ∉ gone →
    kept.isDeleting = v.isDeleting → v.isProvisioned = true → kept.isProvisioned = true
  newest : ∀ v ∈ gone, ∀ kept ∈ s.owned owner, kept ∉ gone →
    kept.isDeleting = v.isDeleting → kept.isProvisioned = v.isProvisioned →
    Orchestrator.isNewer kept.createdAt v.createdAt = false
  named : ∀ v ∈ gone, ∀ kept ∈ s.owned owner, kept ∉ gone →
    kept.isDeleting = v.isDeleting → kept.isProvisioned = v.isProvisioned →
    kept.createdAt = v.createdAt → v.name < kept.name

end Store

namespace Orchestrator

/-! ### The rank of a claim -/

theorem isNewer_iff {a b : Option Timestamp} : isNewer a b = true ↔ compare b a = .lt := by
  cases a with
  | none =>
      refine iff_of_false Bool.false_ne_true ?_
      cases b <;> exact Ordering.noConfusion
  | some a =>
      cases b with
      | none => exact iff_of_true rfl rfl
      | some b => exact Timestamp.before_iff

/-- How a claim stands to another in the order in which they go: one that is being deleted before one
that is not, then one without its node before one that has it, then the newer before the older. A claim
that does not say when it was created is older than all that do. -/
def deletionRank : NodeClaim → NodeClaim → Ordering :=
  compareLex (fun a b => compareOn NodeClaim.isDeleting b a)
    (compareLex (compareOn NodeClaim.isProvisioned)
      fun a b => compareOn NodeClaim.createdAt b a)

instance : Std.TransCmp deletionRank := by
  have deleting : Std.TransCmp fun a b => compareOn NodeClaim.isDeleting b a :=
    Std.TransCmp.opposite
  have newest : Std.TransCmp fun a b => compareOn NodeClaim.createdAt b a :=
    Std.TransCmp.opposite
  unfold deletionRank
  infer_instance

variable {a b : NodeClaim}

theorem deletionRank_eq (a b : NodeClaim) :
    deletionRank a b = (compare b.isDeleting a.isDeleting).then
      ((compare a.isProvisioned b.isProvisioned).then (compare b.createdAt a.createdAt)) := rfl

theorem deletionRank_swap (a b : NodeClaim) : deletionRank b a = (deletionRank a b).swap :=
  Std.OrientedCmp.eq_swap

theorem goesBefore_iff : goesBefore a b = true ↔ deletionRank a b = .lt := by
  have up : compare false true = Ordering.lt := rfl
  rw [deletionRank_eq, goesBefore]
  cases a.isDeleting <;> cases b.isDeleting <;> cases a.isProvisioned <;> cases b.isProvisioned <;>
    simp [Ordering.then_eq_lt, isNewer_iff, up]

theorem deletionRank_of_older {moment : Timestamp} (created : a.createdAt = some moment)
    (unknown : b.createdAt = none) (deleting : a.isDeleting = b.isDeleting)
    (provisioned : a.isProvisioned = b.isProvisioned) : deletionRank a b = .lt := by
  have older : compare (none : Option Timestamp) (some moment) = .lt := rfl
  rw [deletionRank_eq, created, unknown, deleting, provisioned]
  simp [older]

theorem deletionOrder_eq (claims : List NodeClaim) :
    deletionOrder claims = claims.mergeSort fun a b => (deletionRank a b).isLE := by
  have ranks : (fun a b => !goesBefore b a) = fun a b => (deletionRank a b).isLE := by
    funext a b
    rw [Bool.eq_iff_iff, Bool.not_eq_true', ← Bool.not_eq_true, goesBefore_iff, deletionRank_swap]
    cases deletionRank a b <;> simp
  rw [deletionOrder, ranks]

/-- Claims of equal rank keep their order. -/
theorem deletionOrder_stable (claims : List NodeClaim) (a : NodeClaim) :
    (deletionOrder claims).filter (fun b => deletionRank a b = .eq) =
      claims.filter fun b => deletionRank a b = .eq := by
  have tied : (claims.filter fun b => deletionRank a b = .eq).Pairwise
      fun b c => (deletionRank b c).isLE = true := by
    apply List.pairwise_of_forall_mem_list
    intro b first c second
    have left := of_decide_eq_true (List.mem_filter.mp first).2
    have right := of_decide_eq_true (List.mem_filter.mp second).2
    rw [← Std.TransCmp.congr_left left, right]
    rfl
  have kept : (claims.filter fun b => deletionRank a b = .eq).Sublist (deletionOrder claims) := by
    rw [deletionOrder_eq]
    refine List.sublist_mergeSort ?_ ?_ tied List.filter_sublist
    · intro a b c
      exact Std.TransCmp.isLE_trans
    · intro a b
      rw [deletionRank_swap a b]
      cases deletionRank a b <;> rfl
  have inner := kept.filter fun b => decide (deletionRank a b = .eq)
  simp only [List.filter_filter, Bool.and_self] at inner
  exact (inner.eq_of_length ((deletionOrder_perm claims).filter _).length_eq.symm).symm

/-- Claims stand in the order of their ranks, and those of equal rank as they stood before. -/
theorem deletionOrder_ranked {before : NodeClaim → NodeClaim → Prop} {claims : List NodeClaim}
    (ordered : claims.Pairwise before) :
    (deletionOrder claims).Pairwise fun a b =>
      goesBefore b a = false ∧ (deletionRank a b = .eq → before a b) := by
  refine (deletionOrder_pairwise claims).and ?_
  rw [List.pairwise_iff_forall_sublist]
  intro a b ahead tie
  have both := ahead.filter fun c => decide (deletionRank a c = .eq)
  rw [deletionOrder_stable, List.filter_eq_self.mpr] at both
  · exact List.pairwise_iff_forall_sublist.mp ordered (both.trans List.filter_sublist)
  · intro c member
    rcases List.mem_pair.mp member with rfl | rfl
    · exact decide_eq_true Std.ReflCmp.compare_self
    · exact decide_eq_true tie

/-! ### The claims that go and those that stay -/

theorem ranked_of_stays {before : NodeClaim → NodeClaim → Prop} {claims : List NodeClaim}
    (ordered : claims.Pairwise before) {required : Nat} {goes stays : NodeClaim}
    (victim : goes ∈ victims claims required) (member : stays ∈ claims)
    (survivor : stays ∉ victims claims required) :
    goesBefore stays goes = false ∧ (deletionRank goes stays = .eq → before goes stays) := by
  have ranked := deletionOrder_ranked ordered
  rw [← List.take_append_drop (claims.length - required) (deletionOrder claims),
    List.pairwise_append] at ranked
  refine ranked.2.2 goes victim stays ?_
  have listed : stays ∈ deletionOrder claims := (deletionOrder_perm claims).mem_iff.mpr member
  rw [← List.take_append_drop (claims.length - required) (deletionOrder claims)] at listed
  exact (List.mem_append.mp listed).resolve_left survivor

/-- A deletion of claims that succeeds makes one call for each claim that was not being deleted. -/
theorem calls_deleteEach_of_ok {claims : List NodeClaim} {w : World StampedStore ι}
    (success : ((deleteEach claims).run StampedStore.serve w).1 = .ok ()) :
    (deleteEach claims).calls StampedStore.serve w = (liveNames claims).map .deleteNodeClaim := by
  induction claims generalizing w with
  | nil => rfl
  | cons claim rest ih =>
      unfold deleteEach at success ⊢
      cases deleting : claim.isDeleting with
      | true =>
          rw [deleting, if_pos rfl] at success
          rw [if_pos rfl, liveNames_of_deleting rest deleting]
          exact ih success
      | false =>
          rw [deleting, if_neg Bool.false_ne_true, Program.run_andThen] at success
          rw [if_neg Bool.false_ne_true, liveNames_of_live rest deleting, Program.calls_andThen,
            calls_deleteClaim, List.map_cons]
          cases first : ((deleteClaim claim.name).run StampedStore.serve w).1 with
          | error failure =>
              rw [first] at success
              cases success
          | ok _ =>
              rw [first] at success
              exact congrArg _ (ih success)

theorem chooses_victims {s : Store} (keyed : s.Keyed) (owner : WorkloadRef) (required : Nat) :
    s.Chooses owner required (victims (s.owned owner) required) where
  surplus := victims_length _ _
  owned := fun v victim => mem_of_mem_victims victim
  distinct := by
    have all : ((deletionOrder (s.owned owner)).map NodeClaim.name).Nodup :=
      ((deletionOrder_perm _).map _).nodup_iff.mpr (keyed.owned_names_nodup owner)
    exact all.sublist ((victims_sublist _ _).map _)
  deleting := by
    intro v victim kept member stays
    obtain ⟨ahead, -⟩ := ranked_of_stays (keyed.owned_ascending owner) victim member stays
    exact (not_goesBefore_iff.mp ahead).1
  provisioned := by
    intro v victim kept member stays deleting
    obtain ⟨ahead, -⟩ := ranked_of_stays (keyed.owned_ascending owner) victim member stays
    exact ((not_goesBefore_iff.mp ahead).2 deleting).1
  newest := by
    intro v victim kept member stays deleting provisioned
    obtain ⟨ahead, -⟩ := ranked_of_stays (keyed.owned_ascending owner) victim member stays
    exact ((not_goesBefore_iff.mp ahead).2 deleting).2 provisioned
  named := by
    intro v victim kept member stays deleting provisioned created
    obtain ⟨-, tied⟩ := ranked_of_stays (keyed.owned_ascending owner) victim member stays
    apply tied
    rw [deletionRank_eq, deleting, provisioned, created]
    simp

variable (o : Orchestrator) (request : NodeRequest) (required : UInt32)

/-- A sync that finds more claims than it needs deletes only victims that are not being deleted already. -/
theorem victim_of_deletion {w : World StampedStore ι}
    (surplus : required.toNat < (w.store.owned request.owner).length) {c : Call}
    (called : c ∈ (o.syncClaims request required).calls StampedStore.serve w)
    (deletes : c.operation = .deleteNodeClaim) :
    ∃ v ∈ victims (w.store.owned request.owner) required.toNat,
      v.isDeleting = false ∧ c = .deleteNodeClaim v.name := by
  have quiet : c ∉ (o.listClaims request.owner).calls StampedStore.serve w := by
    intro listing
    rw [(o.makes_listClaims request.owner).calls w c listing] at deletes
    cases deletes
  cases listed : ((o.listClaims request.owner).run StampedStore.serve w).1 with
  | error failure =>
      rw [syncClaims, Program.calls_andThen, listed, List.append_nil] at called
      exact (quiet called).elim
  | ok claims =>
      rw [(o.run_syncClaims_surplus request required (Nat.le_of_lt surplus) listed).2] at called
      exact (makes_deleteEach_live _).calls _ c ((List.mem_append.mp called).resolve_left quiet)

/-- Where it succeeds, it answers with the names of the victims and has deleted those that were not. -/
theorem deleted_of_ok {w after : World StampedStore ι}
    (surplus : required.toNat < (w.store.owned request.owner).length) {sync : ClaimSync}
    (ended : (o.syncClaims request required).run StampedStore.serve w = (.ok sync, after)) :
    sync.deleted = (victims (w.store.owned request.owner) required.toNat).map NodeClaim.name ∧
      ∀ v ∈ victims (w.store.owned request.owner) required.toNat, v.isDeleting = false →
        .deleteNodeClaim v.name ∈ (o.syncClaims request required).calls StampedStore.serve w := by
  cases listed : ((o.listClaims request.owner).run StampedStore.serve w).1 with
  | error failure =>
      rw [syncClaims, Program.run_andThen, listed] at ended
      cases ended
  | ok claims =>
      obtain ⟨run, calls⟩ := o.run_syncClaims_surplus request required (Nat.le_of_lt surplus) listed
      rw [run] at ended
      rw [calls]
      generalize ((o.listClaims request.owner).run StampedStore.serve w).2 = v at ended ⊢
      rcases ran : (deleteEach (victims (w.store.owned request.owner) required.toNat)).run
        StampedStore.serve v with ⟨failure | _, final⟩
      · rw [ran] at ended
        cases ended
      · rw [ran] at ended
        cases ended
        refine ⟨rfl, ?_⟩
        intro gone victim live
        rw [calls_deleteEach_of_ok (congrArg Prod.fst ran)]
        refine List.mem_append_right _ (List.mem_map_of_mem (List.mem_map_of_mem ?_))
        exact List.mem_filter.mpr ⟨victim, by rw [live]; rfl⟩

/-- The rank is a total preorder of all claims, in which those without a time of creation count as the
oldest. A sync that finds more claims than it needs chooses those that rank first, deletes of these the
ones that are not being deleted already, and no other claim. -/
theorem syncClaims_victims :
    ((∀ a, deletionRank a a = .eq) ∧
      (∀ a b, deletionRank b a = (deletionRank a b).swap) ∧
      (∀ a b c, deletionRank a b ≠ .gt → deletionRank b c ≠ .gt → deletionRank a c ≠ .gt) ∧
      (∀ a b, goesBefore a b = true ↔ deletionRank a b = .lt) ∧
      ∀ a b moment, a.createdAt = some moment → b.createdAt = none →
        a.isDeleting = b.isDeleting → a.isProvisioned = b.isProvisioned →
        deletionRank a b = .lt) ∧
    ∀ w : World StampedStore ι, w.store.Built →
      required.toNat < (w.store.owned request.owner).length →
      ∃ gone, w.store.Chooses request.owner required.toNat gone ∧
        (∀ c ∈ (o.syncClaims request required).calls StampedStore.serve w,
          c.operation = .deleteNodeClaim →
            ∃ v ∈ gone, v.isDeleting = false ∧ c = .deleteNodeClaim v.name) ∧
        ∀ sync after,
          (o.syncClaims request required).run StampedStore.serve w = (.ok sync, after) →
          sync.deleted = gone.map NodeClaim.name ∧
          ∀ v ∈ gone, v.isDeleting = false →
            .deleteNodeClaim v.name ∈
              (o.syncClaims request required).calls StampedStore.serve w := by
  refine ⟨⟨fun _ => Std.ReflCmp.compare_self, fun _ _ => Std.OrientedCmp.eq_swap,
    fun _ _ _ => Std.TransCmp.le_trans, fun _ _ => goesBefore_iff,
    fun _ _ _ => deletionRank_of_older⟩, ?_⟩
  intro w built surplus
  refine ⟨_, chooses_victims built.keyed request.owner required.toNat, ?_, ?_⟩
  · exact fun c called deletes => o.victim_of_deletion request required surplus called deletes
  · exact fun sync after ended => o.deleted_of_ok request required surplus ended

/-- Of a claim with a node and one without, the latter goes, though it is the last by name. -/
theorem syncClaims_victims_of_two :
    let o : Orchestrator := { dialect := .azure, config := { cloudProvider := .azure } }
    let request : NodeRequest := .new ⟨"phi", "ai"⟩ "Standard_NC24ads_A100_v4"
    let bound : NodeClaim :=
      { metadata := { name := some "a", labels := some request.owner.ownerLabels }
        spec := {}
        status := some { nodeName := some "gpu-1" } }
    let pending : NodeClaim :=
      { metadata := { name := some "b", labels := some request.owner.ownerLabels }, spec := {} }
    let store := (({} : Store).insertNodeClaim bound).insertNodeClaim pending
    let w : World StampedStore := { cluster := { store, nextStamp := ⟨0, 0⟩ }, ids := ⟨0⟩ }
    w.store.Built ∧ (w.store.owned request.owner).length = 2 ∧
      ∃ sync after, (o.syncClaims request 1).run StampedStore.serve w = (.ok sync, after) ∧
        sync.deleted = ["b"] ∧
        .deleteNodeClaim "b" ∈ (o.syncClaims request 1).calls StampedStore.serve w := by
  intro o request bound pending store w
  have built : w.store.Built := .insertNodeClaim pending (.insertNodeClaim bound .empty)
  have owned : w.store.owned request.owner = [bound, pending] := by decide +kernel
  have surplus : (1 : UInt32).toNat < (w.store.owned request.owner).length := by
    rw [owned]
    decide
  have listed : ((o.listClaims request.owner).run StampedStore.serve w).1 = .ok _ :=
    o.run_listClaims_of_unstopped request.owner rfl
  obtain ⟨run, -⟩ := o.run_syncClaims_surplus request 1 (Nat.le_of_lt surplus) listed
  obtain ⟨deleted, -⟩ := run_deleteEach (victims (w.store.owned request.owner) (1 : UInt32).toNat)
    (o.run_listClaims request.owner w).1.deletions
  obtain ⟨sync, succeeded⟩ : ∃ sync,
      ((o.syncClaims request 1).run StampedStore.serve w).1 = .ok sync := by
    rw [run, deleted]
    exact ⟨_, rfl⟩
  have ended : (o.syncClaims request 1).run StampedStore.serve w = (.ok sync, _) :=
    Prod.ext succeeded rfl
  obtain ⟨gone, chooses, -, success⟩ := (o.syncClaims_victims request 1).2 w built surplus
  obtain ⟨names, calls⟩ := success sync _ ended
  obtain ⟨v, rfl⟩ : ∃ v, gone = [v] := by
    refine List.length_eq_one_iff.mp (chooses.surplus.trans ?_)
    rw [owned]
    rfl
  have last : v = pending := by
    have member := chooses.owned v (List.mem_singleton_self v)
    rw [owned] at member
    rcases List.mem_pair.mp member with rfl | rfl
    · have stays : pending ∉ [bound] := by decide +kernel
      have listedToo : pending ∈ w.store.owned request.owner := by
        rw [owned]
        exact List.mem_cons_of_mem _ (List.mem_singleton_self _)
      have absurd := chooses.provisioned bound (List.mem_singleton_self _) pending listedToo stays
        rfl rfl
      cases absurd
    · rfl
  subst last
  refine ⟨built, by rw [owned]; rfl, sync, _, ended, names, ?_⟩
  exact calls pending (List.mem_singleton_self _) rfl

end Orchestrator

end NodeSupply
