import NodeSupply.Proofs.Backoff.Attempts

/-! How often an operation is tried, and listing in particular: it takes one waiting failure with each
attempt and nothing else, so that it succeeds exactly if fewer failures wait than it has attempts. -/

namespace NodeSupply

variable {ι : Type} [IdSource ι]

namespace Store

/-- The store after some listings: each took a failure, if one was left, and was counted. -/
def afterListings (s : Store) (listings : Nat) : Store :=
  { s with
    failures := update s.failures .listNodeClaims ((s.failures .listNodeClaims).drop listings)
    calls := update s.calls .listNodeClaims (s.calls .listNodeClaims + listings) }

theorem afterListings_zero (s : Store) : s.afterListings 0 = s := by
  rw [afterListings, List.drop_zero, Nat.add_zero, update_eq_self rfl, update_eq_self rfl]

/-- A listing comes to the failure that waits for it, or to the matching claims. -/
theorem perform_listing (s : Store) (stamp : Stamp) (selector : LabelSet) (listings : Nat) :
    (s.afterListings listings).perform stamp (.listNodeClaims selector) =
      (match (s.failures .listNodeClaims)[listings]? with
        | some code => .error (injected .listNodeClaims code)
        | none => .ok (s.matchingClaims selector),
        s.afterListings (listings + 1)) := by
  have queue : (s.afterListings listings).failures .listNodeClaims =
      (s.failures .listNodeClaims).drop listings := by
    simp only [afterListings, update_at]
  have next : (s.failures .listNodeClaims)[listings]? =
      ((s.failures .listNodeClaims).drop listings).head? := List.head?_drop.symm
  have rest : (s.failures .listNodeClaims).drop (listings + 1) =
      ((s.failures .listNodeClaims).drop listings).tail := List.tail_drop.symm
  rcases perform_cases (s.afterListings listings) stamp (.listNodeClaims selector) with
    ⟨code, later, waiting, stopped⟩ | ⟨free, served⟩
  · rw [Call.operation, queue] at waiting
    rw [stopped, next, waiting]
    simp only [afterListings, counted, Call.operation, List.head?_cons, List.tail_cons,
      update_update, update_at, rest, waiting, Nat.add_assoc]
  · rw [Call.operation, queue] at free
    rw [served, next, free]
    simp only [afterListings, counted, Call.operation, serve, matchingClaims, List.head?_nil,
      List.tail_nil, update_update, update_at, rest, free, Nat.add_assoc]

end Store

namespace Orchestrator

open Backoff

variable (o : Orchestrator) (owner : WorkloadRef) (w : World StampedStore ι)

/-- One attempt at listing. -/
def listOnce : StateM (World StampedStore ι) (Except ClusterFault (List NodeClaim)) :=
  transition StampedStore.serve (Program.call (.listNodeClaims owner.ownerLabels))

/-- A pause between two attempts. -/
def pauseFor (d : Duration) : StateM (World StampedStore ι) Unit :=
  transition StampedStore.serve (Program.pause d)

theorem run_listOnce {v : World StampedStore ι} {listings : Nat}
    (listed : v.store = w.store.afterListings listings) :
    ((listOnce owner).run v).1 =
        (match (w.store.failures .listNodeClaims)[listings]? with
          | some code => .error (Store.injected .listNodeClaims code)
          | none => .ok (w.store.owned owner)) ∧
      ((listOnce owner).run v).2.store = w.store.afterListings (listings + 1) := by
  have performed : (v.store.perform v.cluster.stamp (.listNodeClaims owner.ownerLabels)) = _ :=
    listed ▸ w.store.perform_listing v.cluster.stamp owner.ownerLabels listings
  exact ⟨congrArg Prod.fst performed, congrArg Prod.snd performed⟩

/-- Pauses leave the store alone, so each attempt at listing finds it as the ones before left it. -/
theorem store_before (listings : Nat) :
    (o.listBackoff.stateBefore pauseFor (listOnce owner) w listings).store =
      w.store.afterListings listings := by
  induction listings with
  | zero => exact w.store.afterListings_zero.symm
  | succ listings ih =>
      have paused : ∀ (v : World StampedStore ι) (d : Duration),
          ((pauseFor d).run v).2.store = v.store := by
        intro v d
        have kept : ((Program.pause d).run StampedStore.serve v).2.cluster = v.cluster :=
          v.perform_cluster_of_quiet StampedStore.serve (e := .pause d) rfl
        exact congrArg StampedStore.store kept
      rw [stateBefore, paused]
      exact (run_listOnce owner w ih).2

theorem outcomeAt_listing (listings : Nat) :
    o.listBackoff.outcomeAt pauseFor (listOnce owner) w listings =
      match (w.store.failures .listNodeClaims)[listings]? with
      | some code => .error (Store.injected .listNodeClaims code)
      | none => .ok (w.store.owned owner) :=
  (run_listOnce owner w (o.store_before owner w listings)).1

/-- The last attempt at listing is the first that no failure waits for, if there are so many. -/
theorem isLast_listing :
    o.listBackoff.IsLast (fun _ => true) (o.listBackoff.outcomeAt pauseFor (listOnce owner) w)
      (min (w.store.failures .listNodeClaims).length (o.listBackoff.attempts - 1)) := by
  have positive := o.listBackoff.attempts_pos
  constructor
  · rcases Nat.lt_or_ge (w.store.failures .listNodeClaims).length o.listBackoff.attempts with
      few | many
    · rw [Nat.min_eq_left (Nat.le_sub_one_of_lt few)]
      refine .inl ⟨w.store.owned owner, ?_⟩
      rw [outcomeAt_listing, List.getElem?_eq_none (Nat.le_refl _)]
    · refine .inr (.inr ?_)
      rw [Nat.min_eq_right (by omega), Nat.sub_add_cancel positive]
  · intro k earlier ends
    obtain ⟨waiting, left⟩ := Nat.lt_min.mp earlier
    rw [EndsAt, outcomeAt_listing, List.getElem?_eq_getElem waiting] at ends
    rcases ends with ⟨_, success⟩ | ⟨_, -, final⟩ | exhausted
    · cases success
    · cases final
    · omega

theorem run_listClaims_eq :
    let waiting := w.store.failures .listNodeClaims
    ((o.listClaims owner).run StampedStore.serve w).1 =
        (match waiting[o.listBackoff.attempts - 1]? with
          | some code => .error (.cluster (Store.injected .listNodeClaims code))
          | none => .ok (w.store.owned owner)) ∧
      ((o.listClaims owner).run StampedStore.serve w).2.store =
        w.store.afterListings (min waiting.length (o.listBackoff.attempts - 1) + 1) := by
  intro waiting
  have attempts : (o.listBackoff.run Program.pause (fun _ => true)
      (Program.call (.listNodeClaims owner.ownerLabels))).run StampedStore.serve w =
      (listOnce owner).run (o.listBackoff.stateBefore pauseFor (listOnce owner) w
        (min waiting.length (o.listBackoff.attempts - 1))) :=
    (run_run_program StampedStore.serve _ w).trans (run_run_of_isLast (o.isLast_listing owner w))
  obtain ⟨outcome, store⟩ := run_listOnce owner w
    (o.store_before owner w (min waiting.length (o.listBackoff.attempts - 1)))
  have same : waiting[min waiting.length (o.listBackoff.attempts - 1)]? =
      waiting[o.listBackoff.attempts - 1]? := by
    rcases Nat.le_total waiting.length (o.listBackoff.attempts - 1) with few | many
    · rw [Nat.min_eq_left few, List.getElem?_eq_none few, List.getElem?_eq_none (Nat.le_refl _)]
    · rw [Nat.min_eq_right many]
  rw [listClaims, Program.run_bind, attempts, outcome, same]
  cases waiting[o.listBackoff.attempts - 1]? with
  | some code => exact ⟨rfl, store⟩
  | none => exact ⟨rfl, store⟩

/-- The number of attempts. For any sequence of outcomes there is a last attempt, and the run makes the
attempts up to it with the first pauses of the schedule between them, and comes to what the last one
comes to; so does the loop that counts in 32 bits, which never overflows. Listing therefore succeeds
exactly if fewer failures wait for it than it has attempts, takes one of them with each attempt, and
else comes to the last failure it took. -/
theorem attempts_exact {ε α : Type} (b : Backoff) (retriable : ε → Bool)
    (outcomes : Nat → Except ε α) :
    (∃ i < b.attempts, b.IsLast retriable outcomes i ∧
      (b.run writePause retriable (attempt outcomes)).run [] = (outcomes i, b.journalTo i) ∧
      (b.counted retriable writePause (attempt outcomes)).run [] =
        (some (outcomes i), b.journalTo i)) ∧
    ∀ (o : Orchestrator) (owner : WorkloadRef) (w : World StampedStore ι),
      let waiting := w.store.failures .listNodeClaims
      let listing := (o.listClaims owner).run StampedStore.serve w
      ((∃ claims, listing.1 = .ok claims) ↔ waiting.length < o.listBackoff.attempts) ∧
      listing.1 =
        (match waiting[o.listBackoff.attempts - 1]? with
          | some code => .error (.cluster (Store.injected .listNodeClaims code))
          | none => .ok (w.store.owned owner)) ∧
      listing.2.store =
        { w.store with
          failures := Store.update w.store.failures .listNodeClaims
            (waiting.drop (min waiting.length o.listBackoff.attempts))
          calls := Store.update w.store.calls .listNodeClaims
            (w.store.calls .listNodeClaims +
              min (waiting.length + 1) o.listBackoff.attempts) } := by
  constructor
  · obtain ⟨i, inTime, last⟩ := b.exists_isLast retriable outcomes
    have ran := run_of_outcomes last
    refine ⟨i, inTime, last, ran, ?_⟩
    rw [counted_eq, StateT.run_map, ran]
    rfl
  · intro o owner w waiting listing
    have positive := o.listBackoff.attempts_pos
    obtain ⟨result, store⟩ := o.run_listClaims_eq owner w
    refine ⟨o.listClaims_isOk_iff owner w, result, ?_⟩
    change listing.2.store = _ at store
    have attempts : min waiting.length (o.listBackoff.attempts - 1) + 1 =
        min (waiting.length + 1) o.listBackoff.attempts := by omega
    have taken : waiting.drop (min (waiting.length + 1) o.listBackoff.attempts) =
        waiting.drop (min waiting.length o.listBackoff.attempts) := by
      rcases Nat.lt_or_ge waiting.length o.listBackoff.attempts with few | many
      · rw [List.drop_of_length_le (by omega), List.drop_of_length_le (by omega)]
      · rw [Nat.min_eq_right (by omega), Nat.min_eq_right many]
    rw [store, attempts, Store.afterListings, taken]

end Orchestrator

end NodeSupply
