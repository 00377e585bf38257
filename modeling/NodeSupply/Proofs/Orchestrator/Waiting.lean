import Mathlib.Algebra.Order.Floor.Div
import NodeSupply.Orchestrator
import NodeSupply.Proofs.Program.Clock
import NodeSupply.Proofs.Program.Steps

/-! Waiting for one claim. Whatever the looks at the claim come back with, the wait ends at the first
answer that settles it, at the deadline or on cancellation, and the moment of its end and the number
of its looks follow from which of these comes first. -/

namespace NodeSupply

variable {σ ι : Type}

namespace Orchestrator

/-! ### Answers -/

/-- The cluster after a number of looks at a claim. -/
def looked (serve : Server σ) (name : String) (cluster : σ) : Nat → σ
  | 0 => cluster
  | looks + 1 => (serve (.getNodeClaim name) (looked serve name cluster looks)).2

/-- What a look comes back with; the first look has number zero. -/
def answer (serve : Server σ) (name : String) (cluster : σ) (look : Nat) :
    Except ClusterFault NodeClaim :=
  (serve (.getNodeClaim name) (looked serve name cluster look)).1

/-- The answers that settle a wait, each with the result that it settles it with. -/
inductive Settles (name : String) : Except ClusterFault NodeClaim → Except Failure NodeClaim → Prop
  | fault (fault : ClusterFault) : Settles name (.error fault) (.error (.cluster fault))
  | ready (claim : NodeClaim) : claim.isReady = true → Settles name (.ok claim) (.ok claim)
  | unavailable (claim : NodeClaim) (message : String) : claim.isReady = false →
      claim.unavailableMessage? = some message →
      Settles name (.ok claim)
        (.error (.instanceTypeUnavailable name (claim.instanceTypes.head?.getD "") message))

theorem Settles.verdict {name : String} {claim : NodeClaim} {result : Except Failure NodeClaim}
    (settles : Settles name (.ok claim) result) : verdict? name claim = some result := by
  cases settles with
  | ready _ ready => rw [verdict?, if_pos ready]
  | unavailable _ message waiting failed =>
      rw [verdict?, if_neg (Bool.eq_false_iff.mp waiting), failed]
      rfl

theorem Settles.unique {name : String} {answer : Except ClusterFault NodeClaim}
    {result other : Except Failure NodeClaim} (first : Settles name answer result)
    (second : Settles name answer other) : result = other := by
  cases answer with
  | error fault =>
      cases first
      cases second
      rfl
  | ok claim => exact Option.some.inj (first.verdict.symm.trans second.verdict)

/-- An answer that leaves a wait open. -/
def Unsettled (name : String) (answer : Except ClusterFault NodeClaim) : Prop :=
  ∀ result, ¬ Settles name answer result

theorem Unsettled.claim {name : String} {answer : Except ClusterFault NodeClaim}
    (unsettled : Unsettled name answer) :
    ∃ claim, answer = .ok claim ∧ verdict? name claim = none := by
  cases answer with
  | error fault => exact (unsettled _ (.fault fault)).elim
  | ok claim =>
      refine ⟨claim, rfl, ?_⟩
      have waiting : claim.isReady = false := by
        cases ready : claim.isReady with
        | false => rfl
        | true => exact (unsettled _ (.ready claim ready)).elim
      rw [verdict?, if_neg (Bool.eq_false_iff.mp waiting)]
      cases failed : claim.unavailableMessage? with
      | none => rfl
      | some message => exact (unsettled _ (.unavailable claim message waiting failed)).elim

theorem unsettled_of_verdict {name : String} {claim : NodeClaim}
    (undecided : verdict? name claim = none) : Unsettled name (.ok claim) := by
  intro result settles
  rw [settles.verdict] at undecided
  cases undecided

/-! ### What a wait comes to -/

/-- What a wait comes to that is not cancelled, after how many milliseconds and looks: what the first
answer says that settles it, or a timeout if none does before the deadline. -/
inductive Undisturbed (name : String) (limit : Duration) (answers : Nat → Except ClusterFault NodeClaim)
    (interval deadline : Nat) : Except Failure NodeClaim → Nat → Nat → Prop
  | settled (i : Nat) (result : Except Failure NodeClaim) : i < deadline ⌈/⌉ interval →
      (∀ k < i, Unsettled name (answers k)) → Settles name (answers i) result →
      Undisturbed name limit answers interval deadline result (i * interval) (i + 1)
  | timedOut : (∀ k < deadline ⌈/⌉ interval, Unsettled name (answers k)) →
      Undisturbed name limit answers interval deadline (.error (.timeout name limit)) deadline
        (deadline ⌈/⌉ interval)

theorem Undisturbed.exists (name : String) (limit : Duration)
    (answers : Nat → Except ClusterFault NodeClaim) (interval deadline : Nat) :
    ∃ result time looks, Undisturbed name limit answers interval deadline result time looks := by
  classical
  by_cases unsettled : ∀ k < deadline ⌈/⌉ interval, Unsettled name (answers k)
  · exact ⟨_, _, _, .timedOut unsettled⟩
  · have present : ∃ k, k < deadline ⌈/⌉ interval ∧ ¬ Unsettled name (answers k) := by
      push Not at unsettled
      exact unsettled
    obtain ⟨below, settled⟩ := Nat.find_spec present
    obtain ⟨result, settles⟩ := not_forall_not.mp settled
    refine ⟨_, _, _, .settled (Nat.find present) result below ?_ settles⟩
    intro k earlier
    by_contra early
    exact Nat.find_min present earlier ⟨Nat.lt_trans earlier below, early⟩

/-- The first answer that settles a wait fixes all that it comes to. -/
theorem Undisturbed.unique {name : String} {limit : Duration}
    {answers : Nat → Except ClusterFault NodeClaim} {interval d time time' looks looks' : Nat}
    {result result' : Except Failure NodeClaim}
    (first : Undisturbed name limit answers interval d result time looks)
    (second : Undisturbed name limit answers interval d result' time' looks') :
    result = result' ∧ time = time' ∧ looks = looks' := by
  cases first with
  | settled i _ below unsettled settles =>
      cases second with
      | settled j _ _ unsettled' settles' =>
          obtain rfl : i = j := by
            rcases Nat.lt_trichotomy i j with earlier | same | later
            · exact (unsettled' i earlier _ settles).elim
            · exact same
            · exact (unsettled j later _ settles').elim
          exact ⟨settles.unique settles', rfl, rfl⟩
      | timedOut unsettled' => exact (unsettled' i below _ settles).elim
  | timedOut unsettled =>
      cases second with
      | settled j _ below _ settles => exact (unsettled j below _ settles).elim
      | timedOut _ => exact ⟨rfl, rfl, rfl⟩

section Undisturbed

variable {name : String} {limit : Duration} {answers : Nat → Except ClusterFault NodeClaim}
  {interval d time looks : Nat} {result : Except Failure NodeClaim}

theorem lt_ceilDiv_iff (positive : 0 < interval) {i : Nat} :
    i < d ⌈/⌉ interval ↔ i * interval < d := by
  rw [← not_le, ceilDiv_le_iff_le_mul positive, not_le, Nat.mul_comm]

variable (positive : 0 < interval)
  (outcome : Undisturbed name limit answers interval d result time looks)

include positive outcome

theorem Undisturbed.time_le : time ≤ d := by
  cases outcome with
  | settled i _ below _ _ => exact Nat.le_of_lt ((lt_ceilDiv_iff positive).mp below)
  | timedOut _ => exact Nat.le_refl d

/-- No look before the end of a wait settles it. -/
theorem Undisturbed.unsettled {k : Nat} (before : k * interval < time) :
    Unsettled name (answers k) := by
  cases outcome with
  | settled i _ _ unsettled _ => exact unsettled k (Nat.lt_of_mul_lt_mul_right before)
  | timedOut unsettled => exact unsettled k ((lt_ceilDiv_iff positive).mpr before)

end Undisturbed

/-! ### The times of looks -/

/-- The time from one look to the next, in nanoseconds. -/
def pollLength (o : Orchestrator) : Nat := o.config.wait.pollInterval.pauseLength

/-- The world after some looks. -/
def afterLooks (o : Orchestrator) (serve : Server σ) (name : String) (w : World σ ι) (looks : Nat) :
    World σ ι :=
  { w with cluster := looked serve name w.cluster looks, clock := w.clock + looks * o.pollLength }

/-- The world after a look and the rest behind it. -/
def rested (serve : Server σ) (name : String) (v : World σ ι) (moment : Nat) : World σ ι :=
  { v with cluster := (serve (.getNodeClaim name) v.cluster).2, clock := max v.clock moment }

section Times

variable {o : Orchestrator} {name : String} {serve : Server σ} {w : World σ ι}

theorem afterLooks_zero : o.afterLooks serve name w 0 = w := by
  unfold afterLooks
  rw [Nat.zero_mul]
  rfl

theorem rested_afterLooks (looks : Nat) :
    rested serve name (o.afterLooks serve name w looks)
        ((o.afterLooks serve name w looks).clock + o.pollLength) =
      o.afterLooks serve name w (looks + 1) := by
  unfold rested afterLooks
  rw [Nat.succ_mul, ← Nat.add_assoc, Nat.max_eq_right (Nat.le_add_right _ _)]
  rfl

theorem afterLooks_onTick (onTick : World.tick ∣ w.clock) (pauses : World.tick ∣ o.pollLength)
    (looks : Nat) : World.tick ∣ (o.afterLooks serve name w looks).clock :=
  Nat.dvd_add onTick (Nat.dvd_mul_left_of_dvd pauses looks)

end Times

/-- A wait whose looks come every `interval` milliseconds until a deadline after `d` milliseconds, and
which starts on a whole one. -/
structure InMillis (o : Orchestrator) (w : World σ ι) (interval d : Nat) : Prop where
  length : o.pollLength = interval * World.tick
  limit : o.config.wait.deadline.nanos = d * World.tick
  positive : 0 < interval
  lasting : 0 < d
  onTick : World.tick ∣ w.clock

namespace InMillis

variable {o : Orchestrator} {w : World σ ι} {interval d : Nat}

theorem of_config {p : Nat} (poll : o.config.wait.pollInterval.nanos = p * World.tick)
    (limit : o.config.wait.deadline.nanos = d * World.tick) (positive : 0 < p) (longer : p < d)
    (onTick : World.tick ∣ w.clock) : InMillis o w (min p 946080000000) d where
  length := by
    have longest : longestPause.nanos = 946080000000 * World.tick := by decide
    rw [pollLength, Duration.pauseLength, poll, longest, Nat.mul_min_mul_right]
  limit := limit
  positive := by omega
  lasting := Nat.zero_lt_of_lt longer
  onTick := onTick

variable (millis : InMillis o w interval d)

include millis

theorem pauses : World.tick ∣ o.pollLength := millis.length ▸ Nat.dvd_mul_left _ _

theorem pollLength_pos : 0 < o.pollLength := millis.length ▸ Nat.mul_pos millis.positive (by decide)

theorem whole : World.tick ∣ w.clock + o.config.wait.deadline.nanos :=
  Nat.dvd_add millis.onTick (millis.limit ▸ Nat.dvd_mul_left _ _)

theorem mul_pollLength (i : Nat) : i * o.pollLength = i * interval * World.tick := by
  rw [millis.length, Nat.mul_assoc]

theorem first_inTime : 0 * interval < d := by
  rw [Nat.zero_mul]
  exact millis.lasting

theorem inTime {i : Nat} (before : i * interval < d) :
    i * o.pollLength < o.config.wait.deadline.nanos := by
  rw [millis.mul_pollLength, millis.limit]
  exact Nat.mul_lt_mul_of_pos_right before (by decide)

end InMillis

/-! ### One look -/

variable [IdSource ι] {o : Orchestrator} {name : String} {deadline : Nat} {serve : Server σ} {v : World σ ι}

theorem lookUntil_interrupted (looks : Nat) {cause : Interruption}
    (stops : v.interruption deadline = some cause) :
    (o.lookUntil name deadline (looks + 1)).Ends serve v (.error (o.interrupted name cause))
      v.clock [] := by
  have asked : (Program.interruption deadline).run serve v = (some cause, v) :=
    congrArg (·, v) stops
  unfold lookUntil
  exact .bind asked ⟨rfl, rfl, rfl⟩

/-- A look with an answer that settles the wait is the last one. -/
theorem lookUntil_settled (looks : Nat) {result : Except Failure NodeClaim}
    (going : v.interruption deadline = none)
    (settles : Settles name (serve (.getNodeClaim name) v.cluster).1 result) :
    (o.lookUntil name deadline (looks + 1)).Ends serve v result v.clock [.getNodeClaim name] := by
  have asked : (Program.interruption deadline).run serve v = (none, v) := congrArg (·, v) going
  unfold lookUntil
  refine Program.Ends.bind asked (.bind (Program.run_call serve _ v) ?_)
  cases found : (serve (.getNodeClaim name) v.cluster).1 with
  | error fault =>
      rw [found] at settles
      cases settles
      exact ⟨rfl, rfl, rfl⟩
  | ok claim =>
      rw [found] at settles
      dsimp only
      rw [settles.verdict]
      exact ⟨rfl, rfl, rfl⟩

theorem lookUntil_unsettled {looks moment later : Nat} {cause : Option Interruption}
    {result : Except Failure NodeClaim} {calls : List Call}
    (going : v.interruption deadline = none)
    (unsettled : Unsettled name (serve (.getNodeClaim name) v.cluster).1)
    (rests : v.restEnd o.config.wait.pollInterval deadline = (moment, cause))
    (rest : Program.Ends serve
      (match cause with
        | some cause => .done (.error (o.interrupted name cause))
        | none => o.lookUntil name deadline looks)
      (rested serve name v moment) result later calls) :
    (o.lookUntil name deadline (looks + 1)).Ends serve v result later
      (.getNodeClaim name :: calls) := by
  have asked : (Program.interruption deadline).run serve v = (none, v) := congrArg (·, v) going
  obtain ⟨claim, found, undecided⟩ := unsettled.claim
  unfold lookUntil
  refine Program.Ends.bind asked (.bind (Program.run_call serve _ v) ?_)
  rw [found]
  dsimp only
  rw [undecided]
  exact .bind (World.perform_rest serve rests) rest

/-! ### Which calls are made -/

theorem makes_lookUntil (o : Orchestrator) (name : String) (deadline looks : Nat) :
    (o.lookUntil name deadline looks).Makes fun c => c = .getNodeClaim name := by
  induction looks with
  | zero => trivial
  | succ looks ih =>
      have called : (Program.call (.getNodeClaim name)).Makes fun c => c = .getNodeClaim name :=
        Program.makes_call rfl
      unfold lookUntil
      refine (Program.makes_perform rfl).bind ?_
      rintro (_ | cause)
      · refine called.bind ?_
        rintro (fault | claim)
        · trivial
        · dsimp only
          split
          · trivial
          · refine (Program.makes_perform rfl).bind ?_
            rintro (_ | cause)
            · exact ih
            · trivial
      · trivial

theorem makes_waitForReady (o : Orchestrator) (name : String) :
    (o.waitForReady name).Makes fun c => c = .getNodeClaim name :=
  (Program.makes_perform rfl).bind fun _ => o.makes_lookUntil name _ _

theorem makes_waitForEach (o : Orchestrator) (claims : List NodeClaim) :
    (o.waitForEach claims).Makes fun c => ∃ claim ∈ claims, c = .getNodeClaim claim.name := by
  induction claims with
  | nil => trivial
  | cons claim rest ih =>
      refine Program.Makes.andThen ((o.makes_waitForReady claim.name).mono ?_) fun _ => ih.mono ?_
      · rintro c rfl
        exact ⟨claim, List.mem_cons_self, rfl⟩
      · rintro c ⟨other, member, rfl⟩
        exact ⟨other, List.mem_cons_of_mem _ member, rfl⟩

/-! ### One look after the other -/

section Run

variable {w : World σ ι}

variable (onTick : World.tick ∣ w.clock) (pauses : World.tick ∣ o.pollLength)
  (whole : World.tick ∣ deadline)

include onTick pauses whole

/-- As long as no answer settles the wait, and neither the deadline nor cancellation has come, one look
follows the other. -/
theorem lookUntil_goes_on (i looks : Nat) {result : Except Failure NodeClaim} {moment : Nat}
    {calls : List Call} (unsettled : ∀ k < i, Unsettled name (answer serve name w.cluster k))
    (before : w.clock + i * o.pollLength < deadline)
    (quiet : w.QuietUntil (w.clock + i * o.pollLength))
    (ends : (o.lookUntil name deadline looks).Ends serve (o.afterLooks serve name w i) result moment
      calls) :
    (o.lookUntil name deadline (looks + i)).Ends serve w result moment
      (List.replicate i (.getNodeClaim name) ++ calls) := by
  induction i generalizing looks calls with
  | zero =>
      rw [afterLooks_zero] at ends
      exact ends
  | succ i ih =>
      rw [Nat.succ_mul, ← Nat.add_assoc] at before quiet
      have earlier : w.clock + i * o.pollLength ≤ w.clock + i * o.pollLength + o.pollLength :=
        Nat.le_add_right _ _
      have going : (o.afterLooks serve name w i).interruption deadline = none :=
        World.interruption_of_quiet (quiet.mono earlier) whole (Nat.lt_of_le_of_lt earlier before)
      have rests : (o.afterLooks serve name w i).restEnd o.config.wait.pollInterval deadline =
          ((o.afterLooks serve name w i).clock + o.pollLength, none) :=
        World.restEnd_wakes (afterLooks_onTick onTick pauses i) pauses whole quiet before
      -- The last of the looks joins the run that comes behind, so the looks are taken off at the end.
      have step : (o.lookUntil name deadline (looks + 1)).Ends serve
          (o.afterLooks serve name w i) result moment (.getNodeClaim name :: calls) := by
        refine lookUntil_unsettled going (unsettled i (Nat.lt_succ_self i)) rests ?_
        rw [rested_afterLooks]
        exact ends
      have all := ih (looks + 1) (fun k below => unsettled k (Nat.lt_succ_of_lt below))
        (Nat.lt_of_le_of_lt earlier before) (quiet.mono earlier) step
      rw [List.replicate_succ', List.append_assoc, Nat.add_comm i 1, ← Nat.add_assoc]
      exact all

/-- A wait that an answer settles ends with the look that brings it. -/
theorem lookUntil_ends_settled (i looks : Nat) {result : Except Failure NodeClaim}
    (unsettled : ∀ k < i, Unsettled name (answer serve name w.cluster k))
    (settles : Settles name (answer serve name w.cluster i) result)
    (before : w.clock + i * o.pollLength < deadline)
    (quiet : w.QuietUntil (w.clock + i * o.pollLength)) :
    (o.lookUntil name deadline (looks + 1 + i)).Ends serve w result (w.clock + i * o.pollLength)
      (List.replicate (i + 1) (.getNodeClaim name)) := by
  have going : (o.afterLooks serve name w i).interruption deadline = none :=
    World.interruption_of_quiet quiet whole before
  have last := lookUntil_settled (o := o) looks going settles
  rw [List.replicate_succ']
  exact lookUntil_goes_on onTick pauses whole i (looks + 1) unsettled before quiet last

/-- A wait that is interrupted during a rest ends then. -/
theorem lookUntil_ends_interrupted (i looks : Nat) {moment : Nat} {cause : Interruption}
    (unsettled : ∀ k < i + 1, Unsettled name (answer serve name w.cluster k))
    (before : w.clock + i * o.pollLength < deadline)
    (quiet : w.QuietUntil (w.clock + i * o.pollLength))
    (rests : (o.afterLooks serve name w i).restEnd o.config.wait.pollInterval deadline =
      (moment, some cause))
    (later : w.clock + i * o.pollLength ≤ moment) :
    (o.lookUntil name deadline (looks + 1 + i)).Ends serve w (.error (o.interrupted name cause))
      moment (List.replicate (i + 1) (.getNodeClaim name)) := by
  have going : (o.afterLooks serve name w i).interruption deadline = none :=
    World.interruption_of_quiet quiet whole before
  have last : (o.lookUntil name deadline (looks + 1)).Ends serve (o.afterLooks serve name w i)
      (.error (o.interrupted name cause)) moment [.getNodeClaim name] :=
    lookUntil_unsettled going (unsettled i (Nat.lt_succ_self i)) rests
      ⟨rfl, Nat.max_eq_right later, rfl⟩
  rw [List.replicate_succ']
  exact lookUntil_goes_on onTick pauses whole i (looks + 1)
    (fun k below => unsettled k (Nat.lt_succ_of_lt below)) before quiet last

end Run

/-! ### The whole wait -/

section Whole

variable {w : World σ ι} {interval d time looks : Nat} {result : Except Failure NodeClaim}

/-- The looks that a wait allows for are enough for all that begin before the deadline. -/
theorem waitForReady_of_lookUntil (millis : InMillis o w interval d) (i : Nat) {moment : Nat}
    {calls : List Call} (before : i * interval < d)
    (ends : ∀ looks, (o.lookUntil name (w.clock + o.config.wait.deadline.nanos)
      (looks + 1 + i)).Ends serve w result moment calls) :
    (o.waitForReady name).Ends serve w result moment calls := by
  have most : i ≤ o.config.wait.deadline.nanos / o.pollLength :=
    (Nat.le_div_iff_mul_le millis.pollLength_pos).mpr (Nat.le_of_lt (millis.inTime before))
  have enough : mostLooks o.config.wait =
      (o.config.wait.deadline.nanos / o.pollLength - i) + 1 + i := by
    change o.config.wait.deadline.nanos / o.pollLength + 1 = _
    omega
  have started : Program.now.run serve w = (w.clock, w) := rfl
  unfold waitForReady
  refine .bind started ?_
  rw [enough]
  exact ends _

theorem waitForReady_interrupted (millis : InMillis o w interval d) (i : Nat) {moment : Nat}
    {cause : Interruption} (before : i * interval < d)
    (unsettled : ∀ k < i + 1, Unsettled name (answer serve name w.cluster k))
    (quiet : w.QuietUntil (w.clock + i * o.pollLength))
    (rests : (o.afterLooks serve name w i).restEnd o.config.wait.pollInterval
      (w.clock + o.config.wait.deadline.nanos) = (moment, some cause))
    (later : w.clock + i * o.pollLength ≤ moment) :
    (o.waitForReady name).Ends serve w (.error (o.interrupted name cause)) moment
      (List.replicate (i + 1) (.getNodeClaim name)) := by
  refine waitForReady_of_lookUntil millis i before ?_
  intro looks
  exact lookUntil_ends_interrupted millis.onTick millis.pauses millis.whole i looks unsettled
    (Nat.add_lt_add_left (millis.inTime before) _) quiet rests later

/-- A wait that is not cancelled before its end. -/
theorem waitForReady_undisturbed (millis : InMillis o w interval d)
    (outcome : Undisturbed name o.config.wait.deadline (answer serve name w.cluster) interval d result
      time looks)
    (quiet : w.QuietUntil (w.clock + time * World.tick)) :
    (o.waitForReady name).Ends serve w result (w.clock + time * World.tick)
      (List.replicate looks (.getNodeClaim name)) := by
  cases outcome with
  | settled i _ below unsettled settles =>
      have before := (lt_ceilDiv_iff millis.positive).mp below
      rw [← millis.mul_pollLength] at quiet ⊢
      refine waitForReady_of_lookUntil millis i before ?_
      intro looks
      exact lookUntil_ends_settled millis.onTick millis.pauses millis.whole i looks unsettled settles
        (Nat.add_lt_add_left (millis.inTime before) _) quiet
  | timedOut unsettled =>
      have present : 0 < d ⌈/⌉ interval :=
        (lt_ceilDiv_iff millis.positive).mpr millis.first_inTime
      -- Look `i` is the last before the deadline, which comes during the rest behind it.
      obtain ⟨i, last⟩ := Nat.exists_eq_add_one.mpr present
      have before : i * interval < d :=
        (lt_ceilDiv_iff millis.positive).mp (last ▸ Nat.lt_succ_self i)
      have reached : d ≤ (i + 1) * interval := by
        rw [← not_lt, ← lt_ceilDiv_iff millis.positive, last]
        exact Nat.lt_irrefl _
      have early := Nat.add_lt_add_left (millis.inTime before) w.clock
      rw [last] at unsettled ⊢
      rw [← millis.limit] at quiet ⊢
      change Program.Ends serve (o.waitForReady name) w (.error (o.interrupted name .deadline)) _ _
      refine waitForReady_interrupted millis i before unsettled (quiet.mono (Nat.le_of_lt early)) ?_
        (Nat.le_of_lt early)
      refine World.restEnd_deadline (afterLooks_onTick millis.onTick millis.pauses i) millis.pauses
        millis.whole quiet ?_
      change _ ≤ w.clock + i * o.pollLength + o.pollLength
      rw [Nat.add_assoc, ← Nat.succ_mul, millis.mul_pollLength, millis.limit]
      exact Nat.add_le_add_left (Nat.mul_le_mul_right _ reached) _

/-- A wait that is cancelled before it starts. -/
theorem waitForReady_cancelled_before (millis : InMillis o w interval d) {moment : Nat}
    (cancels : w.cancelAt = some moment) (past : moment ≤ w.clock) :
    (o.waitForReady name).Ends serve w (.error (.cancelled name)) w.clock [] := by
  refine waitForReady_of_lookUntil millis 0 millis.first_inTime ?_
  intro looks
  exact lookUntil_interrupted looks (World.interruption_of_cancelled cancels past _)

/-- A wait that is cancelled between two looks ends then. -/
theorem waitForReady_cancelled_meanwhile (millis : InMillis o w interval d)
    (outcome : Undisturbed name o.config.wait.deadline (answer serve name w.cluster) interval d result
      time looks) {c : Nat} (cancels : w.cancelAt = some (w.clock + c))
    (before : c < time * World.tick) (between : ¬ interval * World.tick ∣ c) :
    (o.waitForReady name).Ends serve w (.error (.cancelled name)) (w.clock + c)
      (List.replicate (c / (interval * World.tick) + 1) (.getNodeClaim name)) := by
  rw [← millis.length] at between ⊢
  have start : c / o.pollLength * o.pollLength < c := by
    refine Nat.lt_of_le_of_ne (Nat.div_mul_le_self _ _) ?_
    intro same
    exact between ⟨c / o.pollLength, by rw [Nat.mul_comm, same]⟩
  have asleep : c < (c / o.pollLength + 1) * o.pollLength := by
    rw [Nat.mul_comm]
    exact Nat.lt_mul_div_succ c millis.pollLength_pos
  -- Look `i` is the last before the cancellation.
  generalize c / o.pollLength = i at start asleep ⊢
  have early : i * interval < time := by
    refine Nat.lt_of_mul_lt_mul_right (a := World.tick) ?_
    rw [← millis.mul_pollLength]
    exact Nat.lt_trans start before
  have inTime := Nat.lt_of_lt_of_le early (outcome.time_le millis.positive)
  have unsettled : ∀ k < i + 1, Unsettled name (answer serve name w.cluster k) := by
    intro k below
    refine outcome.unsettled millis.positive (Nat.lt_of_le_of_lt ?_ early)
    exact Nat.mul_le_mul_right _ (Nat.le_of_lt_succ below)
  have quiet : w.QuietUntil (w.clock + i * o.pollLength) := by
    intro moment cancelled
    rw [cancels] at cancelled
    cases cancelled
    exact Nat.add_lt_add_left start _
  change Program.Ends serve (o.waitForReady name) w (.error (o.interrupted name .cancelled)) _ _
  refine waitForReady_interrupted millis i inTime unsettled quiet ?_
    (Nat.add_le_add_left (Nat.le_of_lt start) _)
  refine World.restEnd_cancelled (afterLooks_onTick millis.onTick millis.pauses i) millis.pauses
    millis.whole cancels ?_ ?_
  · change _ ≤ w.clock + i * o.pollLength + o.pollLength
    rw [Nat.add_assoc, ← Nat.succ_mul]
    exact Nat.add_le_add_left (Nat.le_of_lt asleep) _
  · rw [millis.limit]
    refine Nat.add_le_add_left (Nat.le_of_lt (Nat.lt_of_lt_of_le before ?_)) _
    exact Nat.mul_le_mul_right _ (outcome.time_le millis.positive)

end Whole

/-- What every wait in whole milliseconds comes to. The looks come every `p` milliseconds, or every
thirty years if that is less, since no pause is longer. A wait that is not cancelled ends with the
first answer that settles it or at the deadline; one that is cancelled at the start makes no look;
one that is cancelled between two looks ends then. -/
theorem waitForReady_outcome (o : Orchestrator) (name : String) (serve : Server σ) (w : World σ ι)
    (p d : Nat) (poll : o.config.wait.pollInterval.nanos = p * World.tick)
    (limit : o.config.wait.deadline.nanos = d * World.tick) (positive : 0 < p) (longer : p < d)
    (onTick : World.tick ∣ w.clock) :
    ∃ result time looks,
      Undisturbed name o.config.wait.deadline (answer serve name w.cluster) (min p 946080000000) d
        result time looks ∧
      (w.QuietUntil (w.clock + time * World.tick) →
        (o.waitForReady name).Ends serve w result (w.clock + time * World.tick)
          (List.replicate looks (.getNodeClaim name))) ∧
      (∀ moment, w.cancelAt = some moment → moment ≤ w.clock →
        (o.waitForReady name).Ends serve w (.error (.cancelled name)) w.clock []) ∧
      ∀ c, w.cancelAt = some (w.clock + c) → c < time * World.tick →
        ¬ min p 946080000000 * World.tick ∣ c →
        (o.waitForReady name).Ends serve w (.error (.cancelled name)) (w.clock + c)
          (List.replicate (c / (min p 946080000000 * World.tick) + 1) (.getNodeClaim name)) := by
  have millis := InMillis.of_config poll limit positive longer onTick
  obtain ⟨result, time, looks, outcome⟩ := Undisturbed.exists name o.config.wait.deadline
    (answer serve name w.cluster) (min p 946080000000) d
  refine ⟨result, time, looks, outcome, ?_, ?_, ?_⟩
  · intro quiet
    exact waitForReady_undisturbed millis outcome quiet
  · intro moment cancels past
    exact waitForReady_cancelled_before millis cancels past
  · intro c cancels before between
    exact waitForReady_cancelled_meanwhile millis outcome cancels before between

/-- With the default schedule, waits for a claim that is ready at the third look: one that is left alone,
one that is cancelled half a second after the second look, and one that is cancelled at the start. -/
theorem waitForReady_outcome_of_third_look :
    let claim : NodeClaim := { metadata := { name := some "c" }, spec := {} }
    let ready := claim.withConditions [{ type := "Ready", status := "True" }]
    let o : Orchestrator := { dialect := .azure, config := { cloudProvider := .azure } }
    let store := (Store.insertNodeClaim {} claim).scriptConditions "c"
      [[], [{ type := "Launched", status := "True" }], [{ type := "Ready", status := "True" }]]
    let w (cancelAt : Option Nat) : World StampedStore :=
      { cluster := { store, nextStamp := ⟨0, 0⟩ }, ids := ⟨0⟩, clock := 7 * World.tick, cancelAt }
    Undisturbed "c" o.config.wait.deadline (answer StampedStore.serve "c" (w none).cluster)
        (min 1000 946080000000) 240000 (.ok ready) 2000 3 ∧
      (o.waitForReady "c").Ends StampedStore.serve (w none) (.ok ready) (2007 * World.tick)
        (List.replicate 3 (.getNodeClaim "c")) ∧
      (o.waitForReady "c").Ends StampedStore.serve (w (some (1507 * World.tick)))
        (.error (.cancelled "c")) (1507 * World.tick) (List.replicate 2 (.getNodeClaim "c")) ∧
      (o.waitForReady "c").Ends StampedStore.serve (w (some (7 * World.tick)))
        (.error (.cancelled "c")) (7 * World.tick) [] := by
  intro claim ready o store w
  have unsettled : ∀ k < 2, Unsettled "c" (answer StampedStore.serve "c" (w none).cluster k) := by
    intro k below
    match k with
    | 0 =>
      rw [show answer StampedStore.serve "c" (w none).cluster 0 = .ok (claim.withConditions [])
        by decide +kernel]
      exact unsettled_of_verdict rfl
    | 1 =>
      rw [show answer StampedStore.serve "c" (w none).cluster 1 =
        .ok (claim.withConditions [{ type := "Launched", status := "True" }]) by decide +kernel]
      exact unsettled_of_verdict rfl
  have settles : Settles "c" (answer StampedStore.serve "c" (w none).cluster 2) (.ok ready) := by
    rw [show answer StampedStore.serve "c" (w none).cluster 2 = .ok ready by decide +kernel]
    exact .ready ready rfl
  have expected : Undisturbed "c" o.config.wait.deadline
      (answer StampedStore.serve "c" (w none).cluster) (min 1000 946080000000) 240000 (.ok ready)
      2000 3 := .settled 2 _ (by decide) unsettled settles
  have outcome (cancelAt : Option Nat) := waitForReady_outcome o "c" StampedStore.serve (w cancelAt)
    1000 240000 (by decide) (by decide) (by decide) (by decide) (Nat.dvd_mul_left _ _)
  obtain ⟨_, _, _, found, left, -, -⟩ := outcome none
  obtain ⟨rfl, rfl, rfl⟩ := found.unique expected
  obtain ⟨_, _, _, found', -, -, meanwhile⟩ := outcome (some (1507 * World.tick))
  obtain ⟨rfl, rfl, rfl⟩ := found'.unique expected
  obtain ⟨_, _, _, -, -, before, -⟩ := outcome (some (7 * World.tick))
  have after (c : Nat) : 7 * World.tick + c * World.tick = (7 + c) * World.tick :=
    (Nat.add_mul 7 c World.tick).symm
  refine ⟨expected, ?_, ?_, ?_⟩
  · have ended := left fun _ never => nomatch never
    rwa [after 2000] at ended
  · have looks : 1500 * World.tick / (min 1000 946080000000 * World.tick) + 1 = 2 := by decide
    have ended := meanwhile (1500 * World.tick) (congrArg some (after 1500).symm) (by decide)
      (by decide)
    rwa [looks, after 1500] at ended
  · exact before _ rfl (Nat.le_refl _)

/-- Looks that are to come every thirty years and a millisecond come every thirty years. -/
theorem long_poll_is_cut :
    let claim : NodeClaim := { metadata := { name := some "c" }, spec := {} }
    let o : Orchestrator :=
      { dialect := .azure
        config :=
          { cloudProvider := .azure
            wait := { pollInterval := .ofMillis 946080000001, deadline := .ofSeconds 2000000000 } } }
    let store := (Store.insertNodeClaim {} claim).scriptConditions "c"
      [[], [{ type := "Ready", status := "True" }]]
    let w : World StampedStore := { cluster := { store, nextStamp := ⟨0, 0⟩ }, ids := ⟨0⟩ }
    Unsettled "c" (answer StampedStore.serve "c" w.cluster 0) ∧
      (∃ result, Settles "c" (answer StampedStore.serve "c" w.cluster 1) result) ∧
      1 < 2000000000000 ⌈/⌉ 946080000001 ∧
      ((o.waitForReady "c").run StampedStore.serve w).2.clock ≠
        w.clock + 1 * 946080000001 * World.tick := by
  intro claim o store w
  let ready := (claim.withConditions []).withConditions [{ type := "Ready", status := "True" }]
  have first : Unsettled "c" (answer StampedStore.serve "c" w.cluster 0) := by
    rw [show answer StampedStore.serve "c" w.cluster 0 = .ok (claim.withConditions []) from rfl]
    exact unsettled_of_verdict rfl
  have second : Settles "c" (answer StampedStore.serve "c" w.cluster 1) (.ok ready) := by
    rw [show answer StampedStore.serve "c" w.cluster 1 = .ok ready by decide +kernel]
    exact .ready ready rfl
  have outcome : Undisturbed "c" o.config.wait.deadline (answer StampedStore.serve "c" w.cluster)
      (min 946080000001 946080000000) 2000000000000 (.ok ready)
      (1 * min 946080000001 946080000000) (1 + 1) := by
    refine .settled 1 _ (by decide) ?_ second
    intro k below
    obtain rfl : k = 0 := by omega
    exact first
  have millis : InMillis o w (min 946080000001 946080000000) 2000000000000 :=
    .of_config (by decide) (by decide) (by decide) (by decide) (Nat.dvd_zero _)
  refine ⟨first, ⟨_, second⟩, by decide, ?_⟩
  rw [(waitForReady_undisturbed millis outcome fun _ never => nomatch never).moment]
  decide

end Orchestrator

end NodeSupply
