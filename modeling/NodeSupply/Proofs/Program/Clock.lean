import NodeSupply.World

/-! The clock of a world during a wait. A rest ends when the pause is over, when the deadline is
reached or when the wait is cancelled, whichever comes first. -/

namespace NodeSupply

/-- How long a pause lasts that nothing cuts short, in nanoseconds. -/
def Duration.pauseLength (d : Duration) : Nat := min d.nanos longestPause.nanos

namespace World

variable {σ ι : Type} {w : World σ ι} {d : Duration} {moment deadline cancelled : Nat}

theorem wholeTick_of_dvd (whole : tick ∣ moment) : wholeTick moment = moment := by
  obtain ⟨ticks, rfl⟩ := whole
  unfold wholeTick tick
  omega

theorem tick_dvd_wholeTick (moment : Nat) : tick ∣ wholeTick moment := Nat.dvd_mul_left _ _

theorem le_wholeTick (moment : Nat) : moment ≤ wholeTick moment := by
  unfold wholeTick tick
  omega

/-- No whole millisecond lies between a moment and the first one that is not before it. -/
theorem wholeTick_lt_of_lt (early : wholeTick moment < wholeTick deadline) :
    wholeTick moment < deadline := by
  unfold wholeTick tick at early ⊢
  omega

/-- Whether a wait is not cancelled up to a moment. -/
def QuietUntil (w : World σ ι) (moment : Nat) : Prop :=
  ∀ cancelled, w.cancelAt = some cancelled → moment < cancelled

theorem QuietUntil.mono {earlier : Nat} (quiet : w.QuietUntil moment) (le : earlier ≤ moment) :
    w.QuietUntil earlier :=
  fun cancelled cancels => Nat.lt_of_le_of_lt le (quiet cancelled cancels)

theorem interruption_of_quiet (quiet : w.QuietUntil w.clock) (whole : tick ∣ deadline)
    (before : w.clock < deadline) : w.interruption deadline = none := by
  have going : w.isCancelled = false := by
    unfold isCancelled
    split
    · next cancelled cancels =>
      exact decide_eq_false (Nat.not_le_of_lt (quiet cancelled cancels))
    · rfl
  rw [interruption, going, wholeTick_of_dvd whole, if_neg Bool.false_ne_true,
    if_neg (Nat.not_le_of_lt before)]

theorem interruption_of_cancelled (cancels : w.cancelAt = some cancelled)
    (past : cancelled ≤ w.clock) (deadline : Nat) :
    w.interruption deadline = some .cancelled := by
  have stopped : w.isCancelled = true := by
    unfold isCancelled
    rw [cancels]
    exact decide_eq_true past
  rw [interruption, stopped, if_pos rfl]

theorem interruption_cases (w : World σ ι) (deadline : Nat) :
    w.interruption deadline = some .cancelled ∨
      wholeTick deadline ≤ w.clock ∧ w.interruption deadline = some .deadline ∨
      w.clock < wholeTick deadline ∧ w.interruption deadline = none := by
  unfold interruption
  by_cases cancelled : w.isCancelled = true
  · exact .inl (if_pos cancelled)
  · rw [if_neg cancelled]
    rcases Nat.lt_or_ge w.clock (wholeTick deadline) with early | late
    · exact .inr (.inr ⟨early, if_neg (Nat.not_le_of_lt early)⟩)
    · exact .inr (.inl ⟨late, if_pos late⟩)

theorem perform_rest [IdSource ι] (serve : Server σ) {cause : Option Interruption}
    (rests : w.restEnd d deadline = (moment, cause)) :
    w.perform serve (.rest d deadline) = (cause, { w with clock := max w.clock moment }) := by
  simp only [perform, rests]
  rfl

/-- The three ways in which a rest ends. -/
theorem restEnd_cases (w : World σ ι) (d : Duration) (deadline : Nat) :
    (∃ cancelled ≤ wholeTick deadline, w.restEnd d deadline = (cancelled, some .cancelled)) ∨
      w.restEnd d deadline = (wholeTick deadline, some .deadline) ∨
      pauseEnd w.clock d < wholeTick deadline ∧
        w.restEnd d deadline = (pauseEnd w.clock d, none) := by
  unfold restEnd
  generalize pauseEnd w.clock d = wake
  generalize wholeTick deadline = limit
  dsimp only
  rcases Nat.lt_or_ge wake limit with early | late
  · rw [if_neg (Nat.not_le_of_lt early)]
    split
    · split
      · next sooner => exact .inl ⟨_, Nat.le_trans sooner (Nat.le_of_lt early), rfl⟩
      · exact .inr (.inr ⟨early, rfl⟩)
    · exact .inr (.inr ⟨early, rfl⟩)
  · rw [if_pos late]
    split
    · split
      · next sooner => exact .inl ⟨_, sooner, rfl⟩
      · exact .inr (.inl rfl)
    · exact .inr (.inl rfl)

theorem restEnd_le (w : World σ ι) (d : Duration) (deadline : Nat) :
    (w.restEnd d deadline).1 ≤ wholeTick deadline := by
  rcases w.restEnd_cases d deadline with ⟨cancelled, le, ends⟩ | ends | ⟨early, ends⟩
  · rw [ends]
    exact le
  · exact Nat.le_of_eq (congrArg Prod.fst ends)
  · rw [ends]
    exact Nat.le_of_lt early

/-- A rest that nothing cuts short ends on a whole millisecond. -/
theorem tick_dvd_restEnd (wakes : (w.restEnd d deadline).2 = none) :
    tick ∣ (w.restEnd d deadline).1 := by
  rcases w.restEnd_cases d deadline with ⟨cancelled, le, ends⟩ | ends | ⟨early, ends⟩
  · rw [ends] at wakes
    cases wakes
  · rw [ends] at wakes
    cases wakes
  · rw [ends]
    exact tick_dvd_wholeTick _

section Rest

variable (onTick : tick ∣ w.clock) (pauses : tick ∣ d.pauseLength) (whole : tick ∣ deadline)

include onTick pauses in
theorem pauseEnd_eq : pauseEnd w.clock d = w.clock + d.pauseLength :=
  wholeTick_of_dvd (Nat.dvd_add onTick pauses)

include onTick pauses whole

/-- A rest lasts as long as its pause if neither the deadline nor cancellation comes first. -/
theorem restEnd_wakes (quiet : w.QuietUntil (w.clock + d.pauseLength))
    (before : w.clock + d.pauseLength < deadline) :
    w.restEnd d deadline = (w.clock + d.pauseLength, none) := by
  unfold restEnd
  rw [pauseEnd_eq onTick pauses, wholeTick_of_dvd whole]
  dsimp only
  rw [if_neg (Nat.not_le_of_lt before)]
  split
  · next cancelled cancels => exact if_neg (Nat.not_le_of_lt (quiet cancelled cancels))
  · rfl

theorem restEnd_deadline (quiet : w.QuietUntil deadline)
    (reached : deadline ≤ w.clock + d.pauseLength) :
    w.restEnd d deadline = (deadline, some .deadline) := by
  unfold restEnd
  rw [pauseEnd_eq onTick pauses, wholeTick_of_dvd whole]
  dsimp only
  rw [if_pos reached]
  split
  · next cancelled cancels => exact if_neg (Nat.not_le_of_lt (quiet cancelled cancels))
  · rfl

theorem restEnd_cancelled (cancels : w.cancelAt = some cancelled)
    (asleep : cancelled ≤ w.clock + d.pauseLength) (before : cancelled ≤ deadline) :
    w.restEnd d deadline = (cancelled, some .cancelled) := by
  unfold restEnd
  rw [pauseEnd_eq onTick pauses, wholeTick_of_dvd whole, cancels]
  dsimp only
  by_cases reached : deadline ≤ w.clock + d.pauseLength
  · rw [if_pos reached]
    exact if_pos before
  · rw [if_neg reached]
    exact if_pos asleep

end Rest

end World

end NodeSupply
