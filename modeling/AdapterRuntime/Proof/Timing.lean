import Mathlib
import AdapterRuntime.Model.Clock

/-!
# AdapterRuntime — deadlines and delays

* `nextAlignedHeartbeatDeadline_spec` — the next deadline is at most one interval away
  and lies on a boundary of the wall clock.
* `heartbeat_alignment` — so do all deadlines of `ControlWriterLoop`, whatever the wall
  clock does.
-/

namespace AdapterRuntime.Model

-- ---------------------------------------------------------------------------
-- Heartbeats
-- ---------------------------------------------------------------------------

/-- Within one interval below the end of its range, a monotonic clock does not overflow. -/
structure ClockReading.Fits (interval : Int) (reading : ClockReading) : Prop where
  wallLow : -2 ^ 63 ≤ reading.wall
  wallHigh : reading.wall < 2 ^ 63
  monotonicLow : -2 ^ 63 ≤ reading.monotonic
  monotonicHigh : reading.monotonic + interval * 1000000 < 2 ^ 63

/-- The deadline is one to `interval` milliseconds after the heartbeat, on a boundary of
the wall clock. -/
structure Beat.Aligned (interval : Int) (beat : Beat) : Prop where
  later : beat.reading.monotonic < beat.deadline
  bounded : beat.deadline ≤ beat.reading.monotonic + interval * 1000000
  boundary : interval * 1000000 ∣
    beat.reading.wall + (beat.deadline - beat.reading.monotonic)

/-- A value in range is no overflow. -/
theorem int64_some {value : Int} (hLow : -2 ^ 63 ≤ value) (hHigh : value < 2 ^ 63) :
    int64 value = some value :=
  if_pos ⟨hLow, hHigh⟩

/-- The remainder after it has been made nonnegative is the one of Euclidean division. -/
theorem adjusted_tmod {wall nanos : Int} (hNanos : 0 < nanos) :
    (if wall.tmod nanos < 0 then wall.tmod nanos + nanos else wall.tmod nanos) =
      wall % nanos := by
  have hEq := Int.tmod_eq_emod (a := wall) (b := nanos)
  have hNonneg := Int.emod_nonneg wall hNanos.ne'
  have hLt := Int.emod_lt_of_pos wall hNanos
  have hAbs : (nanos.natAbs : Int) = nanos := Int.natAbs_of_nonneg hNanos.le
  split at hEq
  · rw [hEq, if_neg (by omega)]
    omega
  · rw [hEq, hAbs, if_pos (by omega)]
    omega

/-- Without overflow, the deadline is computed with the Euclidean remainder. -/
theorem nextAlignedHeartbeatDeadline_eq {wall monotonic interval : Int} (hPositive : 0 < interval)
    (hBound : interval < 2 ^ 32) (hLow : -2 ^ 63 ≤ monotonic)
    (hHigh : monotonic + interval * 1000000 < 2 ^ 63) :
    nextAlignedHeartbeatDeadline wall monotonic interval =
      some (monotonic + (interval * 1000000 - wall % (interval * 1000000))) := by
  have hNanos : 0 < interval * 1000000 := by omega
  have hRemainder := @adjusted_tmod wall _ hNanos
  have hNonneg := Int.emod_nonneg wall hNanos.ne'
  have hLt := Int.emod_lt_of_pos wall hNanos
  rw [nextAlignedHeartbeatDeadline, if_neg (by omega), int64_some (by omega) (by omega)]
  simp only [Option.bind_eq_bind, Option.bind_some]
  -- a negative remainder is made nonnegative first
  by_cases hNegative : wall.tmod (interval * 1000000) < 0
  · rw [if_pos hNegative] at hRemainder
    rw [int64_some (by omega) (by omega), Option.bind_some, if_pos hNegative, hRemainder,
      int64_some (by omega) (by omega), Option.bind_some, int64_some (by omega) (by omega),
      Option.bind_some]
    exact int64_some (by omega) (by omega)
  · rw [if_neg hNegative] at hRemainder
    rw [int64_some (by omega) (by omega), Option.bind_some, if_neg hNegative, hRemainder,
      int64_some (by omega) (by omega), Option.bind_some]
    exact int64_some (by omega) (by omega)

/-- No step of the computation overflows, and the deadline is aligned. -/
theorem nextAlignedHeartbeatDeadline_spec {interval : Int} {reading : ClockReading}
    (hPositive : 0 < interval) (hBound : interval < 2 ^ 32) (hFits : reading.Fits interval) :
    ∃ deadline, nextAlignedHeartbeatDeadline reading.wall reading.monotonic interval =
      some deadline ∧ (Beat.mk reading deadline).Aligned interval := by
  have hNanos : 0 < interval * 1000000 := by omega
  have hNonneg := Int.emod_nonneg reading.wall hNanos.ne'
  have hLt := Int.emod_lt_of_pos reading.wall hNanos
  refine ⟨_, nextAlignedHeartbeatDeadline_eq hPositive hBound hFits.monotonicLow
    hFits.monotonicHigh, ?_, ?_, ?_⟩
  · show reading.monotonic < reading.monotonic + _
    omega
  · show reading.monotonic + _ ≤ reading.monotonic + interval * 1000000
    omega
  · show interval * 1000000 ∣ reading.wall + (reading.monotonic + _ - reading.monotonic)
    obtain ⟨k, hk⟩ := Int.dvd_self_sub_emod (x := reading.wall) (m := interval * 1000000)
    exact ⟨k + 1, by rw [mul_add, ← hk]; ring⟩

/-- One turn keeps its deadline, or builds an aligned heartbeat and goes on with its deadline. -/
theorem heartbeatTurn_spec {interval nextHeartbeat : Int} {reading : ClockReading}
    (hPositive : 0 < interval) (hBound : interval < 2 ^ 32) (hFits : reading.Fits interval) :
    ∃ next beat, heartbeatTurn interval nextHeartbeat reading = some (next, beat) ∧
      next = (beat.map Beat.deadline).getD nextHeartbeat ∧
      ∀ b ∈ beat, b.reading = reading ∧ b.Aligned interval := by
  obtain ⟨deadline, hDeadline, hAligned⟩ :=
    nextAlignedHeartbeatDeadline_spec hPositive hBound hFits
  unfold heartbeatTurn
  split
  · refine ⟨deadline, some ⟨reading, deadline⟩, ?_, rfl, ?_⟩
    · rw [hDeadline]
      rfl
    · intro b hb
      cases hb
      exact ⟨rfl, hAligned⟩
  · exact ⟨nextHeartbeat, none, rfl, rfl, fun b hb => by cases hb⟩

/-- The loop variable after further heartbeats is the deadline of the last one. -/
theorem lastDeadline_append {nextHeartbeat : Int} {beat : Option Beat} {beats : List Beat} :
    (beats.getLast?.map Beat.deadline).getD ((beat.map Beat.deadline).getD nextHeartbeat) =
      ((beat.toList ++ beats).getLast?.map Beat.deadline).getD nextHeartbeat := by
  rw [List.getLast?_append]
  cases beats.getLast? with
  | some last => rfl
  | none => cases beat <;> rfl

/-- For every positive 32-bit interval, every starting deadline and every sequence of
clock readings: no computation overflows, and each heartbeat is followed by a deadline
that is at most one interval away and on a boundary of the wall clock. The loop variable
is the deadline of the last heartbeat, and the starting one before the first. -/
theorem heartbeat_alignment {interval : Int} (hPositive : 0 < interval)
    (hBound : interval < 2 ^ 32) :
    (∀ wall monotonic, (ClockReading.mk monotonic wall).Fits interval →
      ∃ delay, nextAlignedHeartbeatDeadline wall monotonic interval =
          some (monotonic + delay) ∧
        0 < delay ∧ delay ≤ interval * 1000000 ∧ interval * 1000000 ∣ wall + delay) ∧
    ∀ nextHeartbeat readings, (∀ reading ∈ readings, reading.Fits interval) →
      ∃ last beats, heartbeatLoop interval nextHeartbeat readings = some (last, beats) ∧
        last = (beats.getLast?.map Beat.deadline).getD nextHeartbeat ∧
        ∀ beat ∈ beats, beat.reading ∈ readings ∧ beat.Aligned interval := by
  refine ⟨fun wall monotonic hFits => ?_, fun nextHeartbeat readings hFits => ?_⟩
  · obtain ⟨deadline, hDeadline, hLater, hAtMost, hBoundary⟩ :=
      nextAlignedHeartbeatDeadline_spec hPositive hBound hFits
    refine ⟨deadline - monotonic, ?_, ?_, ?_, hBoundary⟩
    · rw [add_sub_cancel]
      exact hDeadline
    · exact sub_pos.mpr hLater
    · exact sub_left_le_of_le_add hAtMost
  · induction readings generalizing nextHeartbeat with
    | nil => exact ⟨nextHeartbeat, [], rfl, rfl, by simp⟩
    | cons reading rest ih =>
      obtain ⟨next, beat, hTurn, hNext, hBeat⟩ :=
        @heartbeatTurn_spec interval nextHeartbeat reading hPositive hBound
          (hFits reading List.mem_cons_self)
      obtain ⟨last, beats, hLoop, hLast, hBeats⟩ :=
        ih next fun r hr => hFits r (List.mem_cons_of_mem _ hr)
      refine ⟨last, beat.toList ++ beats, ?_, ?_, ?_⟩
      · rw [heartbeatLoop, hTurn]
        simp only [Option.bind_eq_bind, Option.bind_some, hLoop]
        rfl
      · rw [hLast, hNext]
        exact lastDeadline_append
      · intro b hb
        rw [List.mem_append, Option.mem_toList] at hb
        obtain hMem | hMem := hb
        · obtain ⟨hReading, hAligned⟩ := hBeat b hMem
          exact ⟨hReading ▸ List.mem_cons_self, hAligned⟩
        · obtain ⟨hReading, hAligned⟩ := hBeats b hMem
          exact ⟨List.mem_cons_of_mem _ hReading, hAligned⟩

/-- An interval of 100 ms, with the wall clock before the epoch, jumping forward and
back again. -/
theorem heartbeat_alignment_jumps :
    ∃ last beats, heartbeatLoop 100 0 [⟨0, -1⟩, ⟨50, 5⟩, ⟨60, 999999999⟩, ⟨200000000, -250⟩] =
        some (last, beats) ∧ beats.length = 3 ∧ ∀ beat ∈ beats, beat.Aligned 100 := by
  obtain ⟨last, beats, hLoop, -, hBeats⟩ := (@heartbeat_alignment 100 (by decide)
    (by decide)).2 0 [⟨0, -1⟩, ⟨50, 5⟩, ⟨60, 999999999⟩, ⟨200000000, -250⟩] (by
      simp only [List.forall_mem_cons]
      refine ⟨⟨?_, ?_, ?_, ?_⟩, ⟨?_, ?_, ?_, ?_⟩, ⟨?_, ?_, ?_, ?_⟩, ⟨?_, ?_, ?_, ?_⟩, by simp⟩ <;>
        decide)
  refine ⟨last, beats, hLoop, ?_, fun beat hBeat => (hBeats beat hBeat).2⟩
  have hThree : (heartbeatLoop 100 0 [⟨0, -1⟩, ⟨50, 5⟩, ⟨60, 999999999⟩, ⟨200000000, -250⟩]).map
      (·.2.length) = some 3 := by decide
  rw [hLoop] at hThree
  exact Option.some.inj hThree

end AdapterRuntime.Model
