import Mathlib

/-!
# AdapterRuntime — the heartbeat timer

`NextAlignedHeartbeatDeadline` and the timer of `ControlWriterLoop`. Both clocks count
nanoseconds in an `std::int64_t`; a computation that leaves its range is undefined in
the source and `none` here. The client as a machine takes a heartbeat as an input; this
is what decides when the input comes.
-/

namespace AdapterRuntime.Model

/-- The value of a signed 64-bit computation, if it does not overflow. -/
def int64 (value : Int) : Option Int :=
  if -2 ^ 63 ≤ value ∧ value < 2 ^ 63 then some value else none

/-- `internal::NextAlignedHeartbeatDeadline`, with the clocks in nanoseconds and the
interval in milliseconds. The remainder of C++ is the truncating one. -/
def nextAlignedHeartbeatDeadline (wallNow monotonicNow interval : Int) : Option Int :=
  if interval ≤ 0 then some monotonicNow
  else do
    let intervalNanos ← int64 (interval * 1000000)
    let remainder ← int64 (wallNow.tmod intervalNanos)
    let remainder ← if remainder < 0 then int64 (remainder + intervalNanos) else some remainder
    let delay ← int64 (intervalNanos - remainder)
    int64 (monotonicNow + delay)

/-- The clocks as one turn of `ControlWriterLoop` reads them. -/
structure ClockReading where
  monotonic : Int
  wall : Int

/-- A heartbeat that was built, with the deadline computed for the next one. -/
structure Beat where
  reading : ClockReading
  deadline : Int

/-- One turn of `ControlWriterLoop` with `next_heartbeat`: a heartbeat is built when it
is due, and the next deadline computed. -/
def heartbeatTurn (interval : Int) (nextHeartbeat : Int) (reading : ClockReading) :
    Option (Int × Option Beat) :=
  if nextHeartbeat ≤ reading.monotonic then do
    let deadline ← nextAlignedHeartbeatDeadline reading.wall reading.monotonic interval
    return (deadline, some ⟨reading, deadline⟩)
  else some (nextHeartbeat, none)

/-- The turns of `ControlWriterLoop`: the deadline after them and the heartbeats that
were built, oldest first. -/
def heartbeatLoop (interval : Int) : Int → List ClockReading → Option (Int × List Beat)
  | nextHeartbeat, [] => some (nextHeartbeat, [])
  | nextHeartbeat, reading :: rest => do
    let (next, beat) ← heartbeatTurn interval nextHeartbeat reading
    let (last, beats) ← heartbeatLoop interval next rest
    return (last, beat.toList ++ beats)

end AdapterRuntime.Model
