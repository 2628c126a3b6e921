import SlideConverter.Conversion.Converter

/-!
# Running a job to its end

Polling at intervals until the job has ended. A deadline that has passed after a
poll that did not end the job cancels it. A tool may be at work for ever, so the
number of polls is bounded by the caller; `none` is the answer when it is used up.
-/

namespace SlideConverter.Converter

def reached (deadline : Option Duration) (elapsed : Nat) : Option Duration :=
  deadline.filter (·.nanoseconds ≤ elapsed)

def runTicks (handle : JobHandle) (interval : Duration) (deadline : Option Duration)
    (started : Duration) :
    Nat → Converter → Act (Option (Except ConversionError PollResult) × Converter)
  | 0, c => return (none, c)
  | ticks + 1, c => do
    match ← c.poll handle with
    | (.error e, c) => return (some (.error e), c)
    | (.ok result, c) =>
      if result.isTerminal then return (some (.ok result), c)
      else
        let now ← ask .clock
        match reached deadline (now.nanoseconds - started.nanoseconds) with
        | some d =>
          warn (.deadlineExceeded handle d)
          match ← c.cancel handle with
          | (.error e, c) => return (some (.error e), c)
          | (.ok _, c) => return (some ((c.state handle).map PollResult.ofState), c)
        | none =>
          ask (.sleep interval)
          runTicks handle interval deadline started ticks c

def runToCompletion (c : Converter) (handle : JobHandle) (interval : Duration)
    (deadline : Option Duration) (maxTicks : Nat) :
    Act (Option (Except ConversionError PollResult) × Converter) := do
  let started ← ask .clock
  runTicks handle interval deadline started maxTicks c

end SlideConverter.Converter
