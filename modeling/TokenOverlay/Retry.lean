import TokenOverlay.Attempt
import TokenOverlay.Text.Decimal

namespace TokenOverlay

/-!
Trying again what may fail for a while.  Every failure is reported, and the
wait before the next try doubles from one failure to the next.
-/

inductive LogLevel where
  | info
  | warning
  | error
deriving DecidableEq, Repr

namespace LogLevel

def name : LogLevel → String
  | info => "INFO"
  | warning => "WARN"
  | error => "ERROR"

end LogLevel

structure LogLine where
  level : LogLevel
  text : String
deriving DecidableEq, Repr

namespace LogLine

def render (line : LogLine) : String := line.level.name ++ " " ++ line.text

end LogLine

/-- How often to try, and how long to wait after the first failure. -/
structure Retry where
  maxAttempts : Nat
  baseDelayMs : Nat
  maxAttempts_pos : 0 < maxAttempts
deriving DecidableEq, Repr

namespace Retry

def standard : Retry := ⟨5, 1000, by decide⟩

/-- There is at least one try. -/
def withConfig (maxAttempts baseDelayMs : Nat) : Retry :=
  ⟨max 1 maxAttempts, baseDelayMs, by omega⟩

/-- The largest number of 64 bits, in milliseconds. -/
def longestDelay : Nat := UInt64.size - 1

/-- The wait after some failures. -/
def delay (retry : Retry) (failures : Nat) : Nat :=
  min (retry.baseDelayMs * min (Nat.pow 2 (failures - 1)) longestDelay) longestDelay

/-- Who is trying what. -/
structure Task where
  network : String
  name : String
deriving DecidableEq, Repr

namespace Task

def retrying (task : Task) (retry : Retry) (failures : Nat) (reason : String) : LogLine :=
  ⟨.warning, s!"[{task.network}] {task.name} failed (attempt {failures}/{retry.maxAttempts})" ++
    s!": {reason}. Retrying in {retry.delay failures}ms"⟩

def gaveUp (task : Task) (retry : Retry) (reason : String) : LogLine :=
  ⟨.error, s!"[{task.network}] {task.name} failed after {retry.maxAttempts} attempts: {reason}"⟩

def recovered (task : Task) (failures : Nat) : LogLine :=
  ⟨.info, s!"[{task.network}] {task.name} succeeded after {failures} retries"⟩

end Task

/-- What surrounds the tries: how a reason is worded, how to wait and where reports go. -/
structure Surroundings (σ ε : Type) where
  describe : ε → String
  pause : Nat → Attempt σ ε Unit
  report : LogLine → Attempt σ ε Unit

variable {σ ε α : Type}

/-- Try with some tries in reserve, after some failures. -/
def tryFrom (retry : Retry) (task : Task) (around : Surroundings σ ε) (call : Attempt σ ε α) :
    Nat → Nat → Attempt σ ε α
  | reserve, failures => fun state =>
      match call state with
      | (.ok value, after) =>
          if 0 < failures then (do around.report (task.recovered failures); return value) after
          else (.ok value, after)
      | (.error reason, after) =>
          match reserve with
          | 0 =>
              (do
                around.report (task.gaveUp retry (around.describe reason))
                Attempt.fail reason) after
          | reserve + 1 =>
              (do
                around.report (task.retrying retry (failures + 1) (around.describe reason))
                around.pause (retry.delay (failures + 1))
                tryFrom retry task around call reserve (failures + 1)) after

/-- Try until it succeeds or the tries are used up. -/
def run (retry : Retry) (task : Task) (around : Surroundings σ ε) (call : Attempt σ ε α) :
    Attempt σ ε α :=
  tryFrom retry task around call (retry.maxAttempts - 1) 0

end Retry
end TokenOverlay
