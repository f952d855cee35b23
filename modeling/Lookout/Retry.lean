/-!
# Options of a worker

How often a failing probe is run, which addresses are probed, and what every probe is told.
Durations are in milliseconds.
-/

namespace Lookout
set_option autoImplicit false

/-- What every call of a probe is told. -/
structure ExecutionOptions where
  /-- Whether the probe may log details. -/
  verbose : Bool := false
  /-- How long the probe may take. -/
  timeout : Nat := 10000
deriving DecidableEq, Inhabited

/-- The address families that are probed. -/
structure Families where
  ipv4 : Bool := true
  ipv6 : Bool := true
deriving DecidableEq, Inhabited

/-- How often a failing probe is run, and how long to wait in between. -/
structure RetryPolicy where
  enabled : Bool := true
  count : UInt32 := 5
  delay : Nat := 5000
deriving DecidableEq, Inhabited

namespace RetryPolicy

/-- Every probe is run exactly once. -/
def disabled : RetryPolicy := { enabled := false }

/-- How often a probe is run until its failure is final. -/
def maxAttempts (p : RetryPolicy) : Nat :=
  if p.enabled then max p.count.toNat 1 else 1

theorem maxAttempts_pos (p : RetryPolicy) : 0 < p.maxAttempts := by
  simp only [maxAttempts]; split <;> omega

theorem maxAttempts_lt (p : RetryPolicy) : p.maxAttempts < UInt32.size := by
  have := p.count.toNat_lt_size
  have : 1 < UInt32.size := by decide
  simp only [maxAttempts]; split <;> omega

end RetryPolicy

end Lookout
