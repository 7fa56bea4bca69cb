import BuildRules.Host

/-! How one invocation behaves. -/
namespace BuildRules

structure Options where
  /-- Shows the debug notices in the log. -/
  debug : Bool := false
  /-- Echoes recipes and runs none. -/
  dryRun : Bool := false
  /-- Treats every recipe as marked `-`. -/
  ignoreErrors : Bool := false
  /-- Tries the remaining goals after one has failed. -/
  keepGoing : Bool := false
  /-- Treats every recipe as marked `@`. -/
  silent : Bool := false
  /-- Asks the environment before the assignments of the build file. -/
  environmentFirst : Bool := false
deriving DecidableEq, Repr

end BuildRules
