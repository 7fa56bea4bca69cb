import BuildRules.Shell.Program.Finding

/-! The programs that start other programs, by name. -/
namespace BuildRules.Shell.Program

def index : List (Octets × Launcher) :=
  [("env", withEnvironment), ("find", find), ("nice", withPriority), ("nohup", withoutHangup),
    ("setsid", withSession), ("stdbuf", withBuffering), ("timeout", withTimeout),
    ("xargs", withItems)].map fun (name, program) => (String.toList name, program)

def named? (name : Octets) : Option Launcher := index.lookup name

end BuildRules.Shell.Program
