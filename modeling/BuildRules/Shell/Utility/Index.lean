import BuildRules.Shell.Utility.Alike
import BuildRules.Shell.Utility.Calculation
import BuildRules.Shell.Utility.Dates
import BuildRules.Shell.Utility.Differing
import BuildRules.Shell.Utility.Digesting
import BuildRules.Shell.Utility.Dumping
import BuildRules.Shell.Utility.Editing
import BuildRules.Shell.Utility.Filling
import BuildRules.Shell.Utility.Judging
import BuildRules.Shell.Utility.Lines
import BuildRules.Shell.Utility.Joining
import BuildRules.Shell.Utility.Listing
import BuildRules.Shell.Utility.Making
import BuildRules.Shell.Utility.Moving
import BuildRules.Shell.Utility.Numbering
import BuildRules.Shell.Utility.Reversing
import BuildRules.Shell.Utility.Search
import BuildRules.Shell.Utility.Sequence
import BuildRules.Shell.Utility.Translating
import BuildRules.Shell.Utility.Values

/-! The utilities by name. -/
namespace BuildRules.Shell.Utility

/-- Utilities that change files and directories. -/
def changing : List (String × Utility) :=
  [("chmod", changeModes), ("cp", copy), ("install", install), ("ln", link),
    ("mkdir", makeDirectories), ("mv", move), ("rm", remove), ("rmdir", removeDirectories),
    ("touch", touch), ("truncate", truncate)]

/-- Utilities that tell something about files, paths and the system. -/
def telling : List (String × Utility) :=
  [("arch", machineName), ("basename", baseNames), ("date", date), ("dirname", directoryNames),
    ("groups", groupNames), ("id", identity),
    ("ls", listFiles), ("printenv", printEnvironment), ("pwd", workingDirectory),
    ("readlink", readLink), ("realpath", realPath), ("stat", facts), ("uname", systemName),
    ("which", which), ("whoami", whoAmI)]

/-- Utilities that make text or decide something from their arguments alone. -/
def plain : List (String × Utility) :=
  [("[", bracket), ("echo", echo), ("expr", calculate), ("false", giveUp), ("printf", printf), ("seq", sequence),
    ("sleep", sleep), ("sync", succeed), ("test", condition), ("true", succeed), ("yes", yes)]

/-- Utilities that read text and write it in another form. -/
def reading : List (String × Utility) :=
  [("cat", concatenate), ("cmp", compareBytes), ("comm", compareSorted), ("cut", cutLines),
    ("diff", showDifferences), ("egrep", searchAs "-E".toList),
    ("expand", expandTabs), ("fgrep", searchAs "-F".toList), ("fold", foldLines),
    ("grep", searchLines), ("head", head), ("join", joinLines), ("nl", numberLines), ("od", dump), ("paste", pasteLines),
    ("rev", reverseEach), ("rgrep", searchAs "-r".toList), ("sed", editLines), ("sort", sort),
    ("tac", reverseLines), ("tail", tail), ("tee", tee), ("tr", translate),
    ("unexpand", unexpandTabs), ("uniq", unique), ("wc", wordCount)]

def index : List (Octets × Utility) :=
  (changing ++ telling ++ plain ++ reading ++ digesting).map fun (name, utility) => (name.toList, utility)

def named? (name : Octets) : Option Utility := index.lookup name

end BuildRules.Shell.Utility
