import BuildRules.Host

/-! The environment as a process hands it on: a list of entries `name=value`. -/
namespace BuildRules.Environment

/-- The value in the first entry that starts with the name and an equals sign. An empty name,
and one that holds a zero character, names nothing. -/
def ofEntries (entries : List Text) : Environment := fun name =>
  if name.isEmpty || name.contains '\x00' then none
  else
    let start := name ++ ['=']
    (entries.find? fun entry => start.isPrefixOf entry).map fun entry => entry.drop start.length

example : ofEntries ["A=1".toList, "A=2".toList] ['A'] = some ['1'] := by decide
example : ofEntries ["A=1".toList] [] = none := by decide

end BuildRules.Environment
