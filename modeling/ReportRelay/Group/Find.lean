/-
# Finding a group

A group is found by its full path.  The search goes only into groups whose path is the one
looked for or leads to it.
-/
import ReportRelay.Group.Basic

namespace ReportRelay

namespace TestGroup

/-- Tells whether the path is that of the group of this name, or continues it after a
slash. -/
def leadsTo (name path : List Char) : Bool :=
  path == name || (name ++ ['/']).isPrefixOf path

mutual

/-- The group of a path in the tree, if there is one. -/
def find? (path : String) : TestGroup → Option TestGroup
  | ⟨name, status, tally, tests, groups⟩ =>
    if path = name then some ⟨name, status, tally, tests, groups⟩
    else findAmong? path groups

/-- The group of a path in the trees that lead to it. -/
def findAmong? (path : String) : List TestGroup → Option TestGroup
  | [] => none
  | group :: groups =>
    if leadsTo group.name.toList path.toList then
      match find? path group with
      | some found => some found
      | none => findAmong? path groups
    else findAmong? path groups

end

end TestGroup

end ReportRelay
