import ConfigTree.Error
import ConfigTree.Text.Basic
import ConfigTree.Value.Basic

set_option relaxedAutoImplicit false
set_option autoImplicit false

/-!
# Paths

A dotted path leads from a mapping through the mappings it holds. Keys are compared exactly. An
option of a configuration is named in full by three keys: those of its section and its subsection
and its own.

## Main definitions

* `ConfigTree.Value.walk?` — the value at the end of a list of keys.
* `ConfigTree.Value.getPath` — the value at the end of a dotted path.
* `ConfigTree.OptionPath` — the three keys of an option.
* `ConfigTree.OptionPath.parse?` — the path that a dotted name of three segments denotes.
-/

namespace ConfigTree

namespace Value

/-- The value that the keys lead to, each one leading through a mapping. -/
def walk? : Value → List String → Option Value
  | value, [] => some value
  | mapping entries, key :: rest => (Table.get? entries key).bind (walk? · rest)
  | _, _ :: _ => none

/-- The value at the dotted path; the empty path leads to the value itself. -/
def getPath (value : Value) (path : String) : Except Error Value :=
  if path = "" then .ok value
  else match value.walk? (Text.segments path) with
    | some found => .ok found
    | none => .error ((Error.noKey path).withPath path)

end Value

/-- The full path of an option. -/
structure OptionPath where
  /-- The key of the section. -/
  sectionName : String
  /-- The key of the subsection. -/
  subsectionName : String
  /-- The key of the option. -/
  optionName : String
  deriving DecidableEq

namespace OptionPath

/-- The path with the given keys, if there are three of them. -/
def ofList? : List String → Option OptionPath
  | [sectionName, subsectionName, optionName] => some ⟨sectionName, subsectionName, optionName⟩
  | _ => none

/-- The path that a dotted name denotes, if it has three segments. -/
def parse? (reference : String) : Option OptionPath :=
  ofList? (Text.segments reference)

/-- The dotted name of the path. -/
def text (path : OptionPath) : String :=
  path.sectionName ++ "." ++ path.subsectionName ++ "." ++ path.optionName

end OptionPath

end ConfigTree
