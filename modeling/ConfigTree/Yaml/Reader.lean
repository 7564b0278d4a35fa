import ConfigTree.Yaml.Node

set_option relaxedAutoImplicit false
set_option autoImplicit false

/-!
# Reading YAML texts

A YAML text denotes a value if it holds at most one document, every key in it is a text, and no tag
in it names a type that the document makes up. An alias denotes the value of the node that its anchor names.

Aliases could make the value of a short text very large; the number of times that an alias is
followed is limited in proportion to the number of nodes.

## Main definitions

* `ConfigTree.Yaml.scalarValue?` — the value of a scalar.
* `ConfigTree.Yaml.nodeValue?` — the value of a node.
* `ConfigTree.Yaml.read?` — the value of a text.
-/

namespace ConfigTree.Yaml

/-- Whether a tag starts with an exclamation mark. -/
def isMarked (tag : Octets) : Bool :=
  tag.head? == some 0x21

/-- Whether a tag is the name of a type that the document makes up: an exclamation mark and a text.
Such types have no meaning here. -/
def isLocal (tag : Option Octets) : Bool :=
  tag.any fun tag => isMarked tag && (String.fromUTF8? ⟨(tag.drop 1).toArray⟩).isSome

/-- The tag of one of the known types. -/
def typeTag (name : String) : Octets :=
  octetsOf ("tag:yaml.org,2002:" ++ name)

/-- The value of a scalar without a type. -/
def untypedValue? (isPlain : Bool) (text : String) : Option Value :=
  if isPlain then
    match plain text with
    | .value value => some value
    | .text => some (.string text)
    | .tooLarge => none
  else some (.string text)

/-- The value of a scalar. The tag of a known type demands a value of this type. A tag with an
exclamation mark that is not local says nothing, and any other one makes the scalar a text. -/
def scalarValue? (tag : Option Octets) (isPlain : Bool) (text : String) : Option Value :=
  match tag with
  | none => untypedValue? isPlain text
  | some tag =>
    if tag = typeTag "bool" then (bool? text).map .bool
    else if tag = typeTag "int" then
      (integer? text.toList).bind fun (negative, n) => integerValue? negative n
    else if tag = typeTag "float" then (float? text.toList).map .float
    else if tag = typeTag "null" then if isNull text then some .null else none
    else if isMarked tag then untypedValue? isPlain text
    else some (.string text)

/-- The last definition with a number. -/
def Document.definition? (document : Document) (number : Nat) : Option Definition :=
  (document.definitions.filter fun d => d.number == number).foldl
    (fun best d =>
      match best with
      | some b => if b.place < d.place then some d else some b
      | none => some d)
    none

/-- The node itself, or the one that it is an alias for. The state is the number of times that an
alias may still be followed. -/
def Document.target? (document : Document) (node : Node) : StateT Nat Option Node :=
  match node with
  | .alias number => fun jumps =>
    match jumps, document.definition? number with
    | jumps + 1, some definition => some (definition.node, jumps)
    | _, _ => none
  | _ => pure node

/-- The entries of a mapping whose keys are texts. -/
def mappingOf? (entries : List (Value × Value)) : Option Mapping :=
  entries.foldlM
    (fun mapping (key, value) =>
      match key with
      | .string text => some (mapping.put text value)
      | _ => none)
    []

/-- The value of a node that holds at most `depth` collections inside of each other. -/
def nodeValue? (document : Document) : Nat → Node → StateT Nat Option Value
  | depth, node => do
    let node ← document.target? node
    match depth, node with
    | _, .scalar tag isPlain text =>
      if isLocal tag then failure else scalarValue? tag isPlain text
    | depth + 1, .sequence tag items =>
      if isLocal tag then failure
      else return .sequence (← items.mapM (nodeValue? document depth))
    | depth + 1, .mapping tag entries =>
      if isLocal tag then failure
      else
        let pairs ← entries.mapM fun (key, value) =>
          return (← nodeValue? document depth key, ← nodeValue? document depth value)
        return .mapping (← mappingOf? pairs)
    | _, _ => failure

/-- How many times an alias may be followed for each node. -/
def jumpsPerNode : Nat := 100

/-- The value that a YAML text denotes. -/
def read? (text : String) : Option Value :=
  ((tokens? text).bind document?).bind fun document =>
    (nodeValue? document nestingLimit document.node).run' (jumpsPerNode * document.eventCount)

end ConfigTree.Yaml
