import ConfigTree.Yaml.Token

set_option relaxedAutoImplicit false
set_option autoImplicit false

/-!
# YAML nodes

The tokens of a document make up a tree of nodes. A node may have an anchor, to which aliases refer,
and a tag. Nodes that are left out are empty scalars.

An anchor may be defined again; an alias refers to the last definition before it. Each definition
has a number, the count of the different anchors before it, and aliases are stored as these numbers.

## Main definitions

* `ConfigTree.Yaml.Node` — the nodes.
* `ConfigTree.Yaml.Document` — a node with the anchors that its aliases refer to.
* `ConfigTree.Yaml.Reading.node?` — the node at the start of some tokens.
* `ConfigTree.Yaml.document?` — the document that all tokens of a text make up.

## Implementation notes

The number of collections inside of each other is limited, which bounds the recursion into nodes;
along a collection every entry takes at least one token.
-/

namespace ConfigTree.Yaml

/-- A node of a document. -/
inductive Node where
  /-- A scalar with its tag, and whether it is plain. -/
  | scalar (tag : Option Octets) (isPlain : Bool) (text : String)
  /-- A sequence with its tag. -/
  | sequence (tag : Option Octets) (items : List Node)
  /-- A mapping with its tag. -/
  | mapping (tag : Option Octets) (entries : List (Node × Node))
  /-- An alias for the node with a numbered anchor. -/
  | alias (number : Nat)

/-- The definition of an anchor: its number, its place among all definitions, and the node. -/
structure Definition where
  /-- The number of the anchor. -/
  number : Nat
  /-- How many definitions began before this one. -/
  place : Nat
  /-- The node that has the anchor. -/
  node : Node

/-- A document: its node, the anchors and the number of nodes and collection ends in it. -/
structure Document where
  /-- The node. -/
  node : Node
  /-- The definitions of anchors. -/
  definitions : List Definition
  /-- The number of scalars, of aliases, and of starts and ends of collections. -/
  eventCount : Nat

/-- What is left to read and what was found. -/
structure Reading where
  /-- The tokens that are left. -/
  tokens : List Token
  /-- The prefixes of tags by their handles. -/
  handles : List (String × Octets)
  /-- The anchors with the numbers of their last definitions. -/
  anchors : Table Nat
  /-- The definitions that are complete. -/
  definitions : List Definition
  /-- How many definitions have begun. -/
  begun : Nat
  /-- The number of scalars, of aliases, and of starts and ends of collections so far. -/
  eventCount : Nat

/-- The properties of a node. -/
structure Properties where
  /-- The name of its anchor. -/
  anchor : Option String := none
  /-- The handle and the suffix of its tag. -/
  tag : Option (String × Octets) := none

/-- The properties at the start of some tokens, and the tokens after them. -/
def properties : List Token → Properties × List Token
  | .anchor name :: .tag handle suffix :: rest => (⟨some name, some (handle, suffix)⟩, rest)
  | .tag handle suffix :: .anchor name :: rest => (⟨some name, some (handle, suffix)⟩, rest)
  | .anchor name :: rest => (⟨some name, none⟩, rest)
  | .tag handle suffix :: rest => (⟨none, some (handle, suffix)⟩, rest)
  | rest => ({}, rest)

/-- The tokens after the properties are not more than before. -/
theorem length_properties_le (tokens : List Token) :
    (properties tokens).2.length ≤ tokens.length := by
  unfold properties
  split <;> simp only [List.length_cons] <;> omega

namespace Reading

/-- The reading with other tokens left. -/
def withTokens (s : Reading) (tokens : List Token) : Reading :=
  { s with tokens := tokens }

/-- The reading with more events counted. -/
def count (s : Reading) (events : Nat) : Reading :=
  { s with eventCount := s.eventCount + events }

/-- The full tag for a handle and a suffix. A tag without a handle is given in full. -/
def resolveTag? (s : Reading) (tag : Option (String × Octets)) : Option (Option Octets) :=
  match tag with
  | none => some none
  | some ("", suffix) => some (some suffix)
  | some (handle, suffix) =>
    match s.handles.lookup handle with
    | some replacement => some (some (replacement ++ suffix))
    | none =>
      if handle = "!" then some (some (octetsOf "!" ++ suffix))
      else if handle = "!!" then some (some (octetsOf "tag:yaml.org,2002:" ++ suffix))
      else none

/-- Begins the definition of an anchor, if the node has one; the outcome is its number and place. -/
def beginAnchor (s : Reading) (anchor : Option String) : Option (Nat × Nat) × Reading :=
  match anchor with
  | none => (none, s)
  | some name =>
    let number := s.anchors.length
    (some (number, s.begun),
      { s with anchors := s.anchors.put name number, begun := s.begun + 1 })

/-- Completes the definition of an anchor, if the node has one. -/
def endAnchor (anchor : Option (Nat × Nat)) (result : Node × Reading) : Node × Reading :=
  match anchor with
  | none => result
  | some (number, place) =>
    let (node, s) := result
    (node, { s with definitions := ⟨number, place, node⟩ :: s.definitions })

/-- A node that is left out. -/
def empty (s : Reading) : Node × Reading :=
  (.scalar none true "", s.count 1)

/-- Whether the tokens start with one at which a node in a block collection is left out. -/
def endsBlockNode (indentless : Bool) : List Token → Bool
  | .key :: _ => indentless
  | .value :: _ => indentless
  | .blockEntry :: _ => !indentless
  | .blockEnd :: _ => true
  | _ => false

/-- Whether the tokens start with one before which the key of an entry is left out, in a flow
sequence or in a flow mapping. -/
def endsFlowKey (inSequence : Bool) : List Token → Bool
  | .value :: _ | .flowEntry :: _ => true
  | .flowSequenceEnd :: _ => inSequence
  | .flowMappingEnd :: _ => !inSequence
  | _ => false

/-- Whether the tokens start with one before which the value of an entry in flow is left out. -/
def endsFlowValue : List Token → Bool
  | .flowEntry :: _ | .flowSequenceEnd :: _ | .flowMappingEnd :: _ => true
  | _ => false

/-- The tokens after the comma that separates the entries of a flow collection. -/
def afterEntry? (first : Bool) (tokens : List Token) : Option (List Token) :=
  if first then some tokens
  else if tokens.head? = some .flowEntry then some tokens.tail else none

/-- After a comma there are not more tokens than before. -/
theorem length_afterEntry?_le {first : Bool} {tokens rest : List Token}
    (h : afterEntry? first tokens = some rest) : rest.length ≤ tokens.length := by
  unfold afterEntry? at h
  split at h
  · simp_all
  · split at h
    · cases h
      simp
    · simp at h

mutual

/-- The node at the start of the tokens. In a block it may be a block collection; after a key also a
sequence that is not indented. -/
def node? (depth : Nat) (block indentless : Bool) (s : Reading) : Option (Node × Reading) :=
  match s.tokens with
  | .alias name :: rest =>
    (s.anchors.get? name).map fun number => (.alias number, (s.withTokens rest).count 1)
  | _ =>
    let props := (properties s.tokens).1
    match s.resolveTag? props.tag with
    | none => none
    | some tag =>
      let (anchor, s') := s.beginAnchor props.anchor
      (content? depth block indentless (props.anchor.isSome || props.tag.isSome) tag
        (s'.withTokens (properties s.tokens).2)).map (endAnchor anchor)
termination_by (depth, s.tokens.length, 5)
decreasing_by
  have h := length_properties_le s.tokens
  simp [withTokens, Prod.lex_def]
  omega

/-- The node at the start of the tokens, after its properties. A node that has only properties is an
empty scalar. -/
def content? (depth : Nat) (block indentless hasProperties : Bool) (tag : Option Octets)
    (s : Reading) : Option (Node × Reading) :=
  match s.tokens, depth with
  | .scalar isPlain text :: rest, _ =>
    some (.scalar tag isPlain text, (s.withTokens rest).count 1)
  | .flowSequenceStart :: rest, inner + 1 =>
    (flowItems? inner true ((s.withTokens rest).count 2)).map fun (items, s) =>
      (.sequence tag items, s)
  | .flowMappingStart :: rest, inner + 1 =>
    (flowEntries? inner true ((s.withTokens rest).count 2)).map fun (entries, s) =>
      (.mapping tag entries, s)
  | tokens, inner + 1 =>
    match indentless, block, tokens with
    | true, _, .blockEntry :: _ =>
      (looseItems? inner (s.count 2)).map fun (items, s) => (.sequence tag items, s)
    | _, true, .sequenceStart :: rest =>
      (items? inner ((s.withTokens rest).count 2)).map fun (items, s) => (.sequence tag items, s)
    | _, true, .mappingStart :: rest =>
      (entries? inner ((s.withTokens rest).count 2)).map fun (entries, s) =>
        (.mapping tag entries, s)
    | _, _, _ => if hasProperties then some (.scalar tag true "", s.count 1) else none
  | _, 0 => if hasProperties then some (.scalar tag true "", s.count 1) else none
termination_by (depth, s.tokens.length, 4)
decreasing_by all_goals exact Prod.Lex.left _ _ (Nat.lt_succ_self _)

/-- The items of a block sequence up to its end. -/
def items? (depth : Nat) (s : Reading) : Option (List Node × Reading) :=
  match _ht : s.tokens with
  | .blockEnd :: rest => some ([], s.withTokens rest)
  | .blockEntry :: rest =>
    let s' := s.withTokens rest
    match (if endsBlockNode false rest then some s'.empty else node? depth true false s') with
    | none => none
    | some (item, after) =>
      if _h : after.tokens.length < s.tokens.length then
        (items? depth after).map fun (items, s) => (item :: items, s)
      else none
  | _ => none
termination_by (depth, s.tokens.length, 3)
decreasing_by all_goals simp_all [withTokens, Prod.lex_def]

/-- The items of a sequence that is not indented, up to the first token that is no item. -/
def looseItems? (depth : Nat) (s : Reading) : Option (List Node × Reading) :=
  match _ht : s.tokens with
  | .blockEntry :: rest =>
    let s' := s.withTokens rest
    match (if endsBlockNode false rest || endsBlockNode true rest then some s'.empty
      else node? depth true false s') with
    | none => none
    | some (item, after) =>
      if _h : after.tokens.length < s.tokens.length then
        (looseItems? depth after).map fun (items, s) => (item :: items, s)
      else none
  | _ => some ([], s)
termination_by (depth, s.tokens.length, 3)
decreasing_by all_goals simp_all [withTokens, Prod.lex_def]

/-- The entries of a block mapping up to its end. -/
def entries? (depth : Nat) (s : Reading) : Option (List (Node × Node) × Reading) :=
  match _ht : s.tokens with
  | .blockEnd :: rest => some ([], s.withTokens rest)
  | .key :: rest =>
    let s' := s.withTokens rest
    match (if endsBlockNode true rest then some s'.empty else node? depth true true s') with
    | none => none
    | some (key, s'') =>
      if _h₁ : s''.tokens.length < s.tokens.length then
        match blockValue? depth s'' with
        | none => none
        | some (value, after) =>
          if _h₂ : after.tokens.length < s.tokens.length then
            (entries? depth after).map fun (entries, s) => ((key, value) :: entries, s)
          else none
      else none
  | _ => none
termination_by (depth, s.tokens.length, 3)
decreasing_by all_goals simp_all [withTokens, Prod.lex_def]

/-- The value of an entry of a block mapping. -/
def blockValue? (depth : Nat) (s : Reading) : Option (Node × Reading) :=
  match _ht : s.tokens with
  | .value :: rest =>
    let s' := s.withTokens rest
    if endsBlockNode true rest then some s'.empty else node? depth true true s'
  | _ => some s.empty
termination_by (depth, s.tokens.length, 2)
decreasing_by all_goals simp_all [withTokens, Prod.lex_def]

/-- The items of a flow sequence up to its end. An item may be a single entry of a mapping. -/
def flowItems? (depth : Nat) (first : Bool) (s : Reading) : Option (List Node × Reading) :=
  if s.tokens.head? = some .flowSequenceEnd then some ([], s.withTokens s.tokens.tail)
  else
    match _hs : afterEntry? first s.tokens with
    | none => none
    | some rest =>
      if rest.head? = some .flowSequenceEnd then some ([], s.withTokens rest.tail)
      else
        match flowItem? depth (s.withTokens rest) with
        | none => none
        | some (item, after) =>
          if _h : after.tokens.length < s.tokens.length then
            (flowItems? depth false after).map fun (items, s) => (item :: items, s)
          else none
termination_by (depth, s.tokens.length, 8)
decreasing_by
  · have := length_afterEntry?_le _hs
    simp [withTokens, Prod.lex_def]
    omega
  · simp_all [Prod.lex_def]

/-- An item of a flow sequence. -/
def flowItem? (depth : Nat) (s : Reading) : Option (Node × Reading) :=
  if s.tokens.head? = some .key then
    match depth with
    | 0 => none
    | depth + 1 =>
      let s' := (s.withTokens s.tokens.tail).count 2
      match (if endsFlowKey true s'.tokens then some (s'.withTokens s'.tokens.tail).empty
        else node? depth false false s') with
      | none => none
      | some (key, s'') =>
        (flowValue? depth s'').map fun (value, s) => (.mapping none [(key, value)], s)
  else node? depth false false s
termination_by (depth, s.tokens.length, 7)
decreasing_by all_goals simp [Prod.lex_def]

/-- The value of an entry in flow style. -/
def flowValue? (depth : Nat) (s : Reading) : Option (Node × Reading) :=
  if s.tokens.head? = some .value then
    let s' := s.withTokens s.tokens.tail
    if endsFlowValue s'.tokens then some s'.empty else node? depth false false s'
  else some s.empty
termination_by (depth, s.tokens.length, 6)
decreasing_by
  simp [withTokens, Prod.lex_def]
  omega

/-- The entries of a flow mapping up to its end. -/
def flowEntries? (depth : Nat) (first : Bool) (s : Reading) :
    Option (List (Node × Node) × Reading) :=
  if s.tokens.head? = some .flowMappingEnd then some ([], s.withTokens s.tokens.tail)
  else
    match _hs : afterEntry? first s.tokens with
    | none => none
    | some rest =>
      if rest.head? = some .flowMappingEnd then some ([], s.withTokens rest.tail)
      else
        match flowPair? depth (s.withTokens rest) with
        | none => none
        | some (entry, after) =>
          if _h : after.tokens.length < s.tokens.length then
            (flowEntries? depth false after).map fun (entries, s) => (entry :: entries, s)
          else none
termination_by (depth, s.tokens.length, 8)
decreasing_by
  · have := length_afterEntry?_le _hs
    simp [withTokens, Prod.lex_def]
    omega
  · simp_all [Prod.lex_def]

/-- An entry of a flow mapping. A node without a value is a key for the empty value. -/
def flowPair? (depth : Nat) (s : Reading) : Option ((Node × Node) × Reading) :=
  if s.tokens.head? = some .key then
    let s' := s.withTokens s.tokens.tail
    match (if endsFlowKey false s'.tokens then some s'.empty else node? depth false false s') with
    | none => none
    | some (key, s'') =>
      if _h : s''.tokens.length ≤ s.tokens.length then
        (flowValue? depth s'').map fun (value, s) => ((key, value), s)
      else none
  else
    (node? depth false false s).map fun (key, s) =>
      let (value, s) := s.empty
      ((key, value), s)
termination_by (depth, s.tokens.length, 7)
decreasing_by
  · simp [withTokens, Prod.lex_def]
    omega
  · simp [Prod.lex_def]
    omega
  · simp [Prod.lex_def]

end

end Reading

/-! ## Documents -/

/-- How many collections may stand inside of each other. -/
def nestingLimit : Nat := 128

/-- The reading at the start of the content of a document. -/
def Reading.start (handles : List (String × Octets)) (tokens : List Token) : Reading :=
  ⟨tokens, handles, [], [], 0, 0⟩

/-- The declarations at the start of some tokens, and the tokens after them. -/
def directives : List Token → List Directive × List Token
  | .directive declaration :: rest =>
    let (others, rest) := directives rest
    (declaration :: others, rest)
  | rest => ([], rest)

/-- The handles that are declared, unless there are two versions, a version that is not known, or
two declarations of one handle. -/
def declaredHandles? (versioned : Bool) (handles : List (String × Octets)) :
    List Directive → Option (List (String × Octets))
  | [] => some handles
  | .version major minor :: rest =>
    if versioned || major != 1 || (minor != 1 && minor != 2) then none
    else declaredHandles? true handles rest
  | .handle name replacement :: rest =>
    if (handles.lookup name).isSome then none
    else declaredHandles? versioned ((name, replacement) :: handles) rest

/-- Whether the tokens start with one that ends the content of a document, or there are none. -/
def endsDocument : List Token → Bool
  | [] | .directive _ :: _ | .documentStart :: _ | .documentEnd :: _ => true
  | _ => false

/-- The document whose content is read, if only marks of its end are left. -/
def finish? (result : Node × Reading) : Option Document :=
  let (node, s) := result
  if s.tokens.all (· = .documentEnd) then some ⟨node, s.definitions, s.eventCount⟩ else none

/-- The document that all tokens of a text make up. A text without tokens is an empty scalar, and so
is a document without content. -/
def document? (tokens : List Token) : Option Document :=
  let (declarations, rest) := directives tokens
  match declarations, rest with
  | [], [] => finish? (Reading.start [] []).empty
  | _, .documentStart :: content =>
    (declaredHandles? false [] declarations).bind fun handles =>
      let s := Reading.start handles content
      if endsDocument content then finish? s.empty
      else (s.node? nestingLimit true false).bind finish?
  | [], _ => ((Reading.start [] tokens).node? nestingLimit true false).bind finish?
  | _ :: _, _ => none

end ConfigTree.Yaml
