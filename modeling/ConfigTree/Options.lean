import ConfigTree.Tree.Basic
import ConfigTree.Value.Literal

set_option relaxedAutoImplicit false
set_option autoImplicit false

/-!
# Options

Two choices govern how the texts of a configuration are treated: whether a text that is a literal
denotes a typed value, and whether references in a text are substituted when it is read.

## Main definitions

* `ConfigTree.Options` — the two choices.
* `ConfigTree.hasDollar` — the texts that may hold references.
* `ConfigTree.Options.store` — the form in which a value is stored.
* `ConfigTree.Options.read` — the value that the text of an option reads as.
* `ConfigTree.Options.trail` — the references that this read substitutes.
* `ConfigTree.Options.treatment` — the treatment that the options ask for.

## Implementation notes

A text with a dollar sign is stored as it is written if references are substituted, since the
value it denotes is known only after the substitution.
-/

namespace ConfigTree

/-- How the texts of a configuration are treated. -/
structure Options where
  /-- Literals denote typed values. -/
  autoInfer : Bool := true
  /-- References are substituted when a text is read. -/
  interpolate : Bool := true
  deriving DecidableEq

/-- Whether the text holds a dollar sign, and so may hold references and escapes. -/
def hasDollar (text : String) : Bool :=
  text.toList.contains '$'

namespace Options

/-- The value that a text denotes under the options. -/
def denote (options : Options) (text : String) : Value :=
  if options.autoInfer then Value.infer text else .string text

/-- The form in which a value is stored. -/
def store (options : Options) : Value → Value
  | .string text =>
    if options.interpolate && hasDollar text then .string text else options.denote text
  | value => value

/-- Whether reading the text substitutes references. -/
def substitutes (options : Options) (raw : String) : Bool :=
  options.interpolate && hasDollar raw

/-- The value that the text stored under a key of the node `id` reads as. -/
def read (options : Options) (arena : Arena) (id : Nat) (key raw : String) : Except Error Value :=
  if options.substitutes raw then
    match OptionPath.ofList? (arena.fullKey id key) with
    | some origin =>
      (Reference.substitute (arena.stored? (arena.topOf id)) origin raw).map options.denote
    | none => .error (.misplacedReference (arena.data id).level)
  else .ok (.string raw)

/-- The references that this read substitutes, in order. -/
def trail (options : Options) (arena : Arena) (id : Nat) (key raw : String) :
    List Reference.Hop :=
  match OptionPath.ofList? (arena.fullKey id key) with
  | some origin =>
    if options.substitutes raw then
      Reference.trail (arena.stored? (arena.topOf id)) origin raw
    else []
  | none => []

/-- The treatment that the options ask for. -/
def treatment (options : Options) : Treatment :=
  ⟨options.store, options.read, options.trail⟩

end Options

end ConfigTree
