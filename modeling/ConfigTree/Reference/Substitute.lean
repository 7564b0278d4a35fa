import ConfigTree.Error
import ConfigTree.Reference.Scan
import ConfigTree.Value.Display
import ConfigTree.Value.Path

set_option relaxedAutoImplicit false
set_option autoImplicit false

/-!
# Substituting references

A reference is replaced by the literal text of the value it names. A text that is substituted in
this way may itself hold references only if it stands in the text that was asked for: chains of
references are limited to one hop.

Substitution is a machine with a stack of texts that wait to be written. It writes the top text up
to the next reference, pushes the text after that reference, and on top of it the text of the
referenced value. A value that is not a text is written as it is, without looking for references.

## Main definitions

* `ConfigTree.Reference.Frame`, `ConfigTree.Reference.Machine` — a waiting text; the machine.
* `ConfigTree.Reference.Machine.step` — one move of the machine.
* `ConfigTree.Reference.Machine.run` — all moves.
* `ConfigTree.Reference.substitute` — the text that the machine writes.

## Main results

* `ConfigTree.Reference.Machine.measure_step` — every move decreases the measure of the machine.

## Implementation notes

The measure counts the characters that wait at hop zero, then those at hop one, then the texts. A
reference at one hop shortens the text it stands in and adds only text at the next hop; texts beyond
the limit end the run before they are looked at.
-/

namespace ConfigTree.Reference

/-- The number of hops that a chain of references may have. -/
def hopLimit : Nat := 1

/-- A text that waits to be written. -/
structure Frame where
  /-- The option to which the text belongs. -/
  path : OptionPath
  /-- The text. -/
  text : List Char
  /-- How many references lead to the text. -/
  hops : Nat
  /-- Whether references in the text are substituted. -/
  scanned : Bool

/-- A reference that was substituted. -/
structure Hop where
  /-- The option that is referenced. -/
  target : OptionPath
  /-- The option in whose text the reference stands. -/
  context : OptionPath
  /-- The number of the hop in its chain, from one. -/
  number : Nat

/-- What was written and what waits to be written. -/
structure Machine where
  /-- The text that was written. -/
  output : List Char
  /-- The references that were substituted. -/
  trail : List Hop
  /-- The texts that wait, the next one first. -/
  stack : List Frame

/-- The outcome of one move. -/
inductive Progress where
  /-- The machine goes on. -/
  | next (machine : Machine)
  /-- The machine stops with a result. -/
  | stop (result : Except Error (List Char))

/-- The frame for the rest of a text, unless nothing is left. -/
def Frame.rest (frame : Frame) (tail : List Char) : List Frame :=
  if tail.isEmpty then [] else [{ frame with text := tail }]

/-- The frame for a referenced value. -/
def Frame.target (frame : Frame) (path : OptionPath) (value : Value) : Frame :=
  ⟨path, value.toLiteral.toList, frame.hops + 1, value.isString⟩

namespace Machine

/-- One move: the top text is written up to its first reference, and that reference is replaced. -/
def step (lookup : OptionPath → Option Value) (origin : OptionPath) (machine : Machine) :
    Progress :=
  match machine.stack with
  | [] => .stop (.ok machine.output)
  | frame :: waiting =>
    if hopLimit < frame.hops then
      .stop (.error (.deepReference frame.path.optionName origin.text hopLimit))
    else if !frame.scanned then
      .next ⟨machine.output ++ frame.text, machine.trail, waiting⟩
    else
      match scan frame.text with
      | (text, .done) => .next ⟨machine.output ++ text, machine.trail, waiting⟩
      | (_, .malformed fragment) =>
        .stop (.error (.malformedReference (String.ofList fragment) frame.path.text))
      | (text, .reference name fragment tail) =>
        match OptionPath.parse? (String.ofList name) with
        | none => .stop (.error (.malformedReference (String.ofList fragment) frame.path.text))
        | some path =>
          match lookup path with
          | none => .stop (.error (.missingReference (String.ofList name) frame.path.text))
          | some value =>
            .next ⟨machine.output ++ text, machine.trail ++ [⟨path, frame.path, frame.hops + 1⟩],
              frame.target path value :: (frame.rest tail ++ waiting)⟩

/-- The number of characters that wait at the given hop. -/
def waitingAt (hops : Nat) : List Frame → Nat
  | [] => 0
  | frame :: stack => (if frame.hops = hops then frame.text.length else 0) + waitingAt hops stack

/-- What every move decreases: the characters that wait at hop zero, those that wait at hop one, and
the number of texts that wait. -/
def measure (machine : Machine) : Nat × Nat × Nat :=
  (waitingAt 0 machine.stack, waitingAt 1 machine.stack, machine.stack.length)

/-- Nothing waits on an empty stack. -/
@[simp] theorem waitingAt_nil (hops : Nat) : waitingAt hops [] = 0 := rfl

/-- The characters of the top text wait at its hop. -/
@[simp] theorem waitingAt_cons (hops : Nat) (frame : Frame) (stack : List Frame) :
    waitingAt hops (frame :: stack) =
      (if frame.hops = hops then frame.text.length else 0) + waitingAt hops stack := rfl

/-- What is left of a text after a reference waits at the hop of the text. -/
theorem waitingAt_rest (hops : Nat) (frame : Frame) (tail : List Char) (stack : List Frame) :
    waitingAt hops (frame.rest tail ++ stack) =
      (if frame.hops = hops then tail.length else 0) + waitingAt hops stack := by
  unfold Frame.rest
  cases tail <;> simp

/-- Every move decreases the measure of the machine. -/
theorem measure_step {lookup : OptionPath → Option Value} {origin : OptionPath}
    {machine next : Machine} (h : machine.step lookup origin = .next next) :
    WellFoundedRelation.rel next.measure machine.measure := by
  have lex {a b c a' b' c' : Nat}
      (h : a < a' ∨ a = a' ∧ (b < b' ∨ b = b' ∧ c < c')) :
      WellFoundedRelation.rel (a, b, c) (a', b', c') := by
    rcases h with h | ⟨rfl, h | ⟨rfl, h⟩⟩
    · exact Prod.Lex.left _ _ h
    · exact Prod.Lex.right _ (Prod.Lex.left _ _ h)
    · exact Prod.Lex.right _ (Prod.Lex.right _ h)
  unfold measure
  unfold step at h
  split at h
  · simp at h
  · rename_i frame waiting hstack
    rw [hstack]
    split at h
    · simp at h
    · rename_i hhops
      have hhops : frame.hops = 0 ∨ frame.hops = 1 := by
        unfold hopLimit at hhops
        omega
      split at h
      · obtain rfl := Progress.next.inj h
        apply lex
        simp only [waitingAt_cons, List.length_cons]
        omega
      · split at h
        · obtain rfl := Progress.next.inj h
          apply lex
          simp only [waitingAt_cons, List.length_cons]
          omega
        · simp at h
        · rename_i hscan
          have hlt := length_lt_of_scan hscan
          split at h
          · simp at h
          · split at h
            · simp at h
            · obtain rfl := Progress.next.inj h
              apply lex
              simp only [waitingAt_cons, waitingAt_rest, Frame.target]
              rcases hhops with hhops | hhops <;> simp only [hhops] <;> simp <;> omega

/-- All moves of the machine: the result, and the references that were substituted before it. -/
def run (lookup : OptionPath → Option Value) (origin : OptionPath) (machine : Machine) :
    Except Error (List Char) × List Hop :=
  match _h : machine.step lookup origin with
  | .next machine => machine.run lookup origin
  | .stop result => (result, machine.trail)
termination_by machine.measure
decreasing_by exact measure_step _h

end Machine

/-- The machine that is to write the text of the option `origin`. -/
def start (origin : OptionPath) (raw : String) : Machine :=
  ⟨[], [], [⟨origin, raw.toList, 0, true⟩]⟩

/-- The text of the option `origin` with all of its references substituted. -/
def substitute (lookup : OptionPath → Option Value) (origin : OptionPath) (raw : String) :
    Except Error String :=
  ((start origin raw).run lookup origin).1.map String.ofList

/-- The references that are substituted in the text of the option `origin`, in order, also if the
substitution fails. -/
def trail (lookup : OptionPath → Option Value) (origin : OptionPath) (raw : String) : List Hop :=
  ((start origin raw).run lookup origin).2

end ConfigTree.Reference
