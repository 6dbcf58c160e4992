/-
# Overlay.Environment.Reference — texts that refer to variables

In a text a dollar sign and a name in braces refer to a variable; `:-` after the
name may give a default.  The reference is replaced by the text of the variable, or
by the default where there is no such variable, or by nothing where there is no
default either.  Neither a name nor a default holds a closing brace, and a name holds
no colon; whatever does not keep to this is no reference and stands as it is.
-/

namespace Overlay.Environment

set_option autoImplicit false

/-- A reference to a variable. -/
structure Reference where
  name : String
  default : String
  deriving DecidableEq, Repr

namespace Reference

/-- The reference that stands between two braces, if what stands there is one. -/
def ofBody? (body : List Char) : Option Reference :=
  let name := String.ofList (body.takeWhile (· != ':'))
  match body.dropWhile (· != ':') with
  | [] => some ⟨name, ""⟩
  | _ :: '-' :: default => some ⟨name, String.ofList default⟩
  | _ => none

/-- Is this not the brace that ends a reference? -/
def isInside (c : Char) : Bool := c != '\x7d'

/-- The reference whose body is at the front, and what follows it. -/
def atFront? (text : List Char) : Option (Reference × List Char) :=
  match text.dropWhile isInside with
  | [] => none
  | _ :: rest => (ofBody? (text.takeWhile isInside)).map (·, rest)

theorem length_lt_of_atFront? {text rest : List Char} {reference : Reference}
    (h : atFront? text = some (reference, rest)) : rest.length < text.length := by
  unfold atFront? at h
  have bound := (List.dropWhile_sublist isInside (l := text)).length_le
  split at h
  · cases h
  · next tail found =>
    rw [found] at bound
    simp only [Option.map_eq_some_iff, Prod.mk.injEq] at h
    obtain ⟨_, _, _, rfl⟩ := h
    exact bound

/-- The text that a reference is replaced by, where `textOf?` gives the text of a variable. -/
def resolve (textOf? : String → Option String) (reference : Reference) : String :=
  (textOf? reference.name).getD reference.default

end Reference

/-- A text with every reference replaced. -/
def expand (textOf? : String → Option String) : List Char → List Char
  | '$' :: '\x7b' :: text =>
    match _ : Reference.atFront? text with
    | some (reference, rest) => (reference.resolve textOf?).toList ++ expand textOf? rest
    | none => '$' :: expand textOf? ('\x7b' :: text)
  | c :: rest => c :: expand textOf? rest
  | [] => []
termination_by text => text.length
decreasing_by
  · have := Reference.length_lt_of_atFront? ‹_›
    simp only [List.length_cons]; omega
  all_goals simp

end Overlay.Environment
