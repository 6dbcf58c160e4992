/-
# Overlay.Datum.Json — a value as JSON, where it has a JSON form

Numbers, text, lists and tuples have one.  So has a map whose keys can be written as
text and put in order: keys that are all text, in the order of their characters, keys
that are all numbers, in the order of the numbers, or nothing as the only key.  A key
that is a floating-point number but no number stays where binary insertion leaves it.
Every other value has none, and nothing that contains one has.
-/
import Overlay.BinaryInsertion
import Overlay.Datum.Number
import Overlay.Json

namespace Overlay.Datum

set_option autoImplicit false

/-! ## Keys -/

/-- The text that a key of a map becomes. -/
def keyText? : Datum → Option String
  | .text t => some t
  | .bool value => some (Json.compact (.bool value))
  | .int value => some (Json.compact (.int value))
  | .registered t => some (Json.compact (.int t.number))
  | .float bits _ => some (Json.compact (.float bits))
  | .none => some (Json.compact .null)
  | _ => Option.none

/-- Where a number stands: below all others, at a quotient of two integers, above all others, or
nowhere. -/
inductive Place where
  | nowhere
  | lowest
  | at (numerator : Int) (denominator : Nat)
  | highest

/-- Does the first place lie below the second? -/
def Place.isBelow : Place → Place → Bool
  | .nowhere, _ | _, .nowhere => false
  | .highest, _ | _, .lowest => false
  | .lowest, _ | _, .highest => true
  | .at a b, .at c d => a * d < c * b

/-- The place of a value that is a number. -/
def place : Datum → Place
  | .bool value => .at (if value then 1 else 0) 1
  | .int value => .at value 1
  | .registered t => .at t.number 1
  | .float bits _ =>
    match Decimal.Parts.ofBits bits with
    | .nan => .nowhere
    | .infinite negative => if negative then .lowest else .highest
    | .zero _ => .at 0 1
    | .finite negative b =>
      if 0 ≤ b.exponent then .at (signedInt negative (b.significand * 2 ^ b.exponent.toNat)) 1
      else .at (signedInt negative b.significand) (2 ^ (-b.exponent).toNat)
  | _ => .nowhere

/-- The text of a value that is text. -/
def text? : Datum → Option String
  | .text t => some t
  | _ => Option.none

/-- Entries in the order of their keys, if the keys have one. -/
def sortedEntries? {α : Type} (entries : List (Datum × α)) : Option (List (Datum × α)) :=
  if entries.length ≤ 1 then some entries
  else if entries.all fun entry => entry.1.text?.isSome then
    some (entries.mergeSort fun a b => a.1.text?.getD "" ≤ b.1.text?.getD "")
  else if entries.all fun entry => entry.1.isNumeric then
    some (BinaryInsertion.sort (fun a b => a.1.place.isBelow b.1.place) entries)
  else Option.none

/-! ## Values -/

mutual

/-- The JSON form of a value. -/
def toJson? : Datum → Option Json
  | .none => some .null
  | .bool value => some (.bool value)
  | .int value => some (.int value)
  | .registered t => some (.int t.number)
  | .float bits _ => some (.float bits)
  | .text t => some (.text t)
  | .list items | .tuple items => (allToJson? items).map .array
  | .mapping entries => do
    let members ← entriesToJson? entries
    let members ← sortedEntries? members
    return .object (← members.mapM fun (key, value) => key.keyText?.map (·, value))
  | _ => Option.none

/-- The JSON form of every value of a list. -/
def allToJson? : List Datum → Option (List Json)
  | [] => some []
  | datum :: rest => do return (← datum.toJson?) :: (← allToJson? rest)

/-- The entries of a map with the JSON form of every value. -/
def entriesToJson? : List (Datum × Datum) → Option (List (Datum × Json))
  | [] => some []
  | (key, value) :: rest => do return (key, ← value.toJson?) :: (← entriesToJson? rest)

end

end Overlay.Datum
