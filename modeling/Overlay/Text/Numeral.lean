/-
# Overlay.Text.Numeral — integers as people write them

A numeral is an optional sign and digits, single underscores being allowed between
digits.  Which characters are digits is a parameter.  A numeral of more than
`maxDigits` digits is refused, whatever its value.
-/
import Overlay.Text.Blank
import Overlay.Text.Digit

namespace Overlay.Text

set_option autoImplicit false

/-- Numbers of more digits are not converted, from text or to it. -/
def maxDigits : Nat := 4300

/-- The values of digits between which single underscores may stand. -/
def groupedDigits? (digit : Char → Option Nat) : List Char → Option (List Nat)
  | [] => none
  | [c] => (digit c).map ([·])
  | c :: '_' :: rest => do return (← digit c) :: (← groupedDigits? digit rest)
  | c :: rest => do return (← digit c) :: (← groupedDigits? digit rest)

/-- A sign, if the text starts with one, and what follows it. -/
def signed : List Char → Bool × List Char
  | '-' :: rest => (true, rest)
  | '+' :: rest => (false, rest)
  | text => (false, text)

/-- The integer that a text writes. -/
def integer? (digit : Char → Option Nat) (text : List Char) : Option Int :=
  let (negative, rest) := signed text
  match groupedDigits? digit rest with
  | none => none
  | some digits =>
    if maxDigits < digits.length then none
    else
      let value : Int := ofDigits digits
      some (if negative then -value else value)

end Overlay.Text
