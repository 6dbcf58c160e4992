/-
# Overlay.Datum.Equality — which values are the same, and which can be counted

Numbers are the same when their values are, octets when their contents are however
they are held, lists and tuples item by item within their own sort, maps as sets of
entries, and records and configurations field by field.  Of objects that nothing is
known about, and of reports, each is the same as itself alone.

A floating-point number that is no number is not even the same as itself, but where
values are compared as parts of others or as members of a set it is: there one that is
`identical` counts as the same.

A set can only hold values that do not change, so lists, maps, octets to be changed
and settings have no place in one (`isLasting`), nor has anything that contains them.
-/
import Overlay.Datum.Number

namespace Overlay.Datum

set_option autoImplicit false

/-- Is the value these octets, however held? -/
def sameOctets : Datum → Octets → Bool
  | .octets _ a, b => a == b
  | _, _ => false

/-- Are these one and the same object, of those that can be told apart in no other way? -/
def identical : Datum → Datum → Bool
  | .float a origin, .float b origin' =>
    Decimal.Parts.ofBits a == .nan && a == b && origin == origin'
  | .foreign a, .foreign b => a == b
  | _, _ => false

/-- Are both values one record? -/
def sameRecord (a b : Datum) : Bool :=
  match a.record?, b.record? with
  | some r, some s => r == s
  | _, _ => false

/-- Are both values one number? -/
def sameNumber (a b : Datum) : Bool :=
  match a.number?, b.number? with
  | some x, some y => x == y
  | _, _ => false

mutual

/-- Are two values the same? -/
def same : Datum → Datum → Bool
  | .none, .none => true
  | .text a, .text b => a == b
  | .octets _ a, .octets _ b => a == b
  | .list a, .list b => sameAll a b
  | .tuple a, .tuple b => sameAll a b
  | .tuple a, .ext code data => sameAll a [.int code.toNat, .octets .fixed data]
  | .ext code data, .tuple [c, d] =>
    c.number? == some (.whole code.toNat) && sameOctets d data
  | .ext code data, .ext code' data' => code == code' && data == data'
  | .mapping a, .mapping b => a.length == b.length && sameEntries a b
  | .draftTable name owner rows, .draftTable name' owner' rows' =>
    (identical name name' || same name name') && (identical owner owner' || same owner owner') &&
      rows == rows'
  | .draftCoin name owners previous signatures, .draftCoin name' owners' previous' signatures' =>
    (identical name name' || same name name') && sameAll owners owners' && sameAll previous previous' &&
      signatures == signatures'
  | .draftKey tags publicKey secretKey, .draftKey tags' publicKey' secretKey' =>
    (identical tags tags' || same tags tags') && publicKey == publicKey' && secretKey == secretKey'
  | .unknown a, .unknown b => identical a b || same a b
  | .foreign a, .foreign b => a == b
  | .tagFamily a, .tagFamily b => a == b
  | .config a, .config b => a == b
  | .settings a, .settings b => a == b
  | .outcome a, .outcome b => a == b
  | a, b => sameRecord a b || sameNumber a b

/-- Are two lists the same item by item? -/
def sameAll : List Datum → List Datum → Bool
  | [], [] => true
  | a :: as, b :: bs => (identical a b || same a b) && sameAll as bs
  | _, _ => false

/-- Does every entry of the first map stand in the second? -/
def sameEntries : List (Datum × Datum) → List (Datum × Datum) → Bool
  | [], _ => true
  | (key, value) :: rest, entries =>
    entries.any (fun entry => (identical key entry.1 || same key entry.1) &&
      (identical value entry.2 || same value entry.2)) && sameEntries rest entries

end

/-- Do two values count as one where they are parts of others or members of a set? -/
def held (a b : Datum) : Bool := identical a b || same a b

mutual

/-- Can the value be held in a set? -/
def isLasting : Datum → Bool
  | .list _ | .mapping _ | .octets .growing _ | .settings _ => false
  | .tuple items => areLasting items
  | .draftTable name owner _ => name.isLasting && owner.isLasting
  | .draftCoin name owners previous _ =>
    name.isLasting && areLasting owners && areLasting previous
  | .draftKey tags _ _ => tags.isLasting
  | .unknown tag => tag.isLasting
  | _ => true

/-- Can every value of a list be held in a set? -/
def areLasting : List Datum → Bool
  | [] => true
  | datum :: rest => datum.isLasting && areLasting rest

end

/-- The values with one of each. -/
def distinct (data : List Datum) : List Datum :=
  data.foldl (fun found datum => if found.any (held datum) then found else datum :: found) []

/-- A map of entries: of those with the same key the first keeps its place and the last gives the
value.  A key must last. -/
def mapping? (entries : List (Datum × Datum)) : Option Datum :=
  let put (found : List (Datum × Datum)) (entry : Datum × Datum) : List (Datum × Datum) :=
    if found.any fun known => held known.1 entry.1 then
      found.map fun known => if held known.1 entry.1 then (known.1, entry.2) else known
    else found ++ [entry]
  if entries.all fun entry => entry.1.isLasting then some (.mapping (entries.foldl put []))
  else Option.none

end Overlay.Datum
