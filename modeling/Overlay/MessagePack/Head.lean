/-
# Overlay.MessagePack.Head — the start of an object, in its shortest form and in any

A MessagePack object starts with a head: for a nil, a boolean or a number the head
is the whole object, for the others it says how many octets, items or pairs follow.
A number or a size can be written in several widths.  `Head.write` takes the
shortest; `readHead` takes any, through `lead`, which says for each first octet
whether it is a head by itself or how many octets complete it.
-/
import Overlay.MessagePack.Fault
import Overlay.MessagePack.Item
import Overlay.Octets.Number

namespace Overlay.MessagePack

set_option autoImplicit false

open Overlay.Octets (bigEndian ofBigEndian)

/-- The start of an object. -/
inductive Head where
  | nil
  | bool (value : Bool)
  | int (value : Int)
  | float (bits : UInt64)
  | str (size : Nat)
  | bin (size : Nat)
  | array (count : Nat)
  | map (count : Nat)
  /-- The size of application data, its code not counted. -/
  | ext (size : Nat)
  deriving DecidableEq, Repr

/-- Does the head have a written form? -/
def Head.fits : Head → Bool
  | .int value => -2 ^ 63 ≤ value && value < 2 ^ 64
  | .str size | .bin size | .array size | .map size | .ext size => size < 2 ^ 32
  | _ => true

/-- An octet by its number. -/
def octet (n : Nat) : UInt8 := UInt8.ofNat n

/-- A non-negative integer in its shortest form. -/
def writeNat (n : Nat) : Octets :=
  if n < 0x80 then [octet n]
  else if n < 2 ^ 8 then 0xCC :: bigEndian 1 n
  else if n < 2 ^ 16 then 0xCD :: bigEndian 2 n
  else if n < 2 ^ 32 then 0xCE :: bigEndian 4 n
  else 0xCF :: bigEndian 8 n

/-- The negative integer `-n - 1` in its shortest form. -/
def writeNeg (n : Nat) : Octets :=
  if n < 0x20 then [octet (2 ^ 8 - 1 - n)]
  else if n < 2 ^ 7 then 0xD0 :: bigEndian 1 (2 ^ 8 - 1 - n)
  else if n < 2 ^ 15 then 0xD1 :: bigEndian 2 (2 ^ 16 - 1 - n)
  else if n < 2 ^ 31 then 0xD2 :: bigEndian 4 (2 ^ 32 - 1 - n)
  else 0xD3 :: bigEndian 8 (2 ^ 64 - 1 - n)

/-- A size in one, two or four octets, after the first octet of that width. -/
def writeSize (one two four : UInt8) (size : Nat) : Octets :=
  if size < 2 ^ 8 then one :: bigEndian 1 size
  else if size < 2 ^ 16 then two :: bigEndian 2 size
  else four :: bigEndian 4 size

/-- The head of a container, its count in the first octet when it is below sixteen. -/
def writeCount (short : Nat) (two four : UInt8) (count : Nat) : Octets :=
  if count < 16 then [octet (short + count)]
  else if count < 2 ^ 16 then two :: bigEndian 2 count
  else four :: bigEndian 4 count

/-- The shortest form of a head. -/
def Head.write : Head → Octets
  | .nil => [0xC0]
  | .bool false => [0xC2]
  | .bool true => [0xC3]
  | .int (.ofNat n) => writeNat n
  | .int (.negSucc n) => writeNeg n
  | .float bits => 0xCB :: bigEndian 8 bits.toNat
  | .str size => if size < 32 then [octet (0xA0 + size)] else writeSize 0xD9 0xDA 0xDB size
  | .bin size => writeSize 0xC4 0xC5 0xC6 size
  | .array count => writeCount 0x90 0xDC 0xDD count
  | .map count => writeCount 0x80 0xDE 0xDF count
  | .ext 1 => [0xD4]
  | .ext 2 => [0xD5]
  | .ext 4 => [0xD6]
  | .ext 8 => [0xD7]
  | .ext 16 => [0xD8]
  | .ext size => writeSize 0xC7 0xC8 0xC9 size

/-- What the first octet of an object settles. -/
inductive Lead where
  /-- The octet is a head. -/
  | alone (head : Head)
  /-- So many octets follow and, as one number, give the head. -/
  | sized (width : Nat) (head : Nat → Head)
  /-- No object starts with the octet. -/
  | reserved

/-- A number of `8 * width` bits read as a signed one. -/
def signed (width : Nat) (n : Nat) : Int := Int.bmod n (256 ^ width)

/-- A floating-point number of 32 bits as one of 64. -/
def widen (bits : Nat) : UInt64 := (Float32.ofBits (UInt32.ofNat bits)).toFloat.toBits

/-- What the first octet settles, in every form there is. -/
def lead (first : UInt8) : Lead :=
  let n := first.toNat
  if n < 0x80 then .alone (.int n)
  else if n < 0x90 then .alone (.map (n - 0x80))
  else if n < 0xA0 then .alone (.array (n - 0x90))
  else if n < 0xC0 then .alone (.str (n - 0xA0))
  else if 0xE0 ≤ n then .alone (.int (n - 256))
  else
    match n with
    | 0xC0 => .alone .nil
    | 0xC2 => .alone (.bool false)
    | 0xC3 => .alone (.bool true)
    | 0xC4 => .sized 1 .bin
    | 0xC5 => .sized 2 .bin
    | 0xC6 => .sized 4 .bin
    | 0xC7 => .sized 1 .ext
    | 0xC8 => .sized 2 .ext
    | 0xC9 => .sized 4 .ext
    | 0xCA => .sized 4 (.float ∘ widen)
    | 0xCB => .sized 8 (.float ∘ UInt64.ofNat)
    | 0xCC => .sized 1 fun n => .int n
    | 0xCD => .sized 2 fun n => .int n
    | 0xCE => .sized 4 fun n => .int n
    | 0xCF => .sized 8 fun n => .int n
    | 0xD0 => .sized 1 fun n => .int (signed 1 n)
    | 0xD1 => .sized 2 fun n => .int (signed 2 n)
    | 0xD2 => .sized 4 fun n => .int (signed 4 n)
    | 0xD3 => .sized 8 fun n => .int (signed 8 n)
    | 0xD4 => .alone (.ext 1)
    | 0xD5 => .alone (.ext 2)
    | 0xD6 => .alone (.ext 4)
    | 0xD7 => .alone (.ext 8)
    | 0xD8 => .alone (.ext 16)
    | 0xD9 => .sized 1 .str
    | 0xDA => .sized 2 .str
    | 0xDB => .sized 4 .str
    | 0xDC => .sized 2 .array
    | 0xDD => .sized 4 .array
    | 0xDE => .sized 2 .map
    | 0xDF => .sized 4 .map
    | _ => .reserved

/-- Read the head of an object in any of its forms; what follows it is left over. -/
def readHead : Octets → Except Fault (Head × Octets)
  | [] => .error .truncated
  | first :: rest =>
    match lead first with
    | .alone head => .ok (head, rest)
    | .sized width head =>
      match Octets.split? width rest with
      | none => .error .truncated
      | some (digits, rest) => .ok (head (ofBigEndian digits), rest)
    | .reserved => .error .reserved

end Overlay.MessagePack
