/-
# Overlay.Hash.Sha2 — the SHA-2 family of hash functions

SHA-256 and SHA-512 (FIPS 180-4) are one algorithm over two word sizes.  A message
is padded with a one bit, zeros and its length to whole blocks of sixteen words;
each block is expanded to a schedule, and the schedule drives a compression of
eight state words.  `Variant` holds what differs: the rotations, the constants and
the initial state.

A digest is the eight state words, so its length is fixed (`length_digest`).
-/
import Overlay.Octets.Number

namespace Overlay.Hash

set_option autoImplicit false

open Overlay.Octets (bigEndian ofBigEndian)

/-- Words on which the algorithm runs. -/
class Word (ω : Type) extends Add ω, XorOp ω, AndOp ω, Complement ω, Inhabited ω where
  /-- Octets in a word. -/
  size : Nat
  rotate : ω → Nat → ω
  shift : ω → Nat → ω
  ofNat : Nat → ω
  toNat : ω → Nat

instance : Word UInt32 where
  size := 4
  rotate x n := (x >>> UInt32.ofNat n) ||| (x <<< UInt32.ofNat (32 - n))
  shift x n := x >>> UInt32.ofNat n
  ofNat := UInt32.ofNat
  toNat := UInt32.toNat

instance : Word UInt64 where
  size := 8
  rotate x n := (x >>> UInt64.ofNat n) ||| (x <<< UInt64.ofNat (64 - n))
  shift x n := x >>> UInt64.ofNat n
  ofNat := UInt64.ofNat
  toNat := UInt64.toNat

/-- The eight words that the compression works on. -/
structure State (ω : Type) where
  a : ω
  b : ω
  c : ω
  d : ω
  e : ω
  f : ω
  g : ω
  h : ω

/-- What tells the members of the family apart. -/
structure Variant (ω : Type) where
  /-- Rotations of the two functions that mix the state. -/
  mix0 : Nat × Nat × Nat
  mix1 : Nat × Nat × Nat
  /-- Rotations, and last a shift, of the two functions that expand a block. -/
  expand0 : Nat × Nat × Nat
  expand1 : Nat × Nat × Nat
  /-- One constant for each round. -/
  constants : List ω
  initial : State ω

variable {ω : Type} [Word ω]

/-- Three rotations of a word combined. -/
@[specialize] def mix (amounts : Nat × Nat × Nat) (x : ω) : ω :=
  Word.rotate x amounts.1 ^^^ Word.rotate x amounts.2.1 ^^^ Word.rotate x amounts.2.2

/-- Two rotations and a shift of a word combined. -/
@[specialize] def expand (amounts : Nat × Nat × Nat) (x : ω) : ω :=
  Word.rotate x amounts.1 ^^^ Word.rotate x amounts.2.1 ^^^ Word.shift x amounts.2.2

/-- The first `count` words that a string of octets writes. -/
@[specialize] def words : (count : Nat) → Octets → List ω
  | 0, _ => []
  | count + 1, octets =>
    let (front, rest) := octets.splitAt (Word.size ω)
    Word.ofNat (ofBigEndian front) :: words count rest

/-- A window of sixteen schedule words moved on by one. -/
@[specialize] def slide (v : Variant ω) : List ω → List ω
  | [w0, w1, w2, w3, w4, w5, w6, w7, w8, w9, wA, wB, wC, wD, wE, wF] =>
    [w1, w2, w3, w4, w5, w6, w7, w8, w9, wA, wB, wC, wD, wE, wF,
      expand v.expand1 wE + w9 + expand v.expand0 w1 + w0]
  | window => window

/-- One round on the state, with its schedule word and its constant. -/
@[specialize] def round (v : Variant ω) (s : State ω) (word constant : ω) : State ω :=
  let choice := (s.e &&& s.f) ^^^ (~~~s.e &&& s.g)
  let majority := (s.a &&& s.b) ^^^ (s.a &&& s.c) ^^^ (s.b &&& s.c)
  let first := s.h + mix v.mix1 s.e + choice + constant + word
  let second := mix v.mix0 s.a + majority
  ⟨first + second, s.a, s.b, s.c, s.d + first, s.e, s.f, s.g⟩

/-- All rounds on one block, each taking the first word of the window and moving it on. -/
@[specialize] def rounds (v : Variant ω) : List ω → List ω → State ω → State ω
  | [], _, s => s
  | constant :: constants, window, s =>
    rounds v constants (slide v window) (round v s (window.headD default) constant)

/-- Compress one block into the state. -/
@[specialize] def compress (v : Variant ω) (s : State ω) (block : List ω) : State ω :=
  let t := rounds v v.constants block s
  ⟨s.a + t.a, s.b + t.b, s.c + t.c, s.d + t.d, s.e + t.e, s.f + t.f, s.g + t.g, s.h + t.h⟩

/-- Compress `count` blocks of octets into the state. -/
@[specialize] def absorb (v : Variant ω) : (count : Nat) → State ω → Octets → State ω
  | 0, s, _ => s
  | count + 1, s, octets =>
    let (block, rest) := octets.splitAt (16 * Word.size ω)
    absorb v count (compress v s (words 16 block)) rest

/-- What is appended to a message of the given length: a one bit, zeros, and the length in bits in
the last two words of a block. -/
def padding (size length : Nat) : Octets :=
  let block := 16 * size
  let used := (length + 1 + 2 * size) % block
  0x80 :: List.replicate (if used = 0 then 0 else block - used) 0 ++ bigEndian (2 * size) (8 * length)

/-- The octets of the state, word after word. -/
def State.octets (s : State ω) : Octets :=
  [s.a, s.b, s.c, s.d, s.e, s.f, s.g, s.h].flatMap fun word =>
    bigEndian (Word.size ω) (Word.toNat word)

/-- The digest of a message. -/
@[specialize] def Variant.digest (v : Variant ω) (message : Octets) : Octets :=
  let padded := message ++ padding (Word.size ω) message.length
  (absorb v (padded.length / (16 * Word.size ω)) v.initial padded).octets

@[simp] theorem length_digest (v : Variant ω) (message : Octets) :
    (v.digest message).length = 8 * Word.size ω := by
  simp [Variant.digest, State.octets]
  omega

end Overlay.Hash
