/-
**RIPEMD-160.**

A block goes through two lines of eighty rounds side by side, which read its words in different
orders; their results are added to the chaining state crosswise.

Main definition:

* `ScriptTutor.Digest.ripemd160` — the digest of a message.

Main result:

* `ScriptTutor.Digest.length_ripemd160` — a digest has twenty bytes.
-/

import ScriptTutor.Digest.Block

set_option relaxedAutoImplicit false
set_option autoImplicit false

namespace ScriptTutor.Digest

namespace Ripemd160

structure State where
  a : UInt32
  b : UInt32
  c : UInt32
  d : UInt32
  e : UInt32

def start : State := ⟨0x67452301, 0xEFCDAB89, 0x98BADCFE, 0x10325476, 0xC3D2E1F0⟩

/-- The five functions on three words that the rounds use, sixteen rounds each. -/
def mix (group : Nat) (x y z : UInt32) : UInt32 :=
  match group with
  | 0 => x ^^^ y ^^^ z
  | 1 => (x &&& y) ||| (~~~x &&& z)
  | 2 => (x ||| ~~~y) ^^^ z
  | 3 => (x &&& z) ||| (y &&& ~~~z)
  | _ => x ^^^ (y ||| ~~~z)

/-- A line of rounds: the word that each round reads, how far it rotates, the constant of each
group of sixteen rounds, and the function of each group. -/
structure Line where
  word : Array Nat
  amount : Array UInt32
  constant : Array UInt32
  group : Nat → Nat

/-- The left line takes the five functions in order. -/
def left : Line where
  word := #[
    0, 1, 2, 3, 4, 5, 6, 7, 8, 9, 10, 11, 12, 13, 14, 15,
    7, 4, 13, 1, 10, 6, 15, 3, 12, 0, 9, 5, 2, 14, 11, 8,
    3, 10, 14, 4, 9, 15, 8, 1, 2, 7, 0, 6, 13, 11, 5, 12,
    1, 9, 11, 10, 0, 8, 12, 4, 13, 3, 7, 15, 14, 5, 6, 2,
    4, 0, 5, 9, 7, 12, 2, 10, 14, 1, 3, 8, 11, 6, 15, 13]
  amount := #[
    11, 14, 15, 12, 5, 8, 7, 9, 11, 13, 14, 15, 6, 7, 9, 8,
    7, 6, 8, 13, 11, 9, 7, 15, 7, 12, 15, 9, 11, 7, 13, 12,
    11, 13, 6, 7, 14, 9, 13, 15, 14, 8, 13, 6, 5, 12, 7, 5,
    11, 12, 14, 15, 14, 15, 9, 8, 9, 14, 5, 6, 8, 6, 5, 12,
    9, 15, 5, 11, 6, 8, 13, 12, 5, 12, 13, 14, 11, 8, 5, 6]
  constant := #[0x00000000, 0x5A827999, 0x6ED9EBA1, 0x8F1BBCDC, 0xA953FD4E]
  group := fun k => k

/-- The right line takes the five functions backwards. -/
def right : Line where
  word := #[
    5, 14, 7, 0, 9, 2, 11, 4, 13, 6, 15, 8, 1, 10, 3, 12,
    6, 11, 3, 7, 0, 13, 5, 10, 14, 15, 8, 12, 4, 9, 1, 2,
    15, 5, 1, 3, 7, 14, 6, 9, 11, 8, 12, 2, 10, 0, 4, 13,
    8, 6, 4, 1, 3, 11, 15, 0, 5, 12, 2, 13, 9, 7, 10, 14,
    12, 15, 10, 4, 1, 5, 8, 7, 6, 2, 13, 14, 0, 3, 9, 11]
  amount := #[
    8, 9, 9, 11, 13, 15, 15, 5, 7, 7, 8, 11, 14, 14, 12, 6,
    9, 13, 15, 7, 12, 8, 9, 11, 7, 7, 12, 7, 6, 15, 13, 11,
    9, 7, 15, 11, 8, 6, 6, 14, 12, 13, 5, 14, 13, 13, 7, 5,
    15, 5, 8, 11, 14, 14, 6, 14, 6, 9, 12, 9, 12, 5, 15, 8,
    8, 5, 12, 9, 12, 5, 14, 6, 8, 13, 6, 5, 15, 13, 11, 11]
  constant := #[0x50A28BE6, 0x5C4DD124, 0x6D703EF3, 0x7A6D76E9, 0x00000000]
  group := fun k => 4 - k

def Line.round (l : Line) (block : Array UInt32) (s : State) (i : Nat) : State :=
  let sum := s.a + mix (l.group (i / 16)) s.b s.c s.d + entry block (l.word.getD i 0) +
    entry l.constant (i / 16)
  ⟨s.e, rotateLeft sum (entry l.amount i) + s.e, s.b, rotateLeft s.c 10, s.d⟩

def Line.run (l : Line) (block : Array UInt32) (s : State) : State :=
  (List.range 80).foldl (l.round block) s

def compress (s : State) (block : Array UInt32) : State :=
  let l := left.run block s
  let r := right.run block s
  ⟨s.b + l.c + r.d, s.c + l.d + r.e, s.d + l.e + r.a, s.e + l.a + r.b, s.a + l.b + r.c⟩

def State.bytes (s : State) : Bytes :=
  [s.a, s.b, s.c, s.d, s.e].flatMap ByteOrder.lowFirst.bytes

end Ripemd160

def ripemd160 (message : Bytes) : Bytes :=
  ((ByteOrder.lowFirst.blocks message).foldl Ripemd160.compress Ripemd160.start).bytes

@[simp] theorem length_ripemd160 (message : Bytes) : (ripemd160 message).length = 20 := by
  simp [ripemd160, Ripemd160.State.bytes]

end ScriptTutor.Digest
