/-
**Words and blocks of a message.**

The three digest functions share one frame: the message is padded to a multiple of 64 bytes, cut
into blocks of sixteen 32-bit words, and a chaining state goes through the blocks.  They differ in
the order of the bytes in a word and in the compression of a block.

Main definitions:

* `ScriptTutor.Digest.ByteOrder` — which end of a word comes first;
* `ScriptTutor.Digest.ByteOrder.word`, `ScriptTutor.Digest.ByteOrder.bytes` — four bytes as a
  word, and a word as four bytes;
* `ScriptTutor.Digest.ByteOrder.blocks` — the blocks of the padded message.

Main result:

* `ScriptTutor.Digest.ByteOrder.length_pad_mod` — a padded message **is made of whole blocks**.
-/

import ScriptTutor.Bytes

set_option relaxedAutoImplicit false
set_option autoImplicit false

namespace ScriptTutor.Digest

/-- The word rotated to the left; the amount lies between 1 and 31. -/
def rotateLeft (w k : UInt32) : UInt32 := (w <<< k) ||| (w >>> (32 - k))

def rotateRight (w k : UInt32) : UInt32 := (w >>> k) ||| (w <<< (32 - k))

/-- Which byte of a word comes first: the high one or the low one. -/
inductive ByteOrder where
  | highFirst
  | lowFirst

namespace ByteOrder

def word : ByteOrder → UInt8 → UInt8 → UInt8 → UInt8 → UInt32
  | highFirst, a, b, c, d =>
    (a.toUInt32 <<< 24) ||| (b.toUInt32 <<< 16) ||| (c.toUInt32 <<< 8) ||| d.toUInt32
  | lowFirst, a, b, c, d =>
    (d.toUInt32 <<< 24) ||| (c.toUInt32 <<< 16) ||| (b.toUInt32 <<< 8) ||| a.toUInt32

def bytes : ByteOrder → UInt32 → Bytes
  | highFirst, w => [(w >>> 24).toUInt8, (w >>> 16).toUInt8, (w >>> 8).toUInt8, w.toUInt8]
  | lowFirst, w => [w.toUInt8, (w >>> 8).toUInt8, (w >>> 16).toUInt8, (w >>> 24).toUInt8]

@[simp] theorem length_bytes (o : ByteOrder) (w : UInt32) : (o.bytes w).length = 4 := by
  cases o <;> rfl

/-- The words of a byte string whose length is a multiple of four. -/
def words (o : ByteOrder) : Bytes → List UInt32
  | a :: b :: c :: d :: bs => o.word a b c d :: words o bs
  | _ => []

/-- The length of a message in bits, in eight bytes. -/
def lengthField (o : ByteOrder) (n : Nat) : Bytes :=
  let high := UInt32.ofNat (8 * n / 2 ^ 32)
  let low := UInt32.ofNat (8 * n)
  match o with
  | highFirst => o.bytes high ++ o.bytes low
  | lowFirst => o.bytes low ++ o.bytes high

/-- The message with a one bit, as many zero bits as make whole blocks, and its length. -/
def pad (o : ByteOrder) (message : Bytes) : Bytes :=
  let n := message.length
  message ++ 0x80 :: List.replicate ((119 - n % 64) % 64) 0 ++ o.lengthField n

@[simp] theorem length_lengthField (o : ByteOrder) (n : Nat) : (o.lengthField n).length = 8 := by
  cases o <;> simp [lengthField]

/-- A padded message is made of whole blocks of 64 bytes. -/
theorem length_pad_mod (o : ByteOrder) (message : Bytes) : (o.pad message).length % 64 = 0 := by
  simp only [pad, List.length_append, List.length_cons, List.length_replicate, length_lengthField]
  omega

/-- The padded message in blocks of sixteen words. -/
def blocks (o : ByteOrder) (message : Bytes) : List (Array UInt32) :=
  let ws := (o.words (o.pad message)).toArray
  (List.range (ws.size / 16)).map fun i => ws.extract (16 * i) (16 * i + 16)

end ByteOrder

/-- The entry of a table; an index past its end gives zero. -/
def entry (table : Array UInt32) (i : Nat) : UInt32 := table.getD i 0

end ScriptTutor.Digest
