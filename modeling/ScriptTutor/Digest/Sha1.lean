/-
**SHA-1.**

Main definition:

* `ScriptTutor.Digest.sha1` — the digest of a message.

Main result:

* `ScriptTutor.Digest.length_sha1` — a digest has twenty bytes.
-/

import ScriptTutor.Digest.Block

set_option relaxedAutoImplicit false
set_option autoImplicit false

namespace ScriptTutor.Digest

namespace Sha1

structure State where
  a : UInt32
  b : UInt32
  c : UInt32
  d : UInt32
  e : UInt32

def start : State := ⟨0x67452301, 0xEFCDAB89, 0x98BADCFE, 0x10325476, 0xC3D2E1F0⟩

/-- The eighty words of the message schedule: those of the block, then each the rotated sum
modulo two of four earlier ones. -/
def schedule (block : Array UInt32) : Array UInt32 :=
  (List.range 64).foldl (fun w i =>
    w.push (rotateLeft
      (entry w (i + 13) ^^^ entry w (i + 8) ^^^ entry w (i + 2) ^^^ entry w i) 1)) block

/-- The function of round `i` on three words, and its constant. -/
def mix (i : Nat) (b c d : UInt32) : UInt32 :=
  if i < 20 then ((b &&& c) ||| (~~~b &&& d)) + 0x5A827999
  else if i < 40 then (b ^^^ c ^^^ d) + 0x6ED9EBA1
  else if i < 60 then ((b &&& c) ||| (b &&& d) ||| (c &&& d)) + 0x8F1BBCDC
  else (b ^^^ c ^^^ d) + 0xCA62C1D6

def round (w : Array UInt32) (s : State) (i : Nat) : State :=
  ⟨rotateLeft s.a 5 + mix i s.b s.c s.d + s.e + entry w i, s.a, rotateLeft s.b 30, s.c, s.d⟩

def compress (s : State) (block : Array UInt32) : State :=
  let t := (List.range 80).foldl (round (schedule block)) s
  ⟨s.a + t.a, s.b + t.b, s.c + t.c, s.d + t.d, s.e + t.e⟩

def State.bytes (s : State) : Bytes :=
  [s.a, s.b, s.c, s.d, s.e].flatMap ByteOrder.highFirst.bytes

end Sha1

def sha1 (message : Bytes) : Bytes :=
  ((ByteOrder.highFirst.blocks message).foldl Sha1.compress Sha1.start).bytes

@[simp] theorem length_sha1 (message : Bytes) : (sha1 message).length = 20 := by
  simp [sha1, Sha1.State.bytes]

end ScriptTutor.Digest
