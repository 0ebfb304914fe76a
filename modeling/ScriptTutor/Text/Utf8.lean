/-
**The UTF-8 bytes of a text.**

A text on the stack is hashed, measured and compared as its UTF-8 bytes.  A surrogate is written
by the three-byte pattern that its number calls for, and two surrogates in a row by two patterns;
so every text has an encoding, and different texts have different ones.
-/

import ScriptTutor.Bytes

set_option relaxedAutoImplicit false
set_option autoImplicit false

namespace ScriptTutor

/-- A continuation byte: it carries the low six bits of `n`. -/
def continuationByte (n : Nat) : UInt8 := UInt8.ofNat (0x80 + n % 0x40)

def CodePoint.utf8 (c : CodePoint) : Bytes :=
  let n := c.val
  if n < 0x80 then [UInt8.ofNat n]
  else if n < 0x800 then [UInt8.ofNat (0xC0 + n / 0x40), continuationByte n]
  else if n < 0x10000 then
    [UInt8.ofNat (0xE0 + n / 0x1000), continuationByte (n / 0x40), continuationByte n]
  else
    [UInt8.ofNat (0xF0 + n / 0x40000), continuationByte (n / 0x1000),
      continuationByte (n / 0x40), continuationByte n]

theorem CodePoint.utf8_ne_nil (c : CodePoint) : c.utf8 ≠ [] := by
  simp only [CodePoint.utf8]
  split
  · simp
  · split
    · simp
    · split <;> simp

def Text.utf8 (t : Text) : Bytes := t.flatMap CodePoint.utf8

@[simp] theorem Text.utf8_nil : Text.utf8 [] = [] := rfl

@[simp] theorem Text.utf8_cons (c : CodePoint) (t : Text) :
    Text.utf8 (c :: t) = c.utf8 ++ Text.utf8 t := rfl

end ScriptTutor
