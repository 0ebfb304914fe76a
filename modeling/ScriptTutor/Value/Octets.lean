/-
**Digests and script numbers asked of values.**

Main definitions:

* `ScriptTutor.Digest.Algorithm.ofValue` — the digest of the bytes of a value;
* `ScriptTutor.ScriptNumber.ofValue`, `ScriptTutor.ScriptNumber.ofBytes` — the script number that a
  value is, and the one that its bytes denote.
-/

import ScriptTutor.Digest.Basic
import ScriptTutor.ScriptNumber
import ScriptTutor.Value.Reading

set_option relaxedAutoImplicit false
set_option autoImplicit false

namespace ScriptTutor

/-- The digest of the bytes of a value.  RIPEMD-160 takes every value that counts as false for the
empty message. -/
def Digest.Algorithm.ofValue (a : Algorithm) (v : Value) : Except Fault Bytes :=
  match a, v.holds with
  | .ripemd160, .ok false => .ok (Digest.ripemd160 [])
  | a, _ => v.rawBytes.map a.digest

namespace ScriptNumber

/-- The script number that a value is; a truth value is none. -/
def ofValue : Value → Except Fault Int
  | .item (.number n) => .ok n
  | v => .error (.failure (.notAnInteger v.kind))

/-- The byte that a value in a list of bytes is. -/
def octet : Value → Except Fault UInt8
  | .item (.number n) => if 0 ≤ n ∧ n < 256 then .ok (UInt8.ofNat n.toNat) else .error .notAByte
  | .item (.flag b) => .ok (if b then 1 else 0)
  | _ => .error .wrongKind

/-- The script number that a list of bytes denotes; the last byte has to be there. -/
def ofOctets (vs : List Value) : Except Fault Int :=
  match vs.mapM octet with
  | .ok [] => .error .outOfRange
  | .ok bs => .ok (decode bs)
  | .error e => .error e

def ofBytes : Value → Except Fault Int
  | .list vs => ofOctets vs
  | .tuple vs => ofOctets vs
  | .mapping => .error .noEntry
  | v => v.rawBytes.map decode

/-- Whether a script number equals a value; it equals numbers and truth values only. -/
def equals (n : Int) : Value → Bool
  | .item (.number m) => n == m
  | .item (.flag b) => n == if b then 1 else 0
  | _ => false

/-- A script number as a message shows it. -/
def shown (n : Int) : Except Fault Text :=
  (printDecimal n).map fun t => "ScriptNum(" ++ t ++ ")"

end ScriptNumber

end ScriptTutor
