/-
**The digest functions of the opcodes.**
-/

import ScriptTutor.Digest.Ripemd160
import ScriptTutor.Digest.Sha1
import ScriptTutor.Digest.Sha256

set_option relaxedAutoImplicit false
set_option autoImplicit false

namespace ScriptTutor.Digest

/-- The five digest functions: three plain ones and two that digest a SHA-256 digest again. -/
inductive Algorithm where
  | ripemd160
  | sha1
  | sha256
  | hash160
  | hash256
  deriving DecidableEq

def hash160 (message : Bytes) : Bytes := Digest.ripemd160 (Digest.sha256 message)

def hash256 (message : Bytes) : Bytes := Digest.sha256 (Digest.sha256 message)

namespace Algorithm

def digest : Algorithm → Bytes → Bytes
  | ripemd160 => Digest.ripemd160
  | sha1 => Digest.sha1
  | sha256 => Digest.sha256
  | hash160 => Digest.hash160
  | hash256 => Digest.hash256

def size : Algorithm → Nat
  | ripemd160 => 20
  | sha1 => 20
  | sha256 => 32
  | hash160 => 20
  | hash256 => 32

/-- The size of a digest depends on the algorithm alone. -/
theorem length_digest (a : Algorithm) (message : Bytes) : (a.digest message).length = a.size := by
  cases a <;> simp [digest, size, Digest.hash160, Digest.hash256]

end Algorithm

end ScriptTutor.Digest
