/-
**Powers, code points and texts.**

A script may hold any text, and a text may hold surrogate code points, alone or in pairs that are
never joined.  A `Char` excludes surrogates, so texts are lists of code points here, messages and
labels included, because they may quote one.  Fixed wording is written as a string.
-/

set_option relaxedAutoImplicit false
set_option autoImplicit false

namespace ScriptTutor

/-! ### Powers

Most modules need the core library alone, and the proofs build on Mathlib, whose power on a monoid
would be chosen there in the place of the one of the core library.  With these instances `2 ^ n` on
numbers is the same term in both. -/

@[default_instance high]
instance natPow : Pow Nat Nat := instPowNat

instance intPow : Pow Int Nat := instPowNat

/-! ### Code points -/

/-- A code point: any number below `0x110000`, a surrogate too. -/
abbrev CodePoint := Fin 0x110000

namespace CodePoint

instance bound_ne_zero : @NeZero Nat Zero.ofOfNat0 0x110000 := ⟨by decide⟩

theorem toNat_lt (c : Char) : c.toNat < 0x110000 := by
  have h := c.valid
  simp only [UInt32.isValidChar, Nat.isValidChar] at h
  have : c.toNat = c.val.toNat := rfl
  omega

def ofChar (c : Char) : CodePoint := ⟨c.toNat, toNat_lt c⟩

instance : Coe Char CodePoint := ⟨ofChar⟩

def isSurrogate (c : CodePoint) : Bool := 0xD800 ≤ c.val && c.val < 0xE000

end CodePoint

/-- Whether a number lies in one of the ranges, which stand in increasing order. -/
def liesInRange (n : Nat) : List (Nat × Nat) → Bool
  | [] => false
  | (first, last) :: ranges => first ≤ n && (n ≤ last || liesInRange n ranges)

/-! ### Texts -/

/-- A text is a list of code points. -/
abbrev Text := List CodePoint

namespace Text

def ofString (s : String) : Text := s.toList.map CodePoint.ofChar

instance : Coe String Text := ⟨ofString⟩

/-- The texts of `ts` one after the other, with `sep` between neighbours. -/
def joinWith (sep : Text) : List Text → Text
  | [] => []
  | [t] => t
  | t :: u :: ts => t ++ sep ++ joinWith sep (u :: ts)

end Text

end ScriptTutor
