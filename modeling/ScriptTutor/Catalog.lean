/-
**The catalog of opcodes.**

The catalog lists every opcode that the script builder knows of, also those that are disabled.  It
says what may be used; the dispatch table says what runs.

Main definitions:

* `ScriptTutor.Category` — the groups of the catalog;
* `ScriptTutor.CatalogEntry` — an entry;
* `ScriptTutor.Catalog.entries` — all entries, in order;
* `ScriptTutor.Catalog.find?` — the entry of a name in any letter case;
* `ScriptTutor.Catalog.isEnabled` — whether a name may be used.
-/

import ScriptTutor.Text.LetterCase
import ScriptTutor.Value.Basic

set_option relaxedAutoImplicit false
set_option autoImplicit false

namespace ScriptTutor

inductive Category where
  | push
  | stack
  | arithmetic
  | comparison
  | cryptographic
  | control
  | disabled
  deriving DecidableEq

namespace Category

def name : Category → Text
  | push => "Push"
  | stack => "Stack"
  | arithmetic => "Arithmetic"
  | comparison => "Comparison"
  | cryptographic => "Cryptographic"
  | control => "Control Flow"
  | disabled => "Disabled"

/-- The groups in the order in which they are offered. -/
def all : List Category :=
  [push, stack, arithmetic, comparison, cryptographic, control, disabled]

end Category

structure CatalogEntry where
  name : Text
  /-- The byte that stands for the opcode in a compiled script. -/
  code : UInt8
  category : Category
  description : Text
  enabled : Bool

def CatalogEntry.codeText (e : CatalogEntry) : Text := "0x" ++ Bytes.toHex [e.code]

namespace Catalog

def numbered (n : Nat) : CatalogEntry :=
  ⟨"OP_" ++ decimalText n, UInt8.ofNat (0x50 + n), .push, "Push " ++ decimalText n, true⟩

def pushes : List CatalogEntry :=
  [⟨"OP_0", 0x00, .push, "Push empty array (false)", true⟩,
   ⟨"OP_FALSE", 0x00, .push, "Alias of OP_0", true⟩,
   ⟨"OP_1NEGATE", 0x4F, .push, "Push -1", true⟩,
   ⟨"OP_TRUE", 0x51, .push, "Alias of OP_1", true⟩] ++
  (List.range 16).map fun i => numbered (i + 1)

def stackEntries : List CatalogEntry :=
  [⟨"OP_TOALTSTACK", 0x6B, .stack, "Move top item to the alt stack", true⟩,
   ⟨"OP_FROMALTSTACK", 0x6C, .stack, "Move top alt stack item to the main stack", true⟩,
   ⟨"OP_2DROP", 0x6D, .stack, "Remove top two items", true⟩,
   ⟨"OP_2DUP", 0x6E, .stack, "Duplicate top two items", true⟩,
   ⟨"OP_3DUP", 0x6F, .stack, "Duplicate top three items", true⟩,
   ⟨"OP_2OVER", 0x70, .stack, "Copy the 3rd and 4th items to the top", true⟩,
   ⟨"OP_2SWAP", 0x72, .stack, "Swap the top two pairs of items", true⟩,
   ⟨"OP_IFDUP", 0x73, .stack, "Duplicate top item if it is true", true⟩,
   ⟨"OP_DEPTH", 0x74, .stack, "Push the number of stack items", true⟩,
   ⟨"OP_DROP", 0x75, .stack, "Remove top stack item", true⟩,
   ⟨"OP_DUP", 0x76, .stack, "Duplicate top stack item", true⟩,
   ⟨"OP_NIP", 0x77, .stack, "Remove second-to-top item", true⟩,
   ⟨"OP_OVER", 0x78, .stack, "Copy second-to-top to top", true⟩,
   ⟨"OP_ROT", 0x7B, .stack, "Rotate top three items", true⟩,
   ⟨"OP_SWAP", 0x7C, .stack, "Swap top two items", true⟩,
   ⟨"OP_TUCK", 0x7D, .stack, "Copy top below second", true⟩,
   ⟨"OP_SIZE", 0x82, .stack, "Push the byte length of the top item", true⟩]

def arithmeticEntries : List CatalogEntry :=
  [⟨"OP_1ADD", 0x8B, .arithmetic, "a + 1", true⟩,
   ⟨"OP_1SUB", 0x8C, .arithmetic, "a - 1", true⟩,
   ⟨"OP_NEGATE", 0x8F, .arithmetic, "-a", true⟩,
   ⟨"OP_ABS", 0x90, .arithmetic, "abs(a)", true⟩,
   ⟨"OP_NOT", 0x91, .arithmetic, "!a (logical)", true⟩,
   ⟨"OP_0NOTEQUAL", 0x92, .arithmetic, "a != 0", true⟩,
   ⟨"OP_ADD", 0x93, .arithmetic, "a + b", true⟩,
   ⟨"OP_SUB", 0x94, .arithmetic, "a - b", true⟩,
   ⟨"OP_BOOLAND", 0x9A, .arithmetic, "a and b both non-zero", true⟩,
   ⟨"OP_BOOLOR", 0x9B, .arithmetic, "a or b non-zero", true⟩]

def comparisonEntries : List CatalogEntry :=
  [⟨"OP_EQUAL", 0x87, .comparison, "Returns 1 if equal, else 0", true⟩,
   ⟨"OP_EQUALVERIFY", 0x88, .comparison, "OP_EQUAL + OP_VERIFY", true⟩,
   ⟨"OP_NUMEQUAL", 0x9C, .comparison, "a == b (numeric)", true⟩,
   ⟨"OP_NUMEQUALVERIFY", 0x9D, .comparison, "OP_NUMEQUAL + OP_VERIFY", true⟩,
   ⟨"OP_NUMNOTEQUAL", 0x9E, .comparison, "a != b (numeric)", true⟩,
   ⟨"OP_LESSTHAN", 0x9F, .comparison, "a < b", true⟩,
   ⟨"OP_GREATERTHAN", 0xA0, .comparison, "a > b", true⟩,
   ⟨"OP_LESSTHANOREQUAL", 0xA1, .comparison, "a <= b", true⟩,
   ⟨"OP_GREATERTHANOREQUAL", 0xA2, .comparison, "a >= b", true⟩,
   ⟨"OP_MIN", 0xA3, .comparison, "min(a, b)", true⟩,
   ⟨"OP_MAX", 0xA4, .comparison, "max(a, b)", true⟩,
   ⟨"OP_WITHIN", 0xA5, .comparison, "min <= x < max", true⟩]

def cryptographicEntries : List CatalogEntry :=
  [⟨"OP_RIPEMD160", 0xA6, .cryptographic, "RIPEMD-160 hash", true⟩,
   ⟨"OP_SHA1", 0xA7, .cryptographic, "SHA-1 hash", true⟩,
   ⟨"OP_SHA256", 0xA8, .cryptographic, "SHA-256 hash", true⟩,
   ⟨"OP_HASH160", 0xA9, .cryptographic, "SHA256 + RIPEMD160", true⟩,
   ⟨"OP_HASH256", 0xAA, .cryptographic, "Double SHA-256", true⟩,
   ⟨"OP_CHECKSIG", 0xAC, .cryptographic, "Verify ECDSA signature (simulated)", true⟩,
   ⟨"OP_CHECKSIGVERIFY", 0xAD, .cryptographic, "OP_CHECKSIG + OP_VERIFY", true⟩]

def controlEntries : List CatalogEntry :=
  [⟨"OP_NOP", 0x61, .control, "Does nothing", true⟩,
   ⟨"OP_IF", 0x63, .control, "Execute if top is non-zero", true⟩,
   ⟨"OP_NOTIF", 0x64, .control, "Execute if top is zero", true⟩,
   ⟨"OP_ELSE", 0x67, .control, "Else branch", true⟩,
   ⟨"OP_ENDIF", 0x68, .control, "End conditional", true⟩,
   ⟨"OP_VERIFY", 0x69, .control, "Fail if top is false", true⟩,
   ⟨"OP_RETURN", 0x6A, .control, "Mark output unspendable", true⟩]

def disabledEntries : List CatalogEntry :=
  [⟨"OP_CAT", 0x7E, .disabled, "Concatenate two strings", false⟩,
   ⟨"OP_SUBSTR", 0x7F, .disabled, "Return a section of a string", false⟩,
   ⟨"OP_LEFT", 0x80, .disabled, "Keep characters left of a point", false⟩,
   ⟨"OP_RIGHT", 0x81, .disabled, "Keep characters right of a point", false⟩,
   ⟨"OP_INVERT", 0x83, .disabled, "Flip every bit", false⟩,
   ⟨"OP_AND", 0x84, .disabled, "Bitwise and", false⟩,
   ⟨"OP_OR", 0x85, .disabled, "Bitwise or", false⟩,
   ⟨"OP_XOR", 0x86, .disabled, "Bitwise exclusive or", false⟩,
   ⟨"OP_2MUL", 0x8D, .disabled, "a * 2", false⟩,
   ⟨"OP_2DIV", 0x8E, .disabled, "a / 2", false⟩,
   ⟨"OP_MUL", 0x95, .disabled, "a * b", false⟩,
   ⟨"OP_DIV", 0x96, .disabled, "a / b", false⟩,
   ⟨"OP_MOD", 0x97, .disabled, "a % b", false⟩,
   ⟨"OP_LSHIFT", 0x98, .disabled, "Shift a left by b bits", false⟩,
   ⟨"OP_RSHIFT", 0x99, .disabled, "Shift a right by b bits", false⟩]

def entries : List CatalogEntry :=
  pushes ++ stackEntries ++ arithmeticEntries ++ comparisonEntries ++ cryptographicEntries ++
    controlEntries ++ disabledEntries

/-- The entry of a name in any letter case. -/
def find? (name : Text) : Option CatalogEntry := entries.find? (·.name == name.upper)

/-- Whether a name may be used in a script. -/
def isEnabled (name : Text) : Bool := (find? name).any (·.enabled)

/-- The entry of a name that may be no text.  A byte string has a letter case, but is no name. -/
def find (name : Value) : Except Fault (Option CatalogEntry) :=
  match name with
  | .item (.text t) => .ok (find? t)
  | .item (.bytes _) => .ok none
  | .buffer _ => .error .wrongKind
  | _ => .error .noMember

/-- The entries of the group with the given name, in order; on demand only those that may be
used. -/
def inCategory (category : Text) (enabledOnly : Bool) : List CatalogEntry :=
  entries.filter fun e => e.category.name == category && (e.enabled || !enabledOnly)

end Catalog

end ScriptTutor
