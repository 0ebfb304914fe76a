/-
**Ready-made scripts.**

Main definitions:

* `ScriptTutor.Template` — an unlocking and a locking script under a name;
* `ScriptTutor.Template.program` — the two scripts as one program;
* `ScriptTutor.Template.collection` — all templates, in order;
* `ScriptTutor.Template.find` — the template of a name in any letter case.
-/

import ScriptTutor.Digest.Basic
import ScriptTutor.Text.LetterCase
import ScriptTutor.Text.Utf8
import ScriptTutor.Value.Quoted

set_option relaxedAutoImplicit false
set_option autoImplicit false

namespace ScriptTutor

/-- An unlocking and a locking script under a name. -/
structure Template where
  name : Text
  description : Text
  unlocking : List Item
  locking : List Item

namespace Template

/-- The unlocking script followed by the locking script. -/
def program (t : Template) : List Item := t.unlocking ++ t.locking

/-- The key that stands for a public key in the templates. -/
def publicKey : Text := "pubkey"

/-- The digest that the locking script of a payment commits to, as a hexadecimal text. -/
def publicKeyDigest : Text := "0x" ++ Bytes.toHex (Digest.hash160 publicKey.utf8)

def collection : List Template :=
  [⟨"P2PKH", "Pay-to-Pubkey-Hash",
    [.text "sig_example_123", .text publicKey],
    [.text "OP_DUP", .text "OP_HASH160", .text publicKeyDigest, .text "OP_EQUALVERIFY",
      .text "OP_CHECKSIG"]⟩,
   ⟨"Simple Addition", "5 + 3 = 8",
    [.number 5, .number 3],
    [.text "OP_ADD", .number 8, .text "OP_EQUAL"]⟩,
   ⟨"Stack Operations", "DUP, SWAP, DROP",
    [.number 10, .number 20],
    [.text "OP_DUP", .text "OP_SWAP", .text "OP_DROP"]⟩,
   ⟨"Conditional", "IF/ELSE example",
    [.number 1],
    [.text "OP_IF", .number 100, .text "OP_ELSE", .number 200, .text "OP_ENDIF"]⟩,
   ⟨"Comparison", "Check if equal",
    [.number 5, .number 5],
    [.text "OP_EQUAL"]⟩,
   ⟨"Hash Operation", "SHA256 hash",
    [.text "hello_world"],
    [.text "OP_SHA256"]⟩,
   ⟨"Arithmetic", "Add and subtract",
    [.number 10, .number 5],
    [.text "OP_ADD", .number 3, .text "OP_SUB"]⟩,
   ⟨"Verify", "Verify condition",
    [.number 1],
    [.text "OP_VERIFY", .number 1]⟩,
   ⟨"Min/Max", "Find minimum",
    [.number 10, .number 5],
    [.text "OP_MIN"]⟩,
   ⟨"Nested Conditional", "Complex IF/ELSE",
    [.number 1, .number 2],
    [.text "OP_IF", .text "OP_DUP", .text "OP_ELSE", .text "OP_DROP", .text "OP_ENDIF"]⟩,
   ⟨"Stack Duplication", "2DUP example",
    [.number 10, .number 20],
    [.text "OP_2DUP", .text "OP_ADD"]⟩,
   ⟨"Rotation", "Rotate stack items",
    [.number 1, .number 2, .number 3],
    [.text "OP_ROT"]⟩]

/-- The template of a name in any letter case.  Only texts and byte strings have a letter case,
and no byte string is a name. -/
def find (name : Value) : Except Fault Template :=
  match name with
  | .item (.text t) =>
    match collection.find? (·.name.lowerAscii == t.lowerAscii) with
    | some template => .ok template
    | none => .error (.unknownTemplate t)
  | .item (.bytes bs) => .error (.unknownTemplate (Quoted.ofBytes bs))
  | .buffer bs => .error (.unknownTemplate (Quoted.ofBuffer bs))
  | _ => .error .noMember

end Template

end ScriptTutor
