/-
**Equality of items is equality of bytes.**

Numbers and truth values are compared as numbers, and all other items by their bytes.  Since no two
numbers have the same bytes, this comes to the same: items are equal exactly if their bytes are.  So
equality is an equivalence, whatever kinds of items it goes through, and so is the equality of
stacks; and equal items have the same size and the same digests.

Main definition:

* `ScriptTutor.Digest.Algorithm.opcodeName` — the name of the opcode that digests.

Main results:

* `ScriptTutor.Item.equal_equivalence`, `ScriptTutor.Value.stacksEqual_equivalence` — equality of
  items and of stacks is an equivalence;
* `ScriptTutor.Machine.obey_size`, `ScriptTutor.Machine.obey_hash` — an opcode that measures or
  digests the top of the stack asks for its bytes;
* `ScriptTutor.Machine.equal_items_alike` — **what equality of items is**, and what it entails.
-/

import ScriptTutor.Proofs.Machine.TopOp
import ScriptTutor.Proofs.Representation.Bytes

set_option relaxedAutoImplicit false
set_option autoImplicit false

namespace ScriptTutor

/-! ### An equivalence -/

/-- Equality of items is an equivalence, for it is equality of bytes. -/
theorem Item.equal_equivalence : Equivalence fun x y : Item => x.equal y = true where
  refl := equal_refl
  symm := by
    intro x y h
    rw [equal_iff_toBytes] at h ⊢
    exact h.symm
  trans := by
    intro x y z hxy hyz
    rw [equal_iff_toBytes] at hxy hyz ⊢
    exact hxy.trans hyz

namespace Value

/-- Stacks are equal if they have the same bytes, item by item. -/
theorem stacksEqual_iff_toBytes {xs ys : List Item} :
    stacksEqual (xs.map item) (ys.map item) = .ok true ↔
      xs.map Item.toBytes = ys.map Item.toBytes := by
  rw [stacksEqual_items, Except.ok.injEq, Item.allEqual_iff_toBytes]

theorem stacksEqual_equivalence :
    Equivalence fun xs ys : List Item => stacksEqual (xs.map item) (ys.map item) = .ok true where
  refl := by
    intro xs
    exact stacksEqual_iff_toBytes.2 rfl
  symm := by
    intro xs ys h
    rw [stacksEqual_iff_toBytes] at h ⊢
    exact h.symm
  trans := by
    intro xs ys zs hxy hyz
    rw [stacksEqual_iff_toBytes] at hxy hyz ⊢
    exact hxy.trans hyz

end Value

/-! ### Sizes and digests -/

/-- The name of the opcode that digests with the algorithm. -/
def Digest.Algorithm.opcodeName : Digest.Algorithm → Text
  | ripemd160 => "OP_RIPEMD160"
  | sha1 => "OP_SHA1"
  | sha256 => "OP_SHA256"
  | hash160 => "OP_HASH160"
  | hash256 => "OP_HASH256"

namespace Dispatch

theorem size_mem : ⟨"OP_SIZE", TopOp.size, 1⟩ ∈ table := by
  simp [table, moves]

theorem hash_mem (a : Digest.Algorithm) : ⟨a.opcodeName, TopOp.hash a, 1⟩ ∈ table := by
  cases a <;> simp [table, digests, Digest.Algorithm.opcodeName]

end Dispatch

namespace Machine

section

variable {bs : Branches}

/-- The size of an item is the number of its bytes, and the item stays. -/
theorem obey_size (hbs : bs.executing = true) (x : Item) (rest alt : Stack) :
    obey (.opcode "OP_SIZE") ⟨⟨x :: rest, alt⟩, bs⟩ =
      (.ok (), ⟨⟨.number x.toBytes.length :: x :: rest, alt⟩, bs⟩) := by
  have hres : TopOp.size.rule.result? (x :: rest) =
      some (.ok [.number x.toBytes.length, x], rest) := rfl
  exact obey_onTop_of_result Dispatch.size_mem rfl hbs hres

/-- The digest of an item is that of its bytes, and takes its place. -/
theorem obey_hash (hbs : bs.executing = true) (a : Digest.Algorithm) (x : Item)
    (rest alt : Stack) :
    obey (.opcode a.opcodeName) ⟨⟨x :: rest, alt⟩, bs⟩ =
      (.ok (), ⟨⟨.bytes (a.digest x.toBytes) :: rest, alt⟩, bs⟩) := by
  have hres : (TopOp.hash a).rule.result? (x :: rest) =
      some (.ok [.bytes (a.digest x.toBytes)], rest) := rfl
  exact obey_onTop_of_result (Dispatch.hash_mem a) rfl hbs hres

end

/-- **Equality of items is equality of bytes**, of whatever kinds the items are.  It is an
equivalence, and so is equality of stacks.  On the top of an executing stack, items that are equal
have the same size and, by each algorithm, the same digest. -/
theorem equal_items_alike :
    (∀ x y : Item, x.equal y = true ↔ x.toBytes = y.toBytes) ∧
      (Equivalence fun x y : Item => x.equal y = true) ∧
      (Equivalence fun xs ys : List Item =>
        Value.stacksEqual (xs.map .item) (ys.map .item) = .ok true) ∧
      ∀ x y : Item, x.equal y = true →
        (∃ n : Nat, ∀ (rest alt : Stack) (bs : Branches), bs.executing = true →
          obey (.opcode "OP_SIZE") ⟨⟨x :: rest, alt⟩, bs⟩ =
              (.ok (), ⟨⟨.number n :: x :: rest, alt⟩, bs⟩) ∧
            obey (.opcode "OP_SIZE") ⟨⟨y :: rest, alt⟩, bs⟩ =
              (.ok (), ⟨⟨.number n :: y :: rest, alt⟩, bs⟩)) ∧
        ∀ a : Digest.Algorithm, ∃ digest : Bytes,
          ∀ (rest alt : Stack) (bs : Branches), bs.executing = true →
            obey (.opcode a.opcodeName) ⟨⟨x :: rest, alt⟩, bs⟩ =
                (.ok (), ⟨⟨.bytes digest :: rest, alt⟩, bs⟩) ∧
              obey (.opcode a.opcodeName) ⟨⟨y :: rest, alt⟩, bs⟩ =
                (.ok (), ⟨⟨.bytes digest :: rest, alt⟩, bs⟩) := by
  refine ⟨fun _ _ => Item.equal_iff_toBytes, Item.equal_equivalence,
    Value.stacksEqual_equivalence, ?_⟩
  intro x y h
  have hbytes : x.toBytes = y.toBytes := Item.equal_iff_toBytes.1 h
  constructor
  · refine ⟨x.toBytes.length, ?_⟩
    intro rest alt bs hbs
    refine ⟨obey_size hbs x rest alt, ?_⟩
    rw [hbytes]
    exact obey_size hbs y rest alt
  · intro a
    refine ⟨a.digest x.toBytes, ?_⟩
    intro rest alt bs hbs
    refine ⟨obey_hash hbs a x rest alt, ?_⟩
    rw [hbytes]
    exact obey_hash hbs a y rest alt

/-- The true flag is equal to the number one, that to a byte, and that to its hexadecimal text; so
the flag and the text have the same size and the same digests. -/
theorem equal_items_alike_chain :
    Item.equal (.flag true) (.text "0X01") = true ∧
      (∃ n : Nat,
        obey (.opcode "OP_SIZE") ⟨⟨[.flag true], []⟩, []⟩ =
            (.ok (), ⟨⟨[.number n, .flag true], []⟩, []⟩) ∧
          obey (.opcode "OP_SIZE") ⟨⟨[.text "0X01"], []⟩, []⟩ =
            (.ok (), ⟨⟨[.number n, .text "0X01"], []⟩, []⟩)) ∧
      ∃ digest : Bytes,
        obey (.opcode "OP_HASH160") ⟨⟨[.flag true], []⟩, []⟩ =
            (.ok (), ⟨⟨[.bytes digest], []⟩, []⟩) ∧
          obey (.opcode "OP_HASH160") ⟨⟨[.text "0X01"], []⟩, []⟩ =
            (.ok (), ⟨⟨[.bytes digest], []⟩, []⟩) := by
  obtain ⟨-, hequiv, -, halike⟩ := equal_items_alike
  have hnumber : Item.equal (.flag true) (.number 1) = true := rfl
  have hbyte : Item.equal (.number 1) (.bytes [1]) = true := by decide
  have htext : Item.equal (.bytes [1]) (.text "0X01") = true := by decide
  have h := hequiv.trans (hequiv.trans hnumber hbyte) htext
  obtain ⟨⟨n, hsize⟩, hdigest⟩ := halike _ _ h
  obtain ⟨digest, hhash⟩ := hdigest .hash160
  exact ⟨h, ⟨n, hsize [] [] [] rfl⟩, digest, hhash [] [] [] rfl⟩

end Machine

end ScriptTutor
