/-
**Payment to the digest of a public key.**

The locking script of such a payment names the digest of a key.  It asks for the key on top of the
stack and for a signature below it, checks the key against the digest, and then the signature, which
is taken to be right.

Main definition:

* `ScriptTutor.payToHash` — the locking script for a digest.

Main results:

* `ScriptTutor.Machine.passes_payToHash_iff` — when the locking script runs through, and what it
  leaves;
* `ScriptTutor.Engine.executePair_payToHash` — **exactly the right unlocking scripts are accepted**,
  whatever they do to get their items onto the stack.
-/

import ScriptTutor.Proofs.Machine.TopOp
import ScriptTutor.Proofs.Nesting.Pair
import ScriptTutor.Template

set_option relaxedAutoImplicit false
set_option autoImplicit false

namespace ScriptTutor

/-- The locking script of a payment to the key with the given digest. -/
def payToHash (digest : Bytes) : List Value :=
  [.item (.text "OP_DUP"), .item (.text "OP_HASH160"), .item (.text ("0x" ++ digest.toHex)),
    .item (.text "OP_EQUALVERIFY"), .item (.text "OP_CHECKSIG")]

/-- The template of such a payment is locked by the digest of its key. -/
example : (Template.collection.head?.map fun t => t.locking.map Value.item) =
    some (payToHash (Digest.hash160 Template.publicKey.utf8)) := rfl

namespace Machine

/-! ### The locking script -/

theorem equal_hex_bytes (bs cs : Bytes) :
    (Item.text ("0x" ++ bs.toHex)).equal (.bytes cs) = true ↔ cs = bs := by
  have hbytes : (Item.text ("0x" ++ bs.toHex)).equal (.bytes cs) =
      ((Item.text ("0x" ++ bs.toHex)).toBytes == cs) := rfl
  rw [hbytes, Item.toBytes_hex, beq_iff_eq]
  exact eq_comm

theorem result?_equalVerify {digest cs : Bytes} {s t : Stack} {items : List Item} :
    TopOp.equalVerify.rule.result? (.text ("0x" ++ digest.toHex) :: .bytes cs :: s) =
        some (.ok items, t) ↔ cs = digest ∧ items = [] ∧ t = s := by
  rw [← equal_hex_bytes digest cs]
  simp only [TopOp.rule, Rule.result?, TopOp.verified, Option.some.injEq, Prod.mk.injEq]
  split
  · next h => simp [h, eq_comm]
  · next h => simp [h]

/-- The locking script runs through exactly if the stack has two items and the top one has the
digest.  It leaves the number one in the place of the two. -/
theorem passes_payToHash_iff {digest : Bytes} {s alt : Stack} {bs : Branches} {m' : Machine}
    (hbs : bs.executing = true) :
    Passes (payToHash digest) ⟨⟨s, alt⟩, bs⟩ m' ↔
      ∃ x y rest, s = x :: y :: rest ∧ Digest.hash160 x.toBytes = digest ∧
        ⟨⟨.number 1 :: rest, alt⟩, bs⟩ = m' := by
  have hdup : Names "OP_DUP" .dup := by decide +kernel
  have hhash : Names "OP_HASH160" (.hash .hash160) := by decide +kernel
  have hverify : Names "OP_EQUALVERIFY" .equalVerify := by decide +kernel
  have hsig : Names "OP_CHECKSIG" .checkSig := by decide +kernel
  have hlit : Instruction.ofValue (.item (.text ("0x" ++ digest.toHex))) =
      .ok (.literal (.text ("0x" ++ digest.toHex))) := rfl
  cases s with
  | nil =>
      rw [payToHash, passes_onTop_iff hdup hbs]
      simp [TopOp.rule, Rule.result?]
  | cons x s =>
      -- the first three instructions always succeed on a key, and the fourth one compares
      have hcompare : Passes (payToHash digest) ⟨⟨x :: s, alt⟩, bs⟩ m' ↔
          Digest.hash160 x.toBytes = digest ∧
            Passes [.item (.text "OP_CHECKSIG")] ⟨⟨x :: s, alt⟩, bs⟩ m' := by
        rw [payToHash, passes_onTop_of_result hdup hbs rfl, passes_onTop_of_result hhash hbs rfl,
          passes_literal_iff hlit hbs, passes_onTop_iff hverify hbs]
        constructor
        · rintro ⟨items, rest, hres, hp⟩
          obtain ⟨hkey, rfl, rfl⟩ := result?_equalVerify.1 hres
          exact ⟨hkey, hp⟩
        · rintro ⟨hkey, hp⟩
          exact ⟨[], x :: s, result?_equalVerify.2 ⟨hkey, rfl, rfl⟩, hp⟩
      rw [hcompare]
      cases s with
      | nil =>
          rw [passes_onTop_iff hsig hbs]
          simp [TopOp.rule, Rule.result?]
      | cons y rest =>
          rw [passes_onTop_of_result hsig hbs rfl, passes_nil_iff]
          constructor
          · rintro ⟨hkey, rfl⟩
            exact ⟨x, y, rest, rfl, hkey, rfl⟩
          · rintro ⟨_, _, _, h, hkey, rfl⟩
            cases h
            exact ⟨hkey, rfl⟩

end Machine

theorem wellNested_payToHash (digest : Bytes) : WellNested (payToHash digest) :=
  .plain (by decide +kernel) (.plain (by decide +kernel) (.plain rfl
    (.plain (by decide +kernel) (.plain (by decide +kernel) .nil))))

namespace Engine

variable {digest : Bytes} {us : List Value} {e : Engine}

theorem executeList_of_executePair_payToHash {e' : Engine} {r : Report}
    (h : e.executePair (.list us) (.list (payToHash digest)) = (.ok r, e'))
    (hs : r.success = true) :
    ∃ q f below y x, executeList us = (.ok q, f) ∧ (∀ s ∈ q.steps, s.success = true) ∧
      f.branches = [] ∧ q.finalStack = below ++ [y, x] ∧ Digest.hash160 x.toBytes = digest ∧
      r.finalStack = below ++ [.number 1] := by
  obtain ⟨⟨⟨s, alt⟩, bs⟩, hu, hbs, hl⟩ := passes_of_executePair (wellNested_payToHash digest) h hs
  obtain rfl : bs = [] := hbs
  obtain ⟨x, y, rest, rfl, hkey, hm⟩ := (Machine.passes_payToHash_iff rfl).1 hl
  rw [executePair_lists] at h
  obtain ⟨-, -, -, rfl⟩ := executeList_success_iff.1 ⟨h, hs⟩
  refine ⟨_, _, Stack.snapshot rest, y, x, executeList_of_passes hu, hu.success_of_mem, rfl, ?_,
    hkey, ?_⟩
  · simp
  · rw [verdict_finalStack, ← hm, Stack.snapshot_cons]

/-- An unlocking script that leaves the key with the digest, and something below it, is accepted. -/
theorem executePair_payToHash_of_executeList {f : Engine} {q : Report} {below : List Item}
    {y x : Item} (h : executeList us = (.ok q, f)) (hsteps : ∀ s ∈ q.steps, s.success = true)
    (hf : f.branches = []) (hstack : q.finalStack = below ++ [y, x])
    (hkey : Digest.hash160 x.toBytes = digest) :
    ∃ r e', e.executePair (.list us) (.list (payToHash digest)) = (.ok r, e') ∧
      r.success = true := by
  have hu := passes_of_steps h hsteps
  have hmain : f.main = x :: y :: Stack.ofBottom below := by
    have hshown : f.main.snapshot = q.finalStack := (finalStack_of_executeList h).symm
    rw [hstack] at hshown
    exact Stack.snapshot_injective (by simpa using hshown)
  have hl : Machine.Passes (payToHash digest) f.toMachine
      ⟨⟨.number 1 :: Stack.ofBottom below, f.alt⟩, f.branches⟩ :=
    (Machine.passes_payToHash_iff (by rw [hf]; rfl)).2 ⟨x, y, _, hmain, hkey, rfl⟩
  have hall := Machine.passes_append_iff.2 ⟨_, hu, hl⟩
  have hobj : objection? ⟨⟨.number 1 :: Stack.ofBottom below, f.alt⟩, f.branches⟩ = none :=
    objection?_eq_none_iff.2 ⟨hf, _, _, rfl, rfl⟩
  rw [executePair_lists]
  exact ⟨_, ⟨_, _⟩, executeList_success_iff.2 ⟨hall, hobj, rfl, rfl⟩⟩

/-- **Exactly the right unlocking scripts are accepted.**  A pair with the locking script is a
success exactly if no step of the unlocking script fails, it leaves no branch open, and it leaves
two items at least, of which the top one has the digest.  A success leaves the number one in the
place of these two. -/
theorem executePair_payToHash (digest : Bytes) (us : List Value) (e : Engine) :
    ((∃ r e', e.executePair (.list us) (.list (payToHash digest)) = (.ok r, e') ∧
        r.success = true) ↔
      ∃ q f below y x, executeList us = (.ok q, f) ∧ (∀ s ∈ q.steps, s.success = true) ∧
        f.branches = [] ∧ q.finalStack = below ++ [y, x] ∧ Digest.hash160 x.toBytes = digest) ∧
    ∀ r e', e.executePair (.list us) (.list (payToHash digest)) = (.ok r, e') →
      r.success = true →
      ∃ q f below y x, executeList us = (.ok q, f) ∧ q.finalStack = below ++ [y, x] ∧
        r.finalStack = below ++ [.number 1] := by
  refine ⟨⟨?_, ?_⟩, ?_⟩
  · rintro ⟨r, e', h, hs⟩
    obtain ⟨q, f, below, y, x, hq, hsteps, hf, hstack, hkey, -⟩ :=
      executeList_of_executePair_payToHash h hs
    exact ⟨q, f, below, y, x, hq, hsteps, hf, hstack, hkey⟩
  · rintro ⟨q, f, below, y, x, hq, hsteps, hf, hstack, hkey⟩
    exact executePair_payToHash_of_executeList hq hsteps hf hstack hkey
  · intro r e' h hs
    obtain ⟨q, f, below, y, x, hq, -, -, hstack, -, hleft⟩ :=
      executeList_of_executePair_payToHash h hs
    exact ⟨q, f, below, y, x, hq, hstack, hleft⟩

end Engine

end ScriptTutor
