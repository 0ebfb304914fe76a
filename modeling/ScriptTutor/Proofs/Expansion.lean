/-
**Composite opcodes.**

Many opcodes are short for a row of simpler ones: a verification for what it verifies and the
verification itself, a comparison for its opposite and a negation, a shuffle for smaller shuffles
with the alternative stack to put items aside.  Wherever the items are there that the composite
opcode asks for, it may be exchanged for its row: both succeed or both fail, and they leave the same
machine behind, also when they fail, and also where nothing is executed.  Only what a failure says
may differ.

The rows are compared as operations on the stacks.  There no arity has to be looked at: an operation
that finds too few items fails and changes nothing, just as one whose arity was checked before.

Main definitions:

* `ScriptTutor.Dispatch.expansions` — the composite opcodes with their rows;
* `ScriptTutor.Operation.runAll`, `ScriptTutor.Operation.Expands` — a row of operations on the
  stacks, and an operation that does what a row does;
* `ScriptTutor.Machine.Run.SameEffect` — two runs succeed alike and leave the same machine.

Main results:

* `ScriptTutor.Machine.sameEffect_of_expands` — operations that expand do so on every machine;
* `ScriptTutor.Machine.expansions_sameEffect` — **composite opcodes have the effect of their rows**,
  whatever program follows.
-/

import Mathlib.Data.List.Forall2
import ScriptTutor.Proofs.Machine.TopOp

set_option relaxedAutoImplicit false
set_option autoImplicit false

namespace ScriptTutor

/-- The composite opcodes, each with the row of opcodes that it is short for. -/
def Dispatch.expansions : List (Text × List Text) :=
  [("OP_EQUALVERIFY", ["OP_EQUAL", "OP_VERIFY"]),
   ("OP_NUMEQUALVERIFY", ["OP_NUMEQUAL", "OP_VERIFY"]),
   ("OP_CHECKSIGVERIFY", ["OP_CHECKSIG", "OP_VERIFY"]),
   ("OP_HASH160", ["OP_SHA256", "OP_RIPEMD160"]),
   ("OP_HASH256", ["OP_SHA256", "OP_SHA256"]),
   ("OP_NUMNOTEQUAL", ["OP_NUMEQUAL", "OP_NOT"]),
   ("OP_LESSTHANOREQUAL", ["OP_GREATERTHAN", "OP_NOT"]),
   ("OP_GREATERTHANOREQUAL", ["OP_LESSTHAN", "OP_NOT"]),
   ("OP_GREATERTHAN", ["OP_SWAP", "OP_LESSTHAN"]),
   ("OP_0NOTEQUAL", ["OP_NOT", "OP_NOT"]),
   ("OP_NIP", ["OP_SWAP", "OP_DROP"]),
   ("OP_TUCK", ["OP_SWAP", "OP_OVER"]),
   ("OP_2DUP", ["OP_OVER", "OP_OVER"]),
   ("OP_2DROP", ["OP_DROP", "OP_DROP"]),
   ("OP_OVER", ["OP_TOALTSTACK", "OP_DUP", "OP_FROMALTSTACK", "OP_SWAP"]),
   ("OP_ROT", ["OP_TOALTSTACK", "OP_SWAP", "OP_FROMALTSTACK", "OP_SWAP"]),
   ("OP_2SWAP", ["OP_ROT", "OP_TOALTSTACK", "OP_ROT", "OP_FROMALTSTACK"]),
   ("OP_2OVER", ["OP_2SWAP", "OP_2DUP", "OP_TOALTSTACK", "OP_TOALTSTACK", "OP_2SWAP",
      "OP_FROMALTSTACK", "OP_FROMALTSTACK"]),
   ("OP_3DUP", ["OP_DUP", "OP_2OVER", "OP_ROT"])]

/-! ### Rows of operations -/

namespace Operation

/-- Runs a row of operations up to the first that goes wrong: whether none did, and the stacks
afterwards. -/
def runAll : List Operation → Stacks → Bool × Stacks
  | [], s => (true, s)
  | o :: os, s =>
    match o.run s with
    | (.ok (), t) => runAll os t
    | (.error _, t) => (false, t)

/-- On stacks that hold its operands, an operation does what a row of operations does. -/
def Expands (o : Operation) (os : List Operation) : Prop :=
  ∀ s : Stacks, (Opcode.operation o).operands ≤ s.main.length → runAll [o] s = runAll os s

/-- It is enough to look at the operands and what lies below them. -/
theorem expands_of_operands {o : Operation} {os : List Operation} {n : Nat}
    (hn : (Opcode.operation o).operands = n)
    (h : ∀ xs : List Item, xs.length = n → ∀ below alt,
      runAll [o] ⟨xs ++ below, alt⟩ = runAll os ⟨xs ++ below, alt⟩) : Expands o os := by
  rintro ⟨main, alt⟩ hmain
  rw [hn] at hmain
  have hsplit := h (main.take n) (List.length_take_of_le hmain) (main.drop n) alt
  rwa [List.take_append_drop] at hsplit

/-! ### Shuffles -/

theorem expands_nip : Expands (.onTop .nip) [.onTop .swap, .onTop .drop] :=
  expands_of_operands rfl fun | [_, _], _, _, _ => rfl

theorem expands_tuck : Expands (.onTop .tuck) [.onTop .swap, .onTop .over1] :=
  expands_of_operands rfl fun | [_, _], _, _, _ => rfl

theorem expands_dup2 : Expands (.onTop .dup2) [.onTop .over1, .onTop .over1] :=
  expands_of_operands rfl fun | [_, _], _, _, _ => rfl

theorem expands_drop2 : Expands (.onTop .drop2) [.onTop .drop, .onTop .drop] :=
  expands_of_operands rfl fun | [_, _], _, _, _ => rfl

theorem expands_over1 : Expands (.onTop .over1) [.toAlt, .onTop .dup, .fromAlt, .onTop .swap] :=
  expands_of_operands rfl fun | [_, _], _, _, _ => rfl

theorem expands_rot : Expands (.onTop .rot) [.toAlt, .onTop .swap, .fromAlt, .onTop .swap] :=
  expands_of_operands rfl fun | [_, _, _], _, _, _ => rfl

theorem expands_swap2 : Expands (.onTop .swap2) [.onTop .rot, .toAlt, .onTop .rot, .fromAlt] :=
  expands_of_operands rfl fun | [_, _, _, _], _, _, _ => rfl

theorem expands_over2 :
    Expands (.onTop .over2) [.onTop .swap2, .onTop .dup2, .toAlt, .toAlt, .onTop .swap2, .fromAlt,
      .fromAlt] :=
  expands_of_operands rfl fun | [_, _, _, _], _, _, _ => rfl

theorem expands_dup3 : Expands (.onTop .dup3) [.onTop .dup, .onTop .over2, .onTop .rot] :=
  expands_of_operands rfl fun | [_, _, _], _, _, _ => rfl

/-! ### Digests -/

theorem expands_hash {h f g : Digest.Algorithm} (hfg : ∀ bs, h.digest bs = g.digest (f.digest bs)) :
    Expands (.onTop (.hash h)) [.onTop (.hash f), .onTop (.hash g)] := by
  refine expands_of_operands rfl fun | [a], _, below, alt => ?_
  show (true, Stacks.mk (.bytes (h.digest a.toBytes) :: below) alt) = _
  rw [hfg]
  rfl

/-! ### Verifications -/

/-- What is left of the stacks after a verification: it takes the item, whatever the item is. -/
theorem runAll_verify (x : Item) (main alt : Stack) :
    runAll [.onTop .verify] ⟨x :: main, alt⟩ = (x.isTrue, ⟨main, alt⟩) := by
  cases h : x.isTrue <;> simp [runAll, run, TopOp.rule, Rule.result?, TopOp.verified, h]

/-- What an opcode verifies at once may be found first and verified then. -/
theorem expands_verified {r verified : TopOp} {f g : Item → Item → Replacement}
    (hr : r.rule = .two f) (hverified : verified.rule = .two g)
    (h : ∀ a b, (∃ c operation, f a b = .ok [.ofTruth c] ∧ g a b = TopOp.verified c operation) ∨
      ∃ e, f a b = .error e ∧ g a b = .error e) :
    Expands (.onTop verified) [.onTop r, .onTop .verify] := by
  refine expands_of_operands (n := 2) (by rw [Opcode.operands, hverified]; rfl)
    fun | [a, b], _, below, alt => ?_
  obtain ⟨c, operation, hf, hg⟩ | ⟨e, hf, hg⟩ := h a b
  · have hfound : runAll [.onTop r, .onTop .verify] ⟨[a, b] ++ below, alt⟩ =
        runAll [.onTop .verify] ⟨.ofTruth c :: below, alt⟩ := by
      simp [runAll, run, hr, Rule.result?, hf]
    rw [hfound, runAll_verify, Item.isTrue_ofTruth]
    cases c <;> simp [runAll, run, hverified, Rule.result?, hg, TopOp.verified]
  · simp [runAll, run, hr, hverified, Rule.result?, hf, hg]

theorem expands_equalVerify :
    Expands (.onTop .equalVerify) [.onTop .equal, .onTop .verify] :=
  expands_verified rfl rfl fun _ _ => .inl ⟨_, _, rfl, rfl⟩

theorem expands_checkSigVerify :
    Expands (.onTop .checkSigVerify) [.onTop .checkSig, .onTop .verify] :=
  expands_verified rfl rfl fun _ _ => .inl ⟨true, [], rfl, rfl⟩

theorem expands_numEqualVerify :
    Expands (.onTop .numEqualVerify) [.onTop (.binary .equal), .onTop .verify] := by
  refine expands_verified rfl rfl ?_
  intro a b
  cases h : TopOp.numbers a b with
  | error e => exact .inr ⟨e, by simp [TopOp.onNumbers, h], by simp⟩
  | ok p =>
      obtain ⟨m, n⟩ := p
      exact .inl ⟨m == n, _, by simp [TopOp.onNumbers, h, Binary.eval, truth, Item.ofTruth], rfl⟩

/-! ### Arithmetic -/

section

variable {f g : Binary} {u v w : Unary}

theorem expands_binary (h : ∀ m n, f.eval m n = u.eval (g.eval m n)) :
    Expands (.onTop (.binary f)) [.onTop (.binary g), .onTop (.unary u)] := by
  refine expands_of_operands rfl fun | [a, b], _, below, alt => ?_
  cases hab : TopOp.numbers a b with
  | error e => simp [runAll, run, TopOp.rule, Rule.result?, TopOp.onNumbers, hab]
  | ok p =>
      simp [runAll, run, TopOp.rule, Rule.result?, TopOp.onNumbers, TopOp.onNumber, hab, h]

theorem expands_unary (h : ∀ n, u.eval n = w.eval (v.eval n)) :
    Expands (.onTop (.unary u)) [.onTop (.unary v), .onTop (.unary w)] := by
  refine expands_of_operands rfl fun | [a], _, below, alt => ?_
  cases ha : a.toNumber with
  | error e => simp [runAll, run, TopOp.rule, Rule.result?, TopOp.onNumber, ha]
  | ok n => simp [runAll, run, TopOp.rule, Rule.result?, TopOp.onNumber, ha, h]

/-- An operation on two numbers with its operands exchanged.  Of two operands that are no numbers,
another one is complained of. -/
theorem expands_swapped (h : ∀ m n, f.eval m n = g.eval n m) :
    Expands (.onTop (.binary f)) [.onTop .swap, .onTop (.binary g)] := by
  refine expands_of_operands rfl fun | [a, b], _, below, alt => ?_
  cases ha : a.toNumber <;> cases hb : b.toNumber <;>
    simp [runAll, run, TopOp.rule, Rule.result?, TopOp.onNumbers, TopOp.numbers, ha, hb, h]

end

/-- The negation of a comparison is the comparison of the opposite truth. -/
theorem isZero_truth (b : Bool) : Unary.isZero.eval (truth b) = truth (!b) := by
  cases b <;> rfl

theorem expands_notEqual :
    Expands (.onTop (.binary .notEqual)) [.onTop (.binary .equal), .onTop (.unary .isZero)] :=
  expands_binary fun _ _ => (isZero_truth _).symm

theorem expands_lessOrEqual :
    Expands (.onTop (.binary .lessOrEqual))
      [.onTop (.binary .greater), .onTop (.unary .isZero)] := by
  refine expands_binary ?_
  intro m n
  have hnot : (!decide (n < m)) = decide (m ≤ n) := by
    rw [← decide_not, decide_eq_decide, Int.not_lt]
  rw [Binary.eval, Binary.eval, isZero_truth, hnot]

theorem expands_greaterOrEqual :
    Expands (.onTop (.binary .greaterOrEqual))
      [.onTop (.binary .less), .onTop (.unary .isZero)] := by
  refine expands_binary ?_
  intro m n
  have hnot : (!decide (m < n)) = decide (n ≤ m) := by
    rw [← decide_not, decide_eq_decide, Int.not_lt]
  rw [Binary.eval, Binary.eval, isZero_truth, hnot]

theorem expands_greater :
    Expands (.onTop (.binary .greater)) [.onTop .swap, .onTop (.binary .less)] :=
  expands_swapped fun _ _ => rfl

theorem expands_isNonzero :
    Expands (.onTop (.unary .isNonzero)) [.onTop (.unary .isZero), .onTop (.unary .isZero)] :=
  expands_unary fun _ => (isZero_truth _).symm

/-- The operations behind the composite opcodes and behind the opcodes of their rows. -/
def expansions : List (Operation × List Operation) :=
  [(.onTop .equalVerify, [.onTop .equal, .onTop .verify]),
   (.onTop .numEqualVerify, [.onTop (.binary .equal), .onTop .verify]),
   (.onTop .checkSigVerify, [.onTop .checkSig, .onTop .verify]),
   (.onTop (.hash .hash160), [.onTop (.hash .sha256), .onTop (.hash .ripemd160)]),
   (.onTop (.hash .hash256), [.onTop (.hash .sha256), .onTop (.hash .sha256)]),
   (.onTop (.binary .notEqual), [.onTop (.binary .equal), .onTop (.unary .isZero)]),
   (.onTop (.binary .lessOrEqual), [.onTop (.binary .greater), .onTop (.unary .isZero)]),
   (.onTop (.binary .greaterOrEqual), [.onTop (.binary .less), .onTop (.unary .isZero)]),
   (.onTop (.binary .greater), [.onTop .swap, .onTop (.binary .less)]),
   (.onTop (.unary .isNonzero), [.onTop (.unary .isZero), .onTop (.unary .isZero)]),
   (.onTop .nip, [.onTop .swap, .onTop .drop]),
   (.onTop .tuck, [.onTop .swap, .onTop .over1]),
   (.onTop .dup2, [.onTop .over1, .onTop .over1]),
   (.onTop .drop2, [.onTop .drop, .onTop .drop]),
   (.onTop .over1, [.toAlt, .onTop .dup, .fromAlt, .onTop .swap]),
   (.onTop .rot, [.toAlt, .onTop .swap, .fromAlt, .onTop .swap]),
   (.onTop .swap2, [.onTop .rot, .toAlt, .onTop .rot, .fromAlt]),
   (.onTop .over2, [.onTop .swap2, .onTop .dup2, .toAlt, .toAlt, .onTop .swap2, .fromAlt,
      .fromAlt]),
   (.onTop .dup3, [.onTop .dup, .onTop .over2, .onTop .rot])]

theorem expands_of_mem : ∀ y ∈ expansions, y.1.Expands y.2 := by
  simp only [expansions, List.forall_mem_cons]
  exact ⟨expands_equalVerify, expands_numEqualVerify, expands_checkSigVerify,
    expands_hash fun _ => rfl, expands_hash fun _ => rfl, expands_notEqual, expands_lessOrEqual,
    expands_greaterOrEqual, expands_greater, expands_isNonzero, expands_nip, expands_tuck,
    expands_dup2, expands_drop2, expands_over1, expands_rot, expands_swap2, expands_over2,
    expands_dup3, nofun⟩

end Operation

/-! ### Rows of opcodes -/

namespace Machine

/-- Two runs end alike if both finish, or both with a failure, of whatever kind. -/
def Ending.Alike (e e' : Ending) : Prop :=
  e = .finished ∧ e' = .finished ∨
    ∃ f g : Failure, e = .failed (some f.message) ∧ e' = .failed (some g.message)

/-- Two runs end alike and leave the same stacks and the same branches behind. -/
structure Run.SameEffect (r s : Run) : Prop where
  ending : r.ending.Alike s.ending
  machine : r.machine = s.machine

/-- A text is the name of an operation, one that runs only where instructions are executed. -/
def NamesOperation (t : Text) (o : Operation) : Prop :=
  (Dispatch.find? t).map (·.opcode) = some (.operation o) ∧ o.alwaysRuns = false

instance (t : Text) (o : Operation) : Decidable (NamesOperation t o) :=
  inferInstanceAs (Decidable (_ ∧ _))

section

variable {t : Text} {o : Operation} {m : Machine}

theorem NamesOperation.exists_obey (h : NamesOperation t o) :
    ∃ d ∈ Dispatch.table, d.name = t ∧ d.opcode = .operation o ∧
      Instruction.ofValue (.item (.text t)) = .ok (.opcode t) ∧
      ∀ m, obey (.opcode t) m = operate d o m := by
  obtain ⟨d, hfind, ho⟩ := Option.map_eq_some_iff.1 h.1
  obtain ⟨hmem, rfl⟩ := Dispatch.name_of_find? hfind
  refine ⟨d, hmem, rfl, ho, ?_, obey_operation (Dispatch.resolve_name hmem) ho⟩
  exact Instruction.ofValue_eq_opcode_iff.2
    ⟨d.name, rfl, Dispatch.isOpcodeName_name d hmem, (Dispatch.consistent_of_mem d hmem).upper_name⟩

/-- Where instructions are executed, an operation does to the stacks what it does without a check
of its arity; only the failure may be another. -/
theorem operate_eq_run {d : DispatchEntry} (hmem : d ∈ Dispatch.table)
    (ho : d.opcode = .operation o) (hm : m.executing = true) :
    (operate d o m = (.ok (), { m with toStacks := (o.run m.toStacks).2 }) ∧
        (o.run m.toStacks).1 = .ok ()) ∨
      ∃ f e, operate d o m = (.error (.failure f), { m with toStacks := (o.run m.toStacks).2 }) ∧
        (o.run m.toStacks).1 = .error e := by
  have hneeds := (Dispatch.consistent_of_mem d hmem).minItems_eq
  rw [ho] at hneeds
  have hruns := runs_of_executing o hm
  rcases Nat.lt_or_ge m.main.length d.minItems with hlt | hle
  · rw [operate_of_lt hruns hlt, Operation.run_of_lt (hneeds ▸ hlt)]
    exact .inr ⟨_, _, rfl, rfl⟩
  · rw [operate_of_le hruns hle]
    cases hrun : (o.run m.toStacks).1 with
    | ok u => exact .inl ⟨rfl, rfl⟩
    | error e =>
        obtain ⟨⟨f, rfl⟩, -⟩ := run_error hmem ho hle (Prod.ext hrun rfl)
        exact .inr ⟨f, _, rfl, rfl⟩

end

section

variable {ts : List Text} {os : List Operation}

/-- Where nothing is executed, a row of operations passes the machine on as it is. -/
theorem passes_opcodes_of_skipped (h : List.Forall₂ NamesOperation ts os) {m : Machine}
    (hm : m.executing = false) : Passes (opcodes ts) m m := by
  induction h with
  | nil => exact passes_nil_iff.2 rfl
  | cons ht _ ih =>
      obtain ⟨d, -, -, -, hv, hobey⟩ := ht.exists_obey
      have hskip : operate d _ m = (.ok (), m) := operate_of_skipped (by rw [hm, ht.2]; rfl)
      exact passes_cons_iff.2 ⟨_, m, hv, (hobey m).trans hskip, ih⟩

/-- Where instructions are executed, a row of opcodes does what the row of its operations does to
the stacks, and leaves the branches alone. -/
theorem run_opcodes_of_executing (h : List.Forall₂ NamesOperation ts os) {m : Machine}
    (hm : m.executing = true) :
    (run (opcodes ts) m).machine = { m with toStacks := (Operation.runAll os m.toStacks).2 } ∧
      if (Operation.runAll os m.toStacks).1 then (run (opcodes ts) m).ending = .finished
      else ∃ f : Failure, (run (opcodes ts) m).ending = .failed (some f.message) := by
  induction h generalizing m with
  | nil => exact ⟨rfl, rfl⟩
  | @cons t o ts os ht _ ih =>
      obtain ⟨d, hmem, -, ho, hv, hobey⟩ := ht.exists_obey
      obtain ⟨hop, hrun⟩ | ⟨f, e, hop, hrun⟩ := operate_eq_run hmem ho hm
      · have hall : Operation.runAll (o :: os) m.toStacks =
            Operation.runAll os (o.run m.toStacks).2 := by
          rw [Operation.runAll, ← Prod.eta (o.run m.toStacks), hrun]
        have hstep := run_cons_of_ok hv ((hobey m).trans hop) (opcodes ts)
        rw [hall, opcodes_cons, hstep]
        exact ih hm
      · have hall : Operation.runAll (o :: os) m.toStacks = (false, (o.run m.toStacks).2) := by
          rw [Operation.runAll, ← Prod.eta (o.run m.toStacks), hrun]
        have hstep := run_cons_of_error hv ((hobey m).trans hop) (opcodes ts)
        rw [hall, opcodes_cons, hstep]
        exact ⟨rfl, f, rfl⟩

/-- **Operations that expand do so on every machine** that has the items for the whole of them. -/
theorem sameEffect_of_expands {t : Text} {o : Operation} (ht : NamesOperation t o)
    (hts : List.Forall₂ NamesOperation ts os) (h : o.Expands os) {m : Machine}
    (hm : (Opcode.operation o).operands ≤ m.main.length) :
    (run (opcodes [t]) m).SameEffect (run (opcodes ts) m) := by
  have hone : List.Forall₂ NamesOperation [t] [o] := .cons ht .nil
  cases hex : m.executing with
  | false =>
      have hwhole := passes_opcodes_of_skipped hone hex
      have hparts := passes_opcodes_of_skipped hts hex
      exact ⟨.inl ⟨hwhole.1, hparts.1⟩, hwhole.2.trans hparts.2.symm⟩
  | true =>
      obtain ⟨hwhole, hwend⟩ := run_opcodes_of_executing hone hex
      obtain ⟨hparts, hpend⟩ := run_opcodes_of_executing hts hex
      have heffect := h m.toStacks hm
      rw [heffect] at hwhole hwend
      refine ⟨?_, hwhole.trans hparts.symm⟩
      split at hwend
      · next hsuccess =>
        rw [if_pos hsuccess] at hpend
        exact .inl ⟨hwend, hpend⟩
      · next hfailure =>
        rw [if_neg hfailure] at hpend
        obtain ⟨f, hf⟩ := hwend
        obtain ⟨g, hg⟩ := hpend
        exact .inr ⟨f, g, hf, hg⟩

end

/-- Runs with the same effect have it also with what follows them. -/
theorem Run.SameEffect.append {p p' q : List Value} {m : Machine}
    (h : (run p m).SameEffect (run p' m)) (hq : ∀ v ∈ q, v.IsItem) :
    (run (p ++ q) m).SameEffect (run (p' ++ q) m) := by
  obtain ⟨⟨hp, hp'⟩ | ⟨f, g, hp, hp'⟩, hmachine⟩ := h
  · rw [run_append_of_finished hp, run_append_of_finished hp', ← hmachine]
    obtain hfin | ⟨f, hf⟩ := ending_of_isItem hq (run p m).machine
    · exact ⟨.inl ⟨hfin, hfin⟩, rfl⟩
    · exact ⟨.inr ⟨f, f, hf, hf⟩, rfl⟩
  · rw [run_append_of_not_finished (by rw [hp]; exact nofun),
      run_append_of_not_finished (by rw [hp']; exact nofun)]
    exact ⟨.inr ⟨f, g, hp, hp'⟩, hmachine⟩

/-! ### Composite opcodes -/

theorem names_expansions : ∀ x ∈ Dispatch.expansions, ∃ y ∈ Operation.expansions,
    NamesOperation x.1 y.1 ∧ List.Forall₂ NamesOperation x.2 y.2 := by
  decide +kernel

/-- **Composite opcodes have the effect of their rows.**  On a machine that has the items that the
entry of a composite opcode asks for, the opcode and its row both succeed or both fail, and they
leave the same stacks and the same branches behind; and so do any two programs that go on from there
in the same way. -/
theorem expansions_sameEffect {x : Text × List Text} (hx : x ∈ Dispatch.expansions) :
    ∃ d ∈ Dispatch.table, d.name = x.1 ∧
      ∀ m : Machine, d.minItems ≤ m.main.length → ∀ q : List Value, (∀ v ∈ q, v.IsItem) →
        (run (opcodes [x.1] ++ q) m).SameEffect (run (opcodes x.2 ++ q) m) := by
  obtain ⟨⟨o, os⟩, hy, hwhole, hparts⟩ := names_expansions x hx
  have hexpands : o.Expands os := Operation.expands_of_mem _ hy
  obtain ⟨d, hmem, hname, ho, -⟩ := hwhole.exists_obey
  refine ⟨d, hmem, hname, ?_⟩
  intro m hm q hq
  rw [(Dispatch.consistent_of_mem d hmem).minItems_eq, ho] at hm
  exact (sameEffect_of_expands hwhole hparts hexpands hm).append hq

/-- Of two operands that are compared in the second arm of a conditional, one is no number.  Both
ways to verify that they are the same number fail, and cost the operands. -/
theorem expansions_sameEffect_notANumber :
    let m : Machine := ⟨⟨[.text "0xZ", .number 2, .bytes [7]], [.text "aside"]⟩,
      [⟨true, true, true⟩]⟩
    (run (opcodes ["OP_NUMEQUALVERIFY"] ++ [.item (.number 5)]) m).SameEffect
        (run (opcodes ["OP_NUMEQUAL", "OP_VERIFY"] ++ [.item (.number 5)]) m) ∧
      (run (opcodes ["OP_NUMEQUAL", "OP_VERIFY"] ++ [.item (.number 5)]) m).machine.main =
        [.bytes [7]] := by
  intro m
  have hx : (("OP_NUMEQUALVERIFY", ["OP_NUMEQUAL", "OP_VERIFY"]) : Text × List Text) ∈
      Dispatch.expansions := by
    simp [Dispatch.expansions]
  obtain ⟨d, hmem, hname, h⟩ := expansions_sameEffect hx
  have hentry : ⟨"OP_NUMEQUALVERIFY", TopOp.numEqualVerify, 2⟩ ∈ Dispatch.table := by
    simp [Dispatch.table, Dispatch.computations]
  obtain rfl := Dispatch.eq_of_name_eq hmem hentry hname
  exact ⟨h m (by decide) [.item (.number 5)] (by simp [Value.IsItem]), by decide +kernel⟩

end Machine

end ScriptTutor
