/-
**How many items an opcode needs.**

The dispatch table says of every opcode how many items have to lie on the main stack before it runs.
The opcode does not know of the table: called without it, the opcode asks for its items itself.  A
number in the table that is too small would let an opcode run into a stack that is too low for it,
and one that is too large would forbid what the opcode can do.  This module proves that all numbers
are exact.

Main definitions:

* `ScriptTutor.Failure.IsOfOperands` — a failure that has its reason in the operands, and not in
  their number;
* `ScriptTutor.Fault.isLack` — a fault of a call that finds too few items;
* `ScriptTutor.DispatchEntry.lack` — what the opcode of an entry complains of that finds too few
  items.

Main results:

* `ScriptTutor.TopOp.ensures_isOfOperands` — an opcode that finds its operands complains of them
  only;
* `ScriptTutor.Operation.isLack_run_iff` — an operation finds too few items exactly below its
  number of operands;
* `ScriptTutor.Dispatch.minItems_exact` — **the numbers of the dispatch table are exact**.
-/

import ScriptTutor.Proofs.Expansion
import ScriptTutor.Proofs.Procedure

set_option relaxedAutoImplicit false
set_option autoImplicit false

namespace ScriptTutor

/-! ### Failures of opcodes that find their operands -/

/-- A failure that has its reason in the operands: one of them is no number, or what is verified of
them does not hold. -/
def Failure.IsOfOperands : Failure → Prop
  | notANumber _ => True
  | unverified _ => True
  | _ => False

/-- If anything goes wrong with the operands, they are the reason. -/
def Replacement.IsOfOperands (x : Replacement) : Prop := ∀ f, x = .error f → f.IsOfOperands

theorem Item.isOfOperands_of_toNumber {x : Item} {f : Failure} (h : x.toNumber = .error f) :
    f.IsOfOperands := by
  cases x with
  | text t =>
      rw [toNumber] at h
      split at h <;> cases h <;> trivial
  | _ => cases h

namespace TopOp

theorem verified_isOfOperands (b : Bool) (operation : Text) :
    (verified b operation).IsOfOperands := by
  intro f h
  cases b <;> cases h
  trivial

theorem onNumber_isOfOperands (f : Int → Int) (a : Item) : (onNumber f a).IsOfOperands := by
  intro e h
  rw [onNumber] at h
  split at h
  · cases h
  · next ha =>
    cases h
    exact Item.isOfOperands_of_toNumber ha

theorem numbers_isOfOperands {a b : Item} {e : Failure} (h : numbers a b = .error e) :
    e.IsOfOperands := by
  rw [numbers] at h
  split at h
  · next ha =>
    cases h
    exact Item.isOfOperands_of_toNumber ha
  · split at h
    · next hb =>
      cases h
      exact Item.isOfOperands_of_toNumber hb
    · cases h

theorem onNumbers_isOfOperands (f : Int → Int → Int) (a b : Item) :
    (onNumbers f a b).IsOfOperands := by
  intro e h
  rw [onNumbers] at h
  split at h
  · cases h
  · next hab =>
    cases h
    exact numbers_isOfOperands hab

/-- **An opcode that finds its operands complains of them only.** -/
theorem ensures_isOfOperands (r : TopOp) : r.rule.Ensures fun _ => Replacement.IsOfOperands := by
  cases r with
  | verify => exact fun _ => verified_isOfOperands _ _
  | equalVerify => exact fun _ _ => verified_isOfOperands _ _
  | unary f => exact fun _ => onNumber_isOfOperands _ _
  | binary f => exact fun _ _ => onNumbers_isOfOperands _ _ _
  | numEqualVerify =>
      intro a b
      dsimp only
      split
      · exact verified_isOfOperands _ _
      · next hab =>
        rintro f ⟨⟩
        exact numbers_isOfOperands hab
  | within =>
      intro a b c
      dsimp only
      split
      · next ha =>
        rintro f ⟨⟩
        exact Item.isOfOperands_of_toNumber ha
      · split
        · next hbc =>
          rintro f ⟨⟩
          exact numbers_isOfOperands hbc
        · nofun
  | _ =>
      -- all other rules have a result for all operands
      simp [rule, Rule.Ensures, Replacement.IsOfOperands]

end TopOp

/-! ### Operations that find too few items -/

/-- The fault of a call that finds too few items: an underflow, or the truth of an item that is not
there. -/
def Fault.isLack : Fault → Bool
  | .wrongKind => true
  | .shortage _ => true
  | .failure (.underflow _ _ _) => true
  | _ => false

theorem Failure.IsOfOperands.not_isLack {f : Failure} (h : f.IsOfOperands) :
    (Fault.failure f).isLack = false := by
  cases f with
  | underflow required found operation => exact h.elim
  | _ => rfl

namespace Operation

theorem isLack_lack (o : Operation) (found : Nat) : (o.lack found).isLack = true := by
  rw [lack]
  split <;> rfl

/-- **An operation finds too few items exactly below its number of operands**, if there is something
that was put aside for the one that takes it back. -/
theorem isLack_run_iff {o : Operation} {s : Stacks} (halt : o = .fromAlt → s.alt ≠ []) :
    (∃ e, (o.run s).1 = .error e ∧ e.isLack = true) ↔
      s.main.length < (Opcode.operation o).operands := by
  constructor
  · rintro ⟨e, hrun, hlack⟩
    refine Nat.lt_of_not_le fun hle => ?_
    cases o with
    | onTop r =>
        cases hres : r.rule.result? s.main with
        | none => exact absurd ((r.rule.result?_eq_none_iff s.main).1 hres) (Nat.not_lt.2 hle)
        | some y =>
            obtain ⟨x, rest⟩ := y
            -- the operands are there, so that whatever goes wrong is due to them
            have hoperands := (TopOp.ensures_isOfOperands r).of_result? hres
            cases x with
            | ok items => simp [run, hres] at hrun
            | error f =>
                simp only [run, hres] at hrun
                cases hrun
                rw [(hoperands f rfl).not_isLack] at hlack
                cases hlack
    | toAlt =>
        obtain ⟨_ | ⟨x, main⟩, alt⟩ := s
        · cases hle
        · cases hrun
    | fromAlt =>
        obtain ⟨main, _ | ⟨x, alt⟩⟩ := s
        · exact halt rfl rfl
        · cases hrun
    | depth => cases hrun
    | abandon =>
        cases hrun
        cases hlack
  · intro h
    exact ⟨_, congrArg Prod.fst (run_of_lt h), isLack_lack o _⟩

end Operation

/-! ### The dispatch table -/

/-- What the opcode of an entry complains of that finds too few items and is called without a check:
an underflow that counts the items that the entry asks for, and names no opcode.  Only the opcode
that duplicates a true item asks for the truth of an item that is not there. -/
def DispatchEntry.lack (d : DispatchEntry) (found : Nat) : Fault :=
  if d.name = "OP_IFDUP" then .wrongKind else .failure (.underflow d.minItems found [])

namespace Dispatch

theorem ifDup_iff : ∀ d ∈ table, d.opcode = TopOp.ifDup ↔ d.name = "OP_IFDUP" := by
  decide +kernel

theorem lack_eq {d : DispatchEntry} {o : Operation} (hmem : d ∈ table)
    (ho : d.opcode = .operation o) (found : Nat) : o.lack found = d.lack found := by
  have hneeds := (consistent_of_mem d hmem).minItems_eq
  have hifDup := ifDup_iff d hmem
  rw [ho] at hneeds hifDup
  rw [Operation.lack, DispatchEntry.lack, hneeds]
  exact if_congr (by simpa using hifDup) rfl rfl

/-- **The numbers of the dispatch table are exact.**  An opcode that is called without a check does
what its procedure says, whose parts ask for their own items each.  It fails for want of items on
the main stack exactly if there are fewer than its entry asks for, provided that something was put
aside for the opcode that takes it back.  Then it says how many its entry asks for and how many
there are, or asks for the truth of no item, and leaves both stacks as they were. -/
theorem minItems_exact {d : DispatchEntry} {o : Operation} (hmem : d ∈ table)
    (ho : d.opcode = .operation o) (s : Stacks) (halt : d.name = "OP_FROMALTSTACK" → s.alt ≠ []) :
    Procedure.worded ((Procedure.ofOperation o).run s) = Procedure.worded (o.run s) ∧
      ((∃ e, (o.run s).1 = .error e ∧ e.isLack = true) ↔ s.main.length < d.minItems) ∧
      (s.main.length < d.minItems → o.run s = (.error (d.lack s.main.length), s)) := by
  have hneeds := (consistent_of_mem d hmem).minItems_eq
  have hfromAlt := (telling_of_mem d hmem).fromAlt_iff
  rw [ho] at hneeds hfromAlt
  have halt : o = .fromAlt → s.alt ≠ [] := fun h => halt (hfromAlt.1 (congrArg _ h))
  rw [hneeds]
  refine ⟨Procedure.worded_ofOperation o s, Operation.isLack_run_iff halt, ?_⟩
  intro hlt
  rw [Operation.run_of_lt hlt, lack_eq hmem ho]

/-- Two of three operands are there, one of which is no number, and something was put aside: the
opcode complains of the number of operands, and takes none.  The opcode that takes back what was put
aside lacks nothing on an empty main stack. -/
theorem minItems_exact_within :
    let s : Stacks := ⟨[.text "0xZ", .number 7], [.bytes [1]]⟩
    (Operation.onTop .within).run s = (.error (.failure (.underflow 3 2 [])), s) ∧
      ¬ ∃ e, (Operation.fromAlt.run { s with main := [] }).1 = .error e ∧ e.isLack = true := by
  intro s
  have hwithin : ⟨"OP_WITHIN", TopOp.within, 3⟩ ∈ table := by simp [table, computations]
  have hfromAlt : ⟨"OP_FROMALTSTACK", Operation.fromAlt, 0⟩ ∈ table := by simp [table, moves]
  obtain ⟨-, -, hshort⟩ := minItems_exact hwithin rfl s (fun h => absurd h (by decide))
  obtain ⟨-, hlack, -⟩ := minItems_exact hfromAlt rfl { s with main := [] } (fun _ => by decide)
  exact ⟨hshort (by decide), fun h => Nat.not_lt_zero _ (hlack.1 h)⟩

end Dispatch

end ScriptTutor
