/-
**Skipped instructions.**

Where nothing is executed, an instruction only leaves a step behind that says what it was called.
This is so for literals and for all opcodes that run and that neither deal with branches nor give
the script up: not even the items that they would need are asked for.  Two programs that differ in
such an instruction therefore pass through the same machines, and their reports differ in one label.

Main definitions:

* `ScriptTutor.Value.IsInert` — a value leaves everything as it is where it is skipped;
* `ScriptTutor.Step.relabel`, `ScriptTutor.Report.relabel`, `ScriptTutor.Engine.relabel` — a step,
  and the steps of a report and of an engine, under another label.

Main results:

* `ScriptTutor.Machine.run_cons_of_skipped` — a skipped instruction **passes the machine on as it
  is**;
* `ScriptTutor.Machine.run_replace_of_skipped` — runs of programs that differ in a skipped
  instruction differ in one label;
* `ScriptTutor.Engine.execute_replace_of_skipped` — **and so do their reports**.
-/

import ScriptTutor.Proofs.Beginning
import ScriptTutor.Proofs.Nesting.Basic

set_option relaxedAutoImplicit false
set_option autoImplicit false

namespace ScriptTutor

/-! ### Other labels -/

/-- The step under another label. -/
def Step.relabel (label : Text) (s : Step) : Step := { s with label }

/-- The report with another label on the step at a position. -/
def Report.relabel (k : Nat) (label : Text) (r : Report) : Report :=
  { r with steps := r.steps.modify k (Step.relabel label) }

/-- The engine with another label on the step at a position. -/
def Engine.relabel (k : Nat) (label : Text) (e : Engine) : Engine :=
  { e with steps := e.steps.modify k (Step.relabel label) }

/-- What a run did, with another label on the step at a position. -/
def Machine.Run.relabel (k : Nat) (label : Text) (r : Run) : Run :=
  { r with steps := r.steps.modify k (Step.relabel label) }

/-! ### Inert values -/

/-- A value leaves everything as it is where it is skipped: it is harmless there, and it is no
opcode of conditionals. -/
structure Value.IsInert (v : Value) : Prop where
  isHarmless : v.IsHarmless
  flow?_eq_none : v.flow? = none

namespace Machine

/-- A skipped instruction **passes the machine on as it is**. -/
theorem run_cons_of_skipped {v : Value} (hv : v.IsInert) {m : Machine} (hm : m.executing = false) :
    ∃ i, Instruction.ofValue v = .ok i ∧
      ∀ p, run (v :: p) m = (run p m).after (record i m m none) := by
  obtain ⟨i, hi, ho⟩ := hv.isHarmless.obey_of_skipped hv.flow?_eq_none hm
  exact ⟨i, hi, run_cons_of_ok hi ho⟩

/-- Runs of programs that differ in a skipped instruction differ in one label. -/
theorem run_replace_of_skipped {p : List Value} {v w : Value} {m m' : Machine} (h : Passes p m m')
    (hm' : m'.executing = false) (hv : v.IsInert) (hw : w.IsInert) :
    ∃ j, Instruction.ofValue w = .ok j ∧
      ∀ q, run (p ++ w :: q) m = (run (p ++ v :: q) m).relabel p.length j.label := by
  obtain ⟨i, -, hvrun⟩ := run_cons_of_skipped hv hm'
  obtain ⟨j, hj, hwrun⟩ := run_cons_of_skipped hw hm'
  refine ⟨j, hj, ?_⟩
  intro q
  -- the two runs take the same steps up to here, and go on from the same machine
  have hmodify : ∀ ss : List Step, ((run p m).steps ++ record i m' m' none :: ss).modify p.length
      (Step.relabel j.label) = (run p m).steps ++ record j m' m' none :: ss := by
    intro ss
    rw [← h.length_steps]
    exact List.modifyTailIdx_add _ 0 _ _
  rw [run_append_of_finished h.1, run_append_of_finished h.1, h.2, hvrun, hwrun]
  simp only [Run.relabel, Run.after, hmodify]

end Machine

namespace Engine

/-- The verdict does not look at labels. -/
theorem conclude_relabel (k : Nat) (label : Text) (r : Machine.Run) :
    conclude (r.relabel k label) =
      ((conclude r).1.map (Report.relabel k label), (conclude r).2.relabel k label) := by
  rw [conclude_eq, conclude_eq, Machine.Run.relabel]
  cases r.ending <;> rfl

/-- **A skipped instruction cannot influence anything.**  Two programs that differ in an
instruction, which is skipped in both of them, have reports that differ in the label of its step,
and they leave the same stacks and the same branches behind. -/
theorem execute_replace_of_skipped {p q : List Value} {v w : Value} {r₀ : Report} {e₀ : Engine}
    (h : executeList p = (.ok r₀, e₀)) (hs : ∀ s ∈ r₀.steps, s.success = true)
    (hskip : e₀.executing = false) (hv : v.IsInert) (hw : w.IsInert) (hq : ∀ u ∈ q, u.IsItem)
    (e e' : Engine) :
    ∃ r f j, e.execute (.list (p ++ v :: q)) = (.ok r, f) ∧ p.length < r.steps.length ∧
      Instruction.ofValue w = .ok j ∧
      e'.execute (.list (p ++ w :: q)) =
        (.ok (r.relabel p.length j.label), f.relabel p.length j.label) := by
  have hpass := passes_of_steps h hs
  have hitems : ∀ u ∈ p ++ v :: q, u.IsItem := by
    simp only [List.forall_mem_append, List.forall_mem_cons]
    exact ⟨hpass.isItem_of_mem, hv.isHarmless.1, hq⟩
  obtain ⟨r, f, hr⟩ := exists_report_of_isItem hitems
  obtain ⟨i, hi⟩ := Instruction.ofValue_of_isItem hv.isHarmless.1
  obtain ⟨j, hj, hrun⟩ := Machine.run_replace_of_skipped hpass hskip hv hw
  refine ⟨r, f, j, hr, ?_, hj, ?_⟩
  · have hstep := hpass.getElem?_steps hi q
    rw [steps_eq_run hr]
    exact (List.getElem?_eq_some_iff.1 hstep).1
  · rw [execute_list, executeList, hrun q, conclude_relabel]
    rw [executeList] at hr
    rw [hr]
    rfl

/-- In the first arm of a conditional that takes the second one, a sum without operands may be
exchanged for a byte string. -/
theorem execute_replace_of_skipped_sum :
    ∃ r f j, fresh.execute (.list ([.item (.flag false), .item (.text "op_if")] ++
        .item (.text "OP_ADD") :: [.item (.text "OP_ELSE"), .item (.number 7),
          .item (.text "OP_ENDIF")])) = (.ok r, f) ∧ 2 < r.steps.length ∧
      Instruction.ofValue (.buffer [1, 2]) = .ok j ∧
      fresh.execute (.list ([.item (.flag false), .item (.text "op_if")] ++
        .buffer [1, 2] :: [.item (.text "OP_ELSE"), .item (.number 7),
          .item (.text "OP_ENDIF")])) = (.ok (r.relabel 2 j.label), f.relabel 2 j.label) := by
  have hreach : Machine.Passes [.item (.flag false), .item (.text "op_if")] Machine.start
      ⟨⟨[], []⟩, [⟨false, true, false⟩]⟩ := ⟨by decide +kernel, by decide +kernel⟩
  have hsum : Value.IsInert (.item (.text "OP_ADD")) := by
    refine ⟨⟨⟨_, rfl⟩, ?_⟩, by decide +kernel⟩
    rintro _ ⟨⟩ -
    exact ⟨by decide +kernel, by decide +kernel⟩
  have hbytes : Value.IsInert (.buffer [1, 2]) := ⟨⟨⟨_, rfl⟩, nofun⟩, rfl⟩
  exact execute_replace_of_skipped (executeList_of_passes hreach) hreach.success_of_mem rfl hsum
    hbytes (by simp [Value.IsItem]) fresh fresh

end Engine

end ScriptTutor
