/-
**What lies below the stack.**

A program that runs through on a stack does the same on a stack with more items below it: it neither
sees nor moves them.  Only the opcode that counts the stack tells the difference.  The step law goes
by the kind of instruction; for most opcodes it is the law of `ScriptTutor.Rule`, by which a rule
does not look below its operands.  A program that fails is another matter, since it may have failed
for lack of the very items that now lie below.

Main definitions:

* `ScriptTutor.Machine.above`, `ScriptTutor.Machine.Run.above` — a machine, and a run, with more
  items at the bottom of the stack;
* `ScriptTutor.pushes` — the steps that push items one after the other.

Main results:

* `ScriptTutor.Machine.obey_above` — **an instruction that succeeds does not see what lies below**;
* `ScriptTutor.Machine.run_above` — nor does a program that runs through;
* `ScriptTutor.Engine.execute_above` — **literals in front of a program** stay at the bottom of
  every stack that its report shows.
-/

import Mathlib.Data.List.Forall2
import ScriptTutor.Proofs.Machine.Passes

set_option relaxedAutoImplicit false
set_option autoImplicit false

namespace ScriptTutor

/-! ### More items at the bottom -/

/-- The stacks with more items at the bottom of the main one. -/
def Stacks.above (below : Stack) (s : Stacks) : Stacks := { s with main := s.main ++ below }

/-- The step with more items at the bottom of the stacks that it shows. -/
def Step.above (below : List Item) (s : Step) : Step :=
  { s with before := below ++ s.before, after := below ++ s.after }

/-- The steps that push items one after the other on a stack, which is shown bottom first. -/
def pushes (below : List Item) : List Item → List Step
  | [] => []
  | x :: xs =>
    ⟨(Instruction.literal x).label, below, below ++ [x], true, none⟩ :: pushes (below ++ [x]) xs

/-- An operation that succeeds, and does not count the stack, does not see what lies below. -/
theorem Operation.run_above {o : Operation} {s s' : Stacks} (h : o.run s = (.ok (), s'))
    (ho : o ≠ .depth) (below : Stack) : o.run (s.above below) = (.ok (), s'.above below) := by
  cases o with
  | onTop r =>
      cases hres : r.rule.result? s.main with
      | none => simp [run, hres] at h
      | some q =>
          obtain ⟨x, rest⟩ := q
          cases x with
          | error f => simp [run, hres] at h
          | ok items =>
              rw [run_onTop_of_result? hres] at h
              cases h
              have hbelow : r.rule.result? (s.above below).main =
                  some (.ok items, rest ++ below) := r.rule.result?_append hres below
              rw [run_onTop_of_result? hbelow, ← List.append_assoc]
              rfl
  | toAlt =>
      obtain ⟨_ | ⟨x, rest⟩, alt⟩ := s
      · cases h
      · cases h
        rfl
  | fromAlt =>
      obtain ⟨main, _ | ⟨x, rest⟩⟩ := s
      · cases h
      · cases h
        rfl
  | depth => exact absurd rfl ho
  | abandon => cases h

namespace Machine

/-- The machine with more items at the bottom of the main stack. -/
def above (below : Stack) (m : Machine) : Machine := ⟨m.toStacks.above below, m.branches⟩

@[simp] theorem above_executing (below : Stack) (m : Machine) :
    (m.above below).executing = m.executing := rfl

@[simp] theorem above_main (below : Stack) (m : Machine) :
    (m.above below).main = m.main ++ below := rfl

@[simp] theorem above_branches (below : Stack) (m : Machine) :
    (m.above below).branches = m.branches := rfl

theorem record_above (i : Instruction) (m m' : Machine) (failure : Option Failure)
    (below : Stack) : record i (m.above below) (m'.above below) failure =
      (record i m m' failure).above below.snapshot := by
  rw [record, above_main, above_main, Stack.snapshot_append, Stack.snapshot_append]
  rfl

section

variable {m m' : Machine}

theorem openBranch_above {expected : Bool} {name : Text}
    (h : openBranch expected name m = (.ok (), m')) (below : Stack) :
    openBranch expected name (m.above below) = (.ok (), m'.above below) := by
  rw [openBranch] at h ⊢
  rw [above_executing]
  cases hm : m.executing with
  | false =>
      rw [hm] at h
      cases h
      rfl
  | true =>
      rw [hm] at h
      obtain ⟨⟨_ | ⟨x, rest⟩, alt⟩, bs⟩ := m
      · cases h
      · cases h
        rfl

theorem setBranches_above {bs : Except Failure Branches}
    (h : setBranches bs m = (.ok (), m')) (below : Stack) :
    setBranches bs (m.above below) = (.ok (), m'.above below) := by
  cases bs with
  | error f => cases h
  | ok bs =>
      cases h
      rfl

theorem flow_above {name : Text} {f : Flow} (h : flow name m f = (.ok (), m')) (below : Stack) :
    flow name (m.above below) f = (.ok (), m'.above below) := by
  cases f with
  | onTrue => exact openBranch_above h below
  | onFalse => exact openBranch_above h below
  | otherwise => exact setBranches_above h below
  | close => exact setBranches_above h below

theorem operate_above {d : DispatchEntry} {o : Operation} (h : operate d o m = (.ok (), m'))
    (ho : o ≠ .depth) (below : Stack) :
    operate d o (m.above below) = (.ok (), m'.above below) := by
  obtain hskip | ⟨hruns, hlt⟩ | ⟨hruns, hle⟩ := operate_cases d o m
  · rw [operate_of_skipped hskip] at h
    cases h
    exact operate_of_skipped (m := m.above below) hskip
  · rw [operate_of_lt hruns hlt] at h
    cases h
  · rw [operate_of_le hruns hle] at h
    -- a higher stack is high enough as well
    have hle' : d.minItems ≤ (m.above below).main.length := by
      rw [above_main, List.length_append]
      omega
    have hrun : o.run m.toStacks = (.ok (), m'.toStacks) := by
      rcases hr : o.run m.toStacks with ⟨r, s⟩
      rw [hr] at h
      cases h
      rfl
    have hbranches : m.branches = m'.branches := congrArg (·.2.branches) h
    have habove : o.run (m.above below).toStacks = _ := Operation.run_above hrun ho below
    rw [operate_of_le (m := m.above below) hruns hle', habove]
    simp only [above, hbranches]

/-- **An instruction that succeeds does not see what lies below**, unless it counts the stack. -/
theorem obey_above {i : Instruction} (h : obey i m = (.ok (), m'))
    (hi : i ≠ .opcode "OP_DEPTH") (below : Stack) :
    obey i (m.above below) = (.ok (), m'.above below) := by
  cases i with
  | literal x =>
      rw [obey_literal] at h ⊢
      cases hm : m.executing with
      | false =>
          rw [hm] at h
          cases h
          rw [above_executing, hm]
          rfl
      | true =>
          rw [hm] at h
          cases h
          rw [above_executing, hm]
          rfl
  | opcode name =>
      obtain ⟨f, hf⟩ | ⟨f, -, hf⟩ | ⟨d, o, hd, ho, hf⟩ := obey_opcode_cases name
      · rw [hf] at h
        cases h
      · rw [hf] at h ⊢
        exact flow_above h below
      · rw [hf] at h ⊢
        refine operate_above h ?_ below
        rintro rfl
        obtain ⟨hmem, rfl⟩ := Dispatch.resolve_eq_ok_iff.1 hd
        have hname := (Dispatch.consistent_of_mem d hmem).name_of_depth ho
        exact hi (congrArg Instruction.opcode hname)

end

/-! ### Runs -/

/-- What a run did, with more items at the bottom of the stack. -/
def Run.above (below : Stack) (r : Run) : Run :=
  ⟨r.steps.map (Step.above below.snapshot), r.machine.above below, r.ending⟩

/-- A program that runs through, and does not count the stack, does not see what lies below. -/
theorem run_above {p : List Value} {m m' : Machine} (h : Passes p m m')
    (hp : ∀ v ∈ p, Instruction.ofValue v ≠ .ok (.opcode "OP_DEPTH")) (below : Stack) :
    run p (m.above below) = (run p m).above below := by
  induction p, m, h using Passes.induction with
  | nil => rfl
  | cons v p m i mid h hi ho hrest ih =>
      rw [List.forall_mem_cons] at hp
      have hdepth : i ≠ .opcode "OP_DEPTH" := by
        rintro rfl
        exact hp.1 hi
      rw [run_cons_of_ok hi ho, run_cons_of_ok hi (obey_above ho hdepth below), ih hp.2,
        record_above]
      rfl

/-! ### Literals in front of a program -/

theorem run_literals {base : List Value} {xs : List Item}
    (h : List.Forall₂ (fun v x => Instruction.ofValue v = .ok (.literal x)) base xs) {m : Machine}
    (hm : m.executing = true) :
    run base m = ⟨pushes m.main.snapshot xs,
      { m with main := Stack.ofBottom xs ++ m.main }, .finished⟩ := by
  induction h generalizing m with
  | nil => rfl
  | @cons v x base xs hv _ ih =>
      have ho : obey (.literal x) m = (.ok (), { m with main := x :: m.main }) := by
        rw [obey_literal, if_pos hm]
      have hm' : executing { m with main := x :: m.main } = true := hm
      have hstack : Stack.ofBottom (x :: xs) ++ m.main = Stack.ofBottom xs ++ x :: m.main := by
        simp [Stack.ofBottom]
      have hstep : record (.literal x) m { m with main := x :: m.main } none =
          ⟨(Instruction.literal x).label, m.main.snapshot, m.main.snapshot ++ [x], true, none⟩ := by
        rw [record, Stack.snapshot_cons]
        rfl
      rw [run_cons_of_ok hv ho, ih hm', hstep, hstack, Stack.snapshot_cons]
      rfl

/-- A program that runs through from the start does so above literals that stand in front of it. -/
theorem run_append_literals {base p : List Value} {xs : List Item} {m : Machine}
    (hbase : List.Forall₂ (fun v x => Instruction.ofValue v = .ok (.literal x)) base xs)
    (h : Passes p start m)
    (hp : ∀ v ∈ p, Instruction.ofValue v ≠ .ok (.opcode "OP_DEPTH")) :
    run (base ++ p) start =
      ⟨pushes [] xs ++ (run p start).steps.map (Step.above xs), m.above (Stack.ofBottom xs),
        .finished⟩ := by
  -- the literals leave the machine of the start, with themselves below its empty stack
  have hlit := run_literals hbase (m := start) rfl
  have hfin : (run base start).ending = .finished := by rw [hlit]
  have hstart : (run base start).machine = start.above (Stack.ofBottom xs) := by
    rw [hlit]
    exact congrArg (fun s => (⟨⟨s, []⟩, []⟩ : Machine)) (List.append_nil _)
  rw [run_append_of_finished hfin, hstart, run_above h hp, hlit, Run.above, h.1, h.2,
    Stack.snapshot_ofBottom]
  rfl

end Machine

namespace Engine

/-- The verdict does not see what lies below, if anything lies above it. -/
theorem objection?_above {m : Machine} (h : m.main ≠ []) (below : Stack) :
    objection? (m.above below) = objection? m := by
  obtain ⟨⟨_ | ⟨x, rest⟩, alt⟩, _ | ⟨f, bs⟩⟩ := m
  · exact absurd rfl h
  · exact absurd rfl h
  · rfl
  · rfl

/-- **Literals in front of a program** that runs through, and that does not count the stack, stay at
the bottom of every stack that its report shows.  The verdict is the same, unless the program leaves
nothing on the stack of its own. -/
theorem execute_above {base p : List Value} {xs : List Item}
    (hbase : List.Forall₂ (fun v x => Instruction.ofValue v = .ok (.literal x)) base xs)
    (hp : ∀ v ∈ p, v.IsItem)
    (hdepth : ∀ t : Text, Value.item (.text t) ∈ p → t.upper ≠ "OP_DEPTH") (e e' : Engine) :
    ∃ r f, e.execute (.list p) = (.ok r, f) ∧ ((∀ s ∈ r.steps, s.success = true) →
      ∃ r' f', e'.execute (.list (base ++ p)) = (.ok r', f') ∧
        (∀ s ∈ r'.steps, s.success = true) ∧
        r'.steps = pushes [] xs ++ r.steps.map (Step.above xs) ∧
        f'.alt = f.alt ∧ f'.branches = f.branches ∧
        r'.finalStack = xs ++ r.finalStack ∧
        (r.finalStack ≠ [] → r'.success = r.success ∧ r'.error = r.error)) := by
  have hcount : ∀ v ∈ p, Instruction.ofValue v ≠ .ok (.opcode "OP_DEPTH") := by
    intro v hv h
    obtain ⟨t, rfl, -, ht⟩ := Instruction.ofValue_eq_opcode_iff.1 h
    exact hdepth t hv ht
  rw [execute_list, execute_list]
  obtain ⟨r, ⟨m, steps⟩, hr⟩ := exists_report_of_isItem hp
  refine ⟨r, _, hr, fun hs => ?_⟩
  have hpass : Machine.Passes p Machine.start m := passes_of_steps hr hs
  have hrun := Machine.run_append_literals hbase hpass hcount
  have hall : Machine.Passes (base ++ p) Machine.start (m.above (Stack.ofBottom xs)) := by
    rw [Machine.Passes, hrun]
    exact ⟨rfl, rfl⟩
  rw [executeList_of_passes hpass] at hr
  cases hr
  refine ⟨_, _, executeList_of_passes hall, hall.success_of_mem, ?_, rfl, rfl, ?_, ?_⟩
  · rw [verdict_steps, verdict_steps, hrun]
  · rw [verdict_finalStack, verdict_finalStack, Machine.above_main, Stack.snapshot_append,
      Stack.snapshot_ofBottom]
  · intro hne
    have hmain : m.main ≠ [] := by
      intro hnil
      rw [verdict_finalStack, hnil] at hne
      exact hne rfl
    rw [verdict, verdict, objection?_above hmain]
    exact ⟨rfl, rfl⟩

/-- Two literals stay below a conditional that takes its own literal off and puts another one
aside. -/
theorem execute_above_conditional :
    ∃ r f r' f', fresh.execute (.list [.item (.number 3), .item (.flag true), .item (.text "Op_If"),
        .item (.text "OP_DUP"), .item (.text "OP_TOALTSTACK"), .item (.text "OP_ENDIF")]) =
        (.ok r, f) ∧
      fresh.execute (.list ([.buffer [9], .item (.text "x")] ++
        [.item (.number 3), .item (.flag true), .item (.text "Op_If"), .item (.text "OP_DUP"),
          .item (.text "OP_TOALTSTACK"), .item (.text "OP_ENDIF")])) = (.ok r', f') ∧
      (∀ s ∈ r'.steps, s.success = true) ∧
      r'.steps = pushes [] [.bytes [9], .text "x"] ++
        r.steps.map (Step.above [.bytes [9], .text "x"]) ∧
      f'.alt = f.alt ∧ f'.branches = f.branches ∧
      r'.finalStack = [.bytes [9], .text "x"] ++ r.finalStack ∧
      (r.finalStack ≠ [] → r'.success = r.success ∧ r'.error = r.error) := by
  have hbase : List.Forall₂ (fun v x => Instruction.ofValue v = .ok (.literal x))
      [Value.buffer [9], .item (.text "x")] [.bytes [9], .text "x"] :=
    .cons rfl (.cons (by rw [Instruction.ofValue_text]; rfl) .nil)
  obtain ⟨r, f, hr, h⟩ := execute_above hbase (p := [.item (.number 3), .item (.flag true),
    .item (.text "Op_If"), .item (.text "OP_DUP"), .item (.text "OP_TOALTSTACK"),
    .item (.text "OP_ENDIF")]) (by simp [Value.IsItem]) (by
      intro t ht
      simp only [List.mem_cons, List.not_mem_nil, or_false, Value.item.injEq, reduceCtorEq,
        Item.text.injEq, false_or] at ht
      obtain rfl | rfl | rfl | rfl := ht <;> decide +kernel) fresh fresh
  have hs : ∀ s ∈ r.steps, s.success = true := by
    have hall : (fresh.execute (.list [.item (.number 3), .item (.flag true),
        .item (.text "Op_If"), .item (.text "OP_DUP"), .item (.text "OP_TOALTSTACK"),
        .item (.text "OP_ENDIF")])).1.toOption.map (fun r => r.steps.all (·.success)) =
          some true := by decide +kernel
    rw [hr] at hall
    exact List.all_eq_true.1 (Option.some.inj hall)
  obtain ⟨r', f', hr', hrest⟩ := h hs
  exact ⟨r, f, r', f', hr, hr', hrest⟩

end Engine

end ScriptTutor
