/-
**What one instruction can do.**

An instruction is a literal, a name that does not run, an opcode of conditionals, or an operation on
the stacks.  This module says once what each of the four does to the machine; later proofs take the
cases from here and do not open the machine again.

Main definitions:

* `ScriptTutor.Operation.lack` — what an operation complains of that finds too few items;
* `ScriptTutor.Machine.withBranches` — the machine with other open branches;
* `ScriptTutor.Machine.failure?` — the failure of an instruction.

Main results:

* `ScriptTutor.Operation.run_of_lt` — an operation that finds too few items changes nothing;
* `ScriptTutor.Machine.obey_opcode_cases` — **the three things an opcode can do**;
* `ScriptTutor.Machine.obey_failure` — an instruction goes wrong only by a failure of the script;
* `ScriptTutor.Machine.run_error` — an operation that goes wrong with the items there that it needs
  has lost exactly these items;
* `ScriptTutor.Machine.obey_withBranches` — an instruction that is no opcode of conditionals sees
  of the open branches only whether they are executed, and leaves them alone;
* `ScriptTutor.Machine.step_eq`, `ScriptTutor.Machine.run_cons_of_ok`,
  `ScriptTutor.Machine.run_cons_of_error` — steps and runs in terms of instructions;
* `ScriptTutor.Machine.run_induction` — **induction over a run**, by what its first value does.
-/

import ScriptTutor.Machine.Run
import ScriptTutor.Proofs.Instruction

set_option relaxedAutoImplicit false
set_option autoImplicit false

namespace ScriptTutor

/-! ### Operations that find too few items -/

namespace Operation

/-- What an operation complains of that finds too few items: how many it needs, and how many there
are.  The opcode that duplicates a true item asks for the truth of an item that is not there. -/
def lack (o : Operation) (found : Nat) : Fault :=
  if o = .onTop .ifDup then .wrongKind
  else .failure (.underflow (Opcode.operation o).operands found [])

/-- An operation that finds too few items complains of them and changes nothing. -/
theorem run_of_lt {o : Operation} {s : Stacks}
    (h : s.main.length < (Opcode.operation o).operands) :
    o.run s = (.error (o.lack s.main.length), s) := by
  cases o with
  | onTop r =>
      have hres : r.rule.result? s.main = none := (r.rule.result?_eq_none_iff s.main).2 h
      have hlack : shortage r s.main.length = lack (.onTop r) s.main.length := by
        cases r <;> rfl
      rw [run, hres, hlack]
  | toAlt =>
      rcases s with ⟨_ | ⟨x, rest⟩, alt⟩
      · rfl
      · exact absurd h (by simp [Opcode.operands])
  | _ => exact absurd h (Nat.not_lt_zero _)

end Operation

namespace Machine

/-! ### Machines with other branches -/

/-- The machine with other open branches. -/
def withBranches (m : Machine) (bs : Branches) : Machine := { m with branches := bs }

@[simp] theorem withBranches_executing (m : Machine) (bs : Branches) :
    (m.withBranches bs).executing = bs.executing := rfl

/-! ### The cases of an opcode -/

theorem perform_eq (name : Text) (m : Machine) :
    perform name m =
      match Dispatch.resolve name with
      | .error f => (.error (.failure f), m)
      | .ok d =>
        match d.opcode with
        | .flow f => flow name m f
        | .operation o => operate d o m := by
  rw [perform, Dispatch.resolve]
  split
  · rfl
  · cases Dispatch.find? name <;> rfl

theorem obey_flow (f : Flow) (m : Machine) : obey (.opcode f.name) m = flow f.name m f := by
  obtain ⟨d, hd, -, hf⟩ := Dispatch.resolve_flow f
  rw [obey, perform_eq, hd]
  simp only [hf]

theorem obey_operation {name : Text} {d : DispatchEntry} {o : Operation}
    (hd : Dispatch.resolve name = .ok d) (ho : d.opcode = .operation o) (m : Machine) :
    obey (.opcode name) m = operate d o m := by
  rw [obey, perform_eq, hd]
  simp only [ho]

/-- **The three things an opcode can do**: fail because nothing runs under its name, deal with
branches, or operate on the stacks. -/
theorem obey_opcode_cases (name : Text) :
    (∃ f, ∀ m, obey (.opcode name) m = (.error (.failure f), m)) ∨
    (∃ f : Flow, f.name = name ∧ ∀ m, obey (.opcode name) m = flow name m f) ∨
    ∃ d o, Dispatch.resolve name = .ok d ∧ d.opcode = .operation o ∧
      ∀ m, obey (.opcode name) m = operate d o m := by
  cases hr : Dispatch.resolve name with
  | error f =>
      refine .inl ⟨f, ?_⟩
      intro m
      rw [obey, perform_eq, hr]
  | ok d =>
      cases hf : Flow.ofName? name with
      | some f =>
          obtain rfl := Flow.ofName?_eq_some_iff.1 hf
          exact .inr (.inl ⟨f, rfl, obey_flow f⟩)
      | none =>
          obtain ⟨o, ho⟩ := Dispatch.opcode_of_resolve hr hf
          exact .inr (.inr ⟨d, o, rfl, ho, obey_operation hr ho⟩)

/-! ### The cases of an operation -/

section

variable {d : DispatchEntry} {o : Operation} {m : Machine}

theorem runs_of_executing (o : Operation) (h : m.executing = true) :
    (m.executing || o.alwaysRuns) = true := by
  rw [h, Bool.true_or]

theorem operate_of_skipped (h : (m.executing || o.alwaysRuns) = false) :
    operate d o m = (.ok (), m) := by
  rw [operate, h]
  rfl

theorem operate_of_lt (h : (m.executing || o.alwaysRuns) = true)
    (hlen : m.main.length < d.minItems) :
    operate d o m = (.error (.failure (.underflow d.minItems m.main.length d.name)), m) := by
  rw [operate, if_pos h, if_pos hlen]

theorem operate_of_le (h : (m.executing || o.alwaysRuns) = true)
    (hlen : d.minItems ≤ m.main.length) :
    operate d o m = ((o.run m.toStacks).1, { m with toStacks := (o.run m.toStacks).2 }) := by
  rw [operate, if_pos h, if_neg (Nat.not_lt.2 hlen)]

/-- The three cases of an operation. -/
theorem operate_cases (d : DispatchEntry) (o : Operation) (m : Machine) :
    (m.executing || o.alwaysRuns) = false ∨
    (m.executing || o.alwaysRuns) = true ∧ m.main.length < d.minItems ∨
    (m.executing || o.alwaysRuns) = true ∧ d.minItems ≤ m.main.length := by
  cases h : m.executing || o.alwaysRuns with
  | false => exact .inl rfl
  | true => exact .inr ((Nat.lt_or_ge m.main.length d.minItems).imp (⟨rfl, ·⟩) (⟨rfl, ·⟩))

end

/-! ### Instructions go wrong only by failures of the script -/

theorem flow_error {name : Text} {f : Flow} {m m' : Machine} {e : Fault}
    (h : flow name m f = (.error e, m')) : (∃ x, e = .failure x) ∧ m' = m := by
  have hset : ∀ {bs : Except Failure Branches}, setBranches bs m = (.error e, m') →
      (∃ x, e = .failure x) ∧ m' = m := by
    intro bs h
    cases bs with
    | ok bs => cases h
    | error x =>
        cases h
        exact ⟨⟨x, rfl⟩, rfl⟩
  have hopen : ∀ {expected : Bool}, openBranch expected name m = (.error e, m') →
      (∃ x, e = .failure x) ∧ m' = m := by
    intro expected h
    rw [openBranch] at h
    split at h
    · split at h
      · cases h
      · cases h
        exact ⟨⟨_, rfl⟩, rfl⟩
    · cases h
  cases f with
  | onTrue => exact hopen h
  | onFalse => exact hopen h
  | otherwise => exact hset h
  | close => exact hset h

/-- The operation of an entry finds the items it needs, since the entry asks for them.  If it goes
wrong nevertheless, these items are gone, and nothing else is changed. -/
theorem run_error {d : DispatchEntry} {o : Operation} {s s' : Stacks} {e : Fault}
    (hmem : d ∈ Dispatch.table) (ho : d.opcode = .operation o) (hlen : d.minItems ≤ s.main.length)
    (h : o.run s = (.error e, s')) :
    (∃ x, e = .failure x) ∧ s' = ⟨s.main.drop d.minItems, s.alt⟩ := by
  have hneeds := (Dispatch.consistent_of_mem d hmem).minItems_eq
  rw [ho] at hneeds
  rw [hneeds] at hlen ⊢
  cases o with
  | onTop r =>
      cases hres : r.rule.result? s.main with
      | none =>
          -- the rule would need more items than the entry asks for
          have hshort := (r.rule.result?_eq_none_iff s.main).1 hres
          exact absurd hshort (Nat.not_lt.2 hlen)
      | some p =>
          obtain ⟨x, rest⟩ := p
          obtain rfl := Rule.eq_drop_of_result? hres
          cases x with
          | ok items => simp [Operation.run, hres] at h
          | error f =>
              simp only [Operation.run, hres] at h
              cases h
              exact ⟨⟨f, rfl⟩, rfl⟩
  | toAlt =>
      rcases s with ⟨_ | ⟨x, rest⟩, alt⟩
      · cases hlen
      · cases h
  | fromAlt =>
      rcases s with ⟨main, _ | ⟨x, rest⟩⟩
      · cases h
        exact ⟨⟨_, rfl⟩, rfl⟩
      · cases h
  | depth => cases h
  | abandon =>
      cases h
      exact ⟨⟨_, rfl⟩, rfl⟩

theorem operate_failure {d : DispatchEntry} {o : Operation} {m : Machine} {e : Fault}
    (hmem : d ∈ Dispatch.table) (ho : d.opcode = .operation o)
    (h : (operate d o m).1 = .error e) : ∃ x, e = .failure x := by
  obtain hskip | ⟨hruns, hlt⟩ | ⟨hruns, hle⟩ := operate_cases d o m
  · simp [operate_of_skipped hskip] at h
  · rw [operate_of_lt hruns hlt] at h
    exact ⟨_, by simpa using h.symm⟩
  · rw [operate_of_le hruns hle] at h
    exact (run_error hmem ho hle (Prod.ext h rfl)).1

/-- An instruction goes wrong only by a failure of the script. -/
theorem obey_failure {i : Instruction} {m : Machine} {e : Fault}
    (h : (obey i m).1 = .error e) : ∃ f, e = .failure f := by
  cases i with
  | literal x => simp [obey] at h
  | opcode name =>
      obtain ⟨f, hf⟩ | ⟨f, -, hf⟩ | ⟨d, o, hd, ho, hf⟩ := obey_opcode_cases name
      · rw [hf] at h
        exact ⟨f, (Except.error.inj h).symm⟩
      · rw [hf] at h
        exact (flow_error (Prod.ext h rfl)).1
      · rw [hf] at h
        exact operate_failure (Dispatch.resolve_eq_ok_iff.1 hd).1 ho h

theorem obey_cases (i : Instruction) (m : Machine) :
    (∃ m', obey i m = (.ok (), m')) ∨ ∃ f m', obey i m = (.error (.failure f), m') := by
  cases h : obey i m with
  | mk r m' =>
      cases r with
      | ok u => exact .inl ⟨m', rfl⟩
      | error e =>
          obtain ⟨f, rfl⟩ := obey_failure (i := i) (m := m) (e := e) (by rw [h])
          exact .inr ⟨f, m', rfl⟩

/-! ### Instructions that leave the branches alone -/

/-- Operations see of the branches only whether they are executed. -/
theorem operate_withBranches (d : DispatchEntry) (o : Operation) {m : Machine} {bs : Branches}
    (h : bs.executing = m.branches.executing) :
    operate d o (m.withBranches bs) = ((operate d o m).1, (operate d o m).2.withBranches bs) := by
  have he : ((m.withBranches bs).executing || o.alwaysRuns) = (m.executing || o.alwaysRuns) :=
    congrArg (· || o.alwaysRuns) h
  obtain hskip | ⟨hruns, hlt⟩ | ⟨hruns, hle⟩ := operate_cases d o m
  · rw [operate_of_skipped hskip, operate_of_skipped (he.trans hskip)]
  · rw [operate_of_lt hruns hlt, operate_of_lt (m := m.withBranches bs) (he.trans hruns) hlt]
    rfl
  · rw [operate_of_le hruns hle, operate_of_le (m := m.withBranches bs) (he.trans hruns) hle]
    rfl

theorem operate_branches (d : DispatchEntry) (o : Operation) (m : Machine) :
    (operate d o m).2.branches = m.branches := by
  obtain hskip | ⟨hruns, hlt⟩ | ⟨hruns, hle⟩ := operate_cases d o m
  · rw [operate_of_skipped hskip]
  · rw [operate_of_lt hruns hlt]
  · rw [operate_of_le hruns hle]

theorem obey_branches {i : Instruction} (hi : i.flow? = none) (m : Machine) :
    (obey i m).2.branches = m.branches := by
  cases i with
  | literal x =>
      rw [obey_literal]
      split <;> rfl
  | opcode name =>
      obtain ⟨f, hf⟩ | ⟨f, hname, -⟩ | ⟨d, o, -, -, hf⟩ := obey_opcode_cases name
      · rw [hf]
      · rw [Instruction.flow?, Flow.ofName?_eq_some_iff.2 hname] at hi
        cases hi
      · rw [hf, operate_branches]

/-- An instruction that is no opcode of conditionals sees of the branches only whether they are
executed. -/
theorem obey_withBranches {i : Instruction} (hi : i.flow? = none) {m : Machine} {bs : Branches}
    (h : bs.executing = m.branches.executing) :
    obey i (m.withBranches bs) = ((obey i m).1, (obey i m).2.withBranches bs) := by
  cases i with
  | literal x =>
      have he : (m.withBranches bs).executing = m.executing := h
      rw [obey_literal, obey_literal, he]
      split <;> rfl
  | opcode name =>
      obtain ⟨f, hf⟩ | ⟨f, hname, -⟩ | ⟨d, o, -, -, hf⟩ := obey_opcode_cases name
      · rw [hf, hf]
      · rw [Instruction.flow?, Flow.ofName?_eq_some_iff.2 hname] at hi
        cases hi
      · rw [hf, hf, operate_withBranches d o h]

/-! ### Steps and runs in terms of instructions -/

/-- The failure of an instruction, if it failed. -/
def failure? : Except Fault Unit → Option Failure
  | .error (.failure f) => some f
  | _ => none

/-- The step of an instruction shows what the instruction did. -/
theorem step_eq {v : Value} {i : Instruction} (hv : Instruction.ofValue v = .ok i) (m : Machine) :
    step v m = (.ok (record i m (obey i m).2 (failure? (obey i m).1)), (obey i m).2) := by
  simp only [step, hv, stepInstruction, i.printLabel_eq]
  obtain ⟨m', h⟩ | ⟨f, m', h⟩ := obey_cases i m
  · obtain ⟨lines, hlines⟩ := Journal.exists_remarks (record i m m' none)
    simp only [h, hlines]
    rfl
  · rw [h]
    rfl

theorem step_of_error {v : Value} {e : Fault} (hv : Instruction.ofValue v = .error e)
    (m : Machine) : step v m = (.error e, m) := by
  simp only [step, hv]

section

variable {v : Value} {i : Instruction} {m m' : Machine}

/-- A run goes on after an instruction that succeeds. -/
theorem run_cons_of_ok (hv : Instruction.ofValue v = .ok i) (h : obey i m = (.ok (), m'))
    (vs : List Value) : run (v :: vs) m = (run vs m').after (record i m m' none) := by
  have hs := step_eq hv m
  rw [h] at hs
  exact run_cons_of_success hs rfl vs

/-- A run ends with an instruction that fails. -/
theorem run_cons_of_error {f : Failure} (hv : Instruction.ofValue v = .ok i)
    (h : obey i m = (.error (.failure f), m')) (vs : List Value) :
    run (v :: vs) m = ⟨[record i m m' (some f)], m', .failed (some f.message)⟩ := by
  have hs := step_eq hv m
  rw [h] at hs
  exact run_cons_of_failure hs rfl vs

end

/-- **Induction over a run.**  The first value of a program is no instruction, or an instruction
that fails, or one that succeeds, and only in the last case is there a rest of the run. -/
@[elab_as_elim]
theorem run_induction {motive : List Value → Machine → Prop}
    (nil : ∀ m, motive [] m)
    (fault : ∀ v p m e, Instruction.ofValue v = .error e →
      run (v :: p) m = ⟨[], m, .faulted e⟩ → motive (v :: p) m)
    (failure : ∀ v p m i f m', Instruction.ofValue v = .ok i →
      obey i m = (.error (.failure f), m') →
      run (v :: p) m = ⟨[record i m m' (some f)], m', .failed (some f.message)⟩ →
      motive (v :: p) m)
    (success : ∀ v p m i m', Instruction.ofValue v = .ok i → obey i m = (.ok (), m') →
      run (v :: p) m = (run p m').after (record i m m' none) → motive p m' → motive (v :: p) m)
    (p : List Value) (m : Machine) : motive p m := by
  induction p generalizing m with
  | nil => exact nil m
  | cons v p ih =>
      cases hi : Instruction.ofValue v with
      | error e => exact fault v p m e hi (run_cons_of_fault (step_of_error hi m) p)
      | ok i =>
          obtain ⟨m', ho⟩ | ⟨f, m', ho⟩ := obey_cases i m
          · exact success v p m i m' hi ho (run_cons_of_ok hi ho p) (ih m')
          · exact failure v p m i f m' hi ho (run_cons_of_error hi ho p)

end Machine

end ScriptTutor
