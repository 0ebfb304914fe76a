/-
**What a failed step leaves behind.**

An opcode that fails leaves the alternative stack and the open branches alone, and puts nothing on
the main stack.  It may still have cost its operands, for it takes them before it looks at them.
Some reasons to fail are noticed earlier, and then nothing is lost: a name that is not enabled, a
conditional that does not fit, a script that gives itself up, a stack that is too low.  The others
are noticed only with the operands in hand: one of them is no number, or they are not what a
verification asks for.  Then exactly the operands are gone, however many of them are to blame.

Main definitions:

* `ScriptTutor.Stack.Loses` — a stack without some of its topmost items;
* `ScriptTutor.Machine.NoticedBefore`, `ScriptTutor.Machine.NoticedAfter` — the reason for which an
  opcode fails is noticed before it takes its operands, or with the operands in hand.

Main results:

* `ScriptTutor.Machine.obey_error_cases` — **an opcode that fails loses nothing or its operands**;
* `ScriptTutor.Machine.NoticedBefore.not_noticedAfter` — never is it both;
* `ScriptTutor.Engine.step_failure` — what the step of such an opcode leaves and shows.
-/

import ScriptTutor.Proofs.Obstacle

set_option relaxedAutoImplicit false
set_option autoImplicit false

namespace ScriptTutor

/-- The second stack is the first without so many of its topmost items. -/
def Stack.Loses (n : Nat) (s s' : Stack) : Prop :=
  ∃ taken : List Item, taken.length = n ∧ s = taken ++ s'

theorem Stack.loses_drop {n : Nat} {s : Stack} (h : n ≤ s.length) : Loses n s (s.drop n) :=
  ⟨s.take n, List.length_take_of_le h, (List.take_append_drop n s).symm⟩

namespace Machine

/-! ### When the reason is noticed -/

/-- The reason for which the opcode that a text names may fail is noticed before it takes an
item. -/
inductive NoticedBefore (t : Text) (m : Machine) : Prop
  /-- The catalog does not enable the name. -/
  | notEnabled (h : Catalog.isEnabled t = false)
  /-- The opcode belongs to a conditional. -/
  | conditional {f : Flow} (h : t.upper = f.name)
  /-- The opcode gives the script up. -/
  | abandoned (h : t.upper = "OP_RETURN")
  /-- The stack has fewer items than the entry asks for. -/
  | underflow {d : DispatchEntry} (hd : d ∈ Dispatch.table) (hname : d.name = t.upper)
      (hlt : m.main.length < d.minItems)
  /-- Nothing was put aside. -/
  | emptyAlt (h : t.upper = "OP_FROMALTSTACK") (ha : m.alt = [])

/-- The reason for which the opcode of an entry may fail is noticed with its operands in hand. -/
inductive NoticedAfter (d : DispatchEntry) (m : Machine) : Prop
  /-- One of the operands is no number, where all of them have to be. -/
  | notANumber {x : Item} {f : Failure} (hle : d.minItems ≤ m.main.length)
      (h : d.name ∈ Dispatch.numeric) (hx : x ∈ m.main.take d.minItems)
      (hf : x.toNumber = .error f)
  /-- What the opcode verifies of its operands does not hold. -/
  | refuted {r : TopOp} (hle : d.minItems ≤ m.main.length) (ho : d.opcode = r)
      (h : r.Refuted m.main)

/-- Only an opcode on the top of the stack has operands, and it has found them. -/
theorem NoticedAfter.exists_onTop {d : DispatchEntry} {m : Machine} (hd : d ∈ Dispatch.table)
    (h : NoticedAfter d m) : d.minItems ≤ m.main.length ∧ ∃ r : TopOp, d.opcode = r := by
  cases h with
  | refuted hle ho h => exact ⟨hle, _, ho⟩
  | notANumber hle hnumeric hx hf =>
      have hreads := (Dispatch.telling_of_mem d hd).readsNumbers_iff.2 hnumeric
      rcases ho : d.opcode with f | r | _ | _ | _ | _
      · rw [ho] at hreads
        cases hreads
      · exact ⟨hle, r, rfl⟩
      all_goals
        rw [ho] at hreads
        cases hreads

/-- A reason that is noticed before the operands are taken leaves none to be noticed afterwards. -/
theorem NoticedBefore.not_noticedAfter {t : Text} {d : DispatchEntry} {m : Machine}
    (hd : d ∈ Dispatch.table) (hname : d.name = t.upper) (h : NoticedBefore t m) :
    ¬ NoticedAfter d m := by
  intro hafter
  obtain ⟨hle, r, ho⟩ := hafter.exists_onTop hd
  have htelling := Dispatch.telling_of_mem d hd
  have hresolve := Dispatch.resolve_eq_ok_iff.2 ⟨hd, hname⟩
  cases h with
  | notEnabled h =>
      rw [Dispatch.exists_resolve_upper_iff.1 ⟨d, hresolve⟩] at h
      cases h
  | @conditional f h =>
      obtain ⟨d', hd', -, ho'⟩ := Dispatch.resolve_flow f
      rw [h] at hresolve
      cases hresolve.symm.trans hd'
      cases ho.symm.trans ho'
  | abandoned h => cases ho.symm.trans (htelling.abandon_iff.2 (hname.trans h))
  | underflow hd' hname' hlt =>
      obtain rfl := Dispatch.eq_of_name_eq hd hd' (hname.trans hname'.symm)
      omega
  | emptyAlt h ha => cases ho.symm.trans (htelling.fromAlt_iff.2 (hname.trans h))

/-! ### What is left -/

/-- An operation that goes wrong loses nothing or its operands, according to when it is noticed. -/
theorem operate_error_cases {t : Text} {d : DispatchEntry} {o : Operation} {m m' : Machine}
    {e : Fault} (hd : d ∈ Dispatch.table) (hname : d.name = t.upper)
    (ho : d.opcode = .operation o) (h : operate d o m = (.error e, m')) :
    NoticedBefore t m ∧ m' = m ∨
      NoticedAfter d m ∧ m' = { m with main := m.main.drop d.minItems } := by
  have htelling := Dispatch.telling_of_mem d hd
  obtain hskip | ⟨hruns, hlt⟩ | ⟨hruns, hle⟩ := operate_cases d o m
  · rw [operate_of_skipped hskip] at h
    cases h
  · rw [operate_of_lt hruns hlt] at h
    cases h
    exact .inl ⟨.underflow hd hname hlt, rfl⟩
  · rw [operate_of_le hruns hle] at h
    cases hrun : o.run m.toStacks with
    | mk result s' =>
        rw [hrun] at h
        cases h
        have hne : (o.run m.toStacks).1 ≠ .ok () := by
          rw [hrun]
          intro hok
          cases hok
        have hneeds := (Dispatch.consistent_of_mem d hd).minItems_eq
        obtain ⟨-, rfl⟩ := run_error hd ho hle hrun
        obtain rfl | ⟨rfl, ha⟩ | ⟨r, rfl, hreason⟩ := (Operation.run_ne_ok_iff hd ho hle).1 hne
        · -- an operation without operands has none to lose
          rw [ho] at hneeds
          rw [hneeds]
          exact .inl ⟨.abandoned (hname ▸ htelling.abandon_iff.1 ho), rfl⟩
        · rw [ho] at hneeds
          rw [hneeds]
          exact .inl ⟨.emptyAlt (hname ▸ htelling.fromAlt_iff.1 ho) ha, rfl⟩
        · refine .inr ⟨?_, rfl⟩
          obtain ⟨hreads, x, hx, f, hf⟩ | hrefuted := hreason
          · exact .notANumber hle (htelling.readsNumbers_iff.1 (ho ▸ hreads)) hx hf
          · exact .refuted hle ho hrefuted

/-- **An opcode that fails loses nothing or its operands**, according to when it is noticed, and
changes nothing else. -/
theorem obey_error_cases {t : Text} {m m' : Machine} {e : Fault}
    (h : obey (.opcode t.upper) m = (.error e, m')) :
    NoticedBefore t m ∧ m' = m ∨
      ∃ d ∈ Dispatch.table, d.name = t.upper ∧ NoticedAfter d m ∧
        m' = { m with main := m.main.drop d.minItems } := by
  cases hresolve : Dispatch.resolve t.upper with
  | error f =>
      rw [obey, perform_eq, hresolve] at h
      cases h
      refine .inl ⟨.notEnabled (Bool.eq_false_iff.2 fun henabled => ?_), rfl⟩
      obtain ⟨d, hd⟩ := Dispatch.exists_resolve_upper_iff.2 henabled
      cases hresolve.symm.trans hd
  | ok d =>
      cases hf : Flow.ofName? t.upper with
      | some f =>
          have hname := Flow.ofName?_eq_some_iff.1 hf
          rw [← hname, obey_flow] at h
          exact .inl ⟨.conditional hname.symm, (flow_error h).2⟩
      | none =>
          obtain ⟨o, ho⟩ := Dispatch.opcode_of_resolve hresolve hf
          obtain ⟨hd, hname⟩ := Dispatch.resolve_eq_ok_iff.1 hresolve
          rw [obey_operation hresolve ho] at h
          obtain hbefore | hafter := operate_error_cases hd hname ho h
          · exact .inl hbefore
          · exact .inr ⟨d, hd, hname, hafter⟩

end Machine

namespace Engine

/-- A step that fails is that of an opcode, and shows the stack that it finds and the stack that it
leaves. -/
theorem exists_of_step_failure {v : Value} {e e' : Engine} {s : Step}
    (h : e.step v = (.ok s, e')) (hs : s.success = false) :
    ∃ t f m', v = .item (.text t) ∧ t.isOpcodeName = true ∧
      Machine.obey (.opcode t.upper) e.toMachine = (.error (.failure f), m') ∧
      e' = { e with toMachine := m' } ∧
      s = Machine.record (.opcode t.upper) e.toMachine m' (some f) := by
  cases hv : Instruction.ofValue v with
  | error fault =>
      rw [step_of_error e hv] at h
      cases h
  | ok i =>
      rw [step_of_ok e hv] at h
      obtain ⟨m', ho⟩ | ⟨f, m', ho⟩ := Machine.obey_cases i e.toMachine
      · rw [ho] at h
        cases h
        cases hs
      · rw [ho] at h
        cases h
        cases i with
        | literal x => cases ho
        | opcode name =>
            obtain ⟨t, rfl, ht, rfl⟩ := Instruction.ofValue_eq_opcode_iff.1 hv
            exact ⟨t, f, m', rfl, ht, ho, rfl, rfl⟩

/-- **What a failed step leaves behind**: the alternative stack, the open branches and the steps
that were noted, as they were, and the main stack, whole or without the operands.  Nothing is lost
if the reason is noticed before the operands are taken, and exactly the items that the entry asks
for are lost if it is noticed with the operands in hand; there is no third case. -/
theorem step_failure {v : Value} {e e' : Engine} {s : Step} (h : e.step v = (.ok s, e'))
    (hs : s.success = false) :
    ∃ t, v = .item (.text t) ∧ t.isOpcodeName = true ∧
      e'.alt = e.alt ∧ e'.branches = e.branches ∧ e'.steps = e.steps ∧
      s.before = e.main.snapshot ∧ s.after = e'.main.snapshot ∧
      (Machine.NoticedBefore t e.toMachine → e'.main = e.main) ∧
      (∀ d ∈ Dispatch.table, d.name = t.upper → Machine.NoticedAfter d e.toMachine →
        e.main.Loses d.minItems e'.main) ∧
      (Machine.NoticedBefore t e.toMachine ∨
        ∃ d ∈ Dispatch.table, d.name = t.upper ∧ Machine.NoticedAfter d e.toMachine) := by
  obtain ⟨t, f, m', rfl, ht, ho, rfl, rfl⟩ := exists_of_step_failure h hs
  refine ⟨t, rfl, ht, ?_⟩
  obtain ⟨hbefore, rfl⟩ | ⟨d, hd, hname, hafter, rfl⟩ := Machine.obey_error_cases ho
  · refine ⟨rfl, rfl, rfl, rfl, rfl, fun _ => rfl, ?_, .inl hbefore⟩
    intro d hd hname hafter
    exact absurd hafter (hbefore.not_noticedAfter hd hname)
  · refine ⟨rfl, rfl, rfl, rfl, rfl, ?_, ?_, .inr ⟨d, hd, hname, hafter⟩⟩
    · intro hbefore
      exact absurd hafter (hbefore.not_noticedAfter hd hname)
    · intro d' hd' hname' _
      obtain rfl := Dispatch.eq_of_name_eq hd hd' (hname.trans hname'.symm)
      exact Stack.loses_drop (hafter.exists_onTop hd).1

/-- A range whose upper end is no number costs all three operands, in the second arm of a
conditional as elsewhere, and nothing else. -/
theorem step_failure_within :
    let e : Engine := ⟨⟨⟨[.text "0xZ", .number 2, .flag true, .bytes [7]], [.text "aside"]⟩,
      [⟨true, true, true⟩]⟩, []⟩
    ∃ s e', e.step (.item (.text "op_Within")) = (.ok s, e') ∧ s.success = false ∧
      e'.main = [.bytes [7]] ∧ e'.alt = [.text "aside"] ∧ e'.branches = [⟨true, true, true⟩] := by
  intro e
  obtain ⟨s, e', h, hs⟩ : ∃ s e', e.step (.item (.text "op_Within")) = (.ok s, e') ∧
      s.success = false := ⟨_, _, rfl, by decide +kernel⟩
  obtain ⟨t, ht, -, halt, hbranches, -, -, -, -, hlost, -⟩ := step_failure h hs
  cases ht
  have hafter : Machine.NoticedAfter ⟨"OP_WITHIN", TopOp.within, 3⟩ e.toMachine := by
    refine .notANumber (x := .text "0xZ") ?_ ?_ List.mem_cons_self rfl
    · decide
    · decide +kernel
  have hmem : ⟨"OP_WITHIN", TopOp.within, 3⟩ ∈ Dispatch.table := by
    simp [Dispatch.table, Dispatch.computations]
  obtain ⟨taken, hlen, hmain⟩ := hlost _ hmem (by decide +kernel) hafter
  have hsplit : [.text "0xZ", .number 2, .flag true] ++ [.bytes [7]] = taken ++ e'.main := hmain
  exact ⟨s, e', h, hs, (List.append_inj hsplit hlen.symm).2.symm, halt, hbranches⟩

end Engine

end ScriptTutor
