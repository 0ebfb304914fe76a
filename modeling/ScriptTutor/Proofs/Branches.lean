/-
**Frames that remember what is around them.**

A frame notes, when it is opened, whether instructions are executed at that moment, and never looks
again.  The note stays right all the same, because only the innermost frame can go over to its other
arm: while a frame is open, nothing happens to the frames below it.  So the innermost frame alone
says whether instructions are executed, and what it says is that every open conditional has chosen
the arm it is in.

Main definitions:

* `ScriptTutor.Branches.Call`, `ScriptTutor.Branches.Call.act` — what a caller can do with the open
  conditionals, assignment by assignment;
* `ScriptTutor.Branches.after` — the open conditionals after a history of calls;
* `ScriptTutor.Branches.IsFaithful` — every frame notes whether the one below it is active.

Main results:

* `ScriptTutor.Branches.Call.perform_eq` — a call does what `enter`, `switch` and `leave` say, and
  one that fails leaves the frames alone;
* `ScriptTutor.Branches.IsFaithful.perform` — **every call keeps the notes right**;
* `ScriptTutor.Branches.IsFaithful.executing_iff` — where they are right, instructions are executed
  exactly if every condition holds;
* `ScriptTutor.Branches.IsFaithful.executing_of_suffix` — and only if they are executed around all
  the frames on top;
* `ScriptTutor.Branches.after_isFaithful` — **what holds after every history**;
* `ScriptTutor.Machine.isFaithful_run` — the frames of a script that runs are faithful.
-/

import Mathlib.Data.List.Chain
import Mathlib.Data.List.Infix
import ScriptTutor.Proofs.Machine.Step

set_option relaxedAutoImplicit false
set_option autoImplicit false

namespace ScriptTutor

namespace Branches

/-! ### Calls -/

/-- What a caller can do with the open conditionals. -/
inductive Call where
  | enter (condition : Bool)
  | switch
  | leave
  | clear

namespace Call

/-- What a call reads and assigns, in this order.  What was assigned before a failure would stay. -/
def act : Call → ExceptT Failure (StateM Branches) Unit
  | enter condition => do
    let bs ← get
    set (⟨condition, bs.executing, false⟩ :: bs : Branches)
  | switch => do
    match (← get : Branches) with
    | [] => throw .elseWithoutIf
    | f :: bs =>
      if f.elseSeen then throw .secondElse
      set ({ f with condition := !f.condition } :: bs : Branches)
      modify (List.modifyHead fun f => { f with elseSeen := true })
  | leave => do
    match (← get : Branches) with
    | [] => throw .endifWithoutIf
    | _ :: bs => set (bs : Branches)
  | clear => set ([] : Branches)

/-- A call on the open conditionals: whether it failed, and what it leaves. -/
def perform (c : Call) (bs : Branches) : Except Failure Unit × Branches := c.act.run bs

/-- New frames in place of the old ones, unless there is a failure. -/
def settle (bs : Branches) : Except Failure Branches → Except Failure Unit × Branches
  | .ok bs' => (.ok (), bs')
  | .error e => (.error e, bs)

/-- A call does what its name says, and one that fails leaves the frames alone. -/
theorem perform_eq (c : Call) (bs : Branches) :
    c.perform bs =
      match c with
      | enter condition => (.ok (), bs.enter condition)
      | switch => settle bs bs.switch
      | leave => settle bs bs.leave
      | clear => (.ok (), []) := by
  cases c with
  | enter condition => rfl
  | switch =>
      cases bs with
      | nil => rfl
      | cons f bs =>
          obtain ⟨condition, enclosingActive, elseSeen⟩ := f
          cases elseSeen <;> rfl
  | leave => cases bs <;> rfl
  | clear => rfl

end Call

theorem perform_of_error {c : Call} {bs : Branches} {e : Failure}
    (h : (c.perform bs).1 = .error e) : (c.perform bs).2 = bs := by
  have hsettle : ∀ {r : Except Failure Branches}, (Call.settle bs r).1 = .error e →
      (Call.settle bs r).2 = bs := by
    intro r hr
    cases r with
    | ok bs' => cases hr
    | error f => rfl
  rw [Call.perform_eq] at h ⊢
  cases c with
  | enter condition => cases h
  | switch => exact hsettle h
  | leave => exact hsettle h
  | clear => cases h

/-- The things that a call can leave: the same frames, one more frame, the innermost frame in its
other arm, the frames below it, or none at all. -/
theorem perform_cases (c : Call) (bs : Branches) :
    (c.perform bs).2 = bs ∨
    (∃ condition, (c.perform bs).2 = bs.enter condition) ∨
    (∃ f below, bs = f :: below ∧
      (c.perform bs).2 = { f with condition := !f.condition, elseSeen := true } :: below) ∨
    (∃ f below, bs = f :: below ∧ (c.perform bs).2 = below) ∨
    (c.perform bs).2 = [] := by
  rw [Call.perform_eq]
  cases c with
  | enter condition => exact .inr (.inl ⟨condition, rfl⟩)
  | switch =>
      cases bs with
      | nil => exact .inl rfl
      | cons f below =>
          dsimp only [switch]
          split
          · exact .inl rfl
          · exact .inr (.inr (.inl ⟨f, below, rfl, rfl⟩))
  | leave =>
      cases bs with
      | nil => exact .inl rfl
      | cons f below => exact .inr (.inr (.inr (.inl ⟨f, below, rfl, rfl⟩)))
  | clear => exact .inr (.inr (.inr (.inr rfl)))

/-- The open conditionals after a history of calls, whatever their outcome. -/
def after (calls : List Call) (bs : Branches) : Branches :=
  calls.foldl (fun bs c => (c.perform bs).2) bs

@[simp] theorem after_nil (bs : Branches) : bs.after [] = bs := rfl

@[simp] theorem after_cons (c : Call) (calls : List Call) (bs : Branches) :
    bs.after (c :: calls) = (c.perform bs).2.after calls := rfl

/-! ### Notes that are right -/

/-- Every frame notes what is true of the frames below it now. -/
structure IsFaithful (bs : Branches) : Prop where
  /-- The outermost conditional stands where instructions are executed. -/
  outermost : ∀ f ∈ bs.getLast?, f.enclosingActive = true
  /-- Every other one stands in the arm of the conditional around it. -/
  inner : bs.IsChain fun f below => f.enclosingActive = below.active

theorem isFaithful_nil : IsFaithful [] := ⟨by simp, .nil⟩

theorem isFaithful_cons_iff {f : Frame} {bs : Branches} :
    IsFaithful (f :: bs) ↔ f.enclosingActive = bs.executing ∧ bs.IsFaithful := by
  cases bs with
  | nil =>
      constructor
      · intro h
        exact ⟨h.outermost f rfl, isFaithful_nil⟩
      · rintro ⟨h, -⟩
        exact ⟨by simpa using h, .singleton f⟩
  | cons g bs =>
      constructor
      · rintro ⟨hlast, hchain⟩
        rw [List.isChain_cons_cons] at hchain
        exact ⟨hchain.1, hlast, hchain.2⟩
      · rintro ⟨h, hlast, hchain⟩
        exact ⟨hlast, List.isChain_cons_cons.2 ⟨h, hchain⟩⟩

namespace IsFaithful

variable {bs cs : Branches}

/-- **Every call keeps the notes right.**  A frame that goes over to its other arm is the innermost
one, so no note is about it. -/
theorem perform (h : bs.IsFaithful) (c : Call) : (c.perform bs).2.IsFaithful := by
  obtain hsame | ⟨condition, henter⟩ | ⟨f, below, rfl, hswitch⟩ | ⟨f, below, rfl, hleave⟩ |
    hclear := perform_cases c bs
  · rwa [hsame]
  · rw [henter]
    exact isFaithful_cons_iff.2 ⟨rfl, h⟩
  · obtain ⟨hnote, hbelow⟩ := isFaithful_cons_iff.1 h
    rw [hswitch]
    exact isFaithful_cons_iff.2 ⟨hnote, hbelow⟩
  · rw [hleave]
    exact (isFaithful_cons_iff.1 h).2
  · rw [hclear]
    exact isFaithful_nil

theorem after (h : bs.IsFaithful) (calls : List Call) : (bs.after calls).IsFaithful := by
  induction calls generalizing bs with
  | nil => exact h
  | cons c calls ih => exact ih (h.perform c)

/-- Instructions are executed exactly if every open conditional is in the arm that was chosen. -/
theorem executing_iff (h : bs.IsFaithful) :
    bs.executing = true ↔ ∀ f ∈ bs, f.condition = true := by
  induction bs with
  | nil => simp
  | cons f bs ih =>
      obtain ⟨hnote, hbelow⟩ := isFaithful_cons_iff.1 h
      rw [executing_cons, Frame.active, Bool.and_eq_true, hnote, ih hbelow, List.forall_mem_cons,
        and_comm]

/-- Frames on top do not bring back what is not executed around them. -/
theorem executing_of_suffix (hbs : bs.IsFaithful) (hcs : cs.IsFaithful) (h : bs <:+ cs)
    (hexec : cs.executing = true) : bs.executing = true :=
  hbs.executing_iff.2 fun f hf => hcs.executing_iff.1 hexec f (h.mem hf)

end IsFaithful

/-! ### Frames below -/

/-- A call changes at most the innermost frame, unless it closes all of them: if there is a frame on
top before the call and after it, the frames below are the same. -/
theorem suffix_perform {bs cs : Branches} (h : bs <:+ cs) (hlt : bs.length < cs.length) (c : Call)
    (hleft : bs.length < (c.perform cs).2.length) : bs <:+ (c.perform cs).2 := by
  have hbelow : ∀ {f : Frame} {below : Branches}, cs = f :: below → bs <:+ below := by
    rintro f below rfl
    obtain rfl | hbelow := List.suffix_cons_iff.1 h
    · exact absurd hlt (Nat.lt_irrefl _)
    · exact hbelow
  obtain hsame | ⟨condition, henter⟩ | ⟨f, below, hcs, hswitch⟩ | ⟨f, below, hcs, hleave⟩ |
    hclear := perform_cases c cs
  · rwa [hsame]
  · rw [henter]
    exact h.trans (List.suffix_cons ..)
  · rw [hswitch]
    exact (hbelow hcs).trans (List.suffix_cons ..)
  · rw [hleave]
    exact hbelow hcs
  · rw [hclear] at hleft
    cases hleft

/-- As long as a frame is open, the frames below it stay as they are. -/
theorem suffix_after {bs cs : Branches} (h : bs <:+ cs) {calls : List Call}
    (hopen : ∀ p, p <+: calls → bs.length < (cs.after p).length) : bs <:+ cs.after calls := by
  induction calls generalizing cs with
  | nil => exact h
  | cons c calls ih =>
      have hfirst : bs.length < cs.length := hopen [] (List.nil_prefix ..)
      have hnext : ∀ p, p <+: calls → bs.length < ((c.perform cs).2.after p).length := by
        intro p hp
        exact hopen (c :: p) (List.cons_prefix_cons.2 ⟨rfl, hp⟩)
      exact ih (suffix_perform h hfirst c (hnext [] (List.nil_prefix ..))) hnext

/-! ### Histories -/

/-- **What holds after every history of calls**, those that fail among them.  Every frame notes
whether the frame below it is active now, and the outermost one, that instructions are executed
around it; so instructions are executed exactly if every open conditional is in the arm that was
chosen.  A call that fails leaves all frames alone.  Where instructions are not executed, a frame
that is opened does not bring them back, whatever is done with it and with frames on top of it, as
long as the frames below it are the same; and they are the same as long as it is open. -/
theorem after_isFaithful :
    (∀ calls : List Call,
      (after calls []).IsFaithful ∧
        ((after calls []).executing = true ↔ ∀ f ∈ after calls [], f.condition = true)) ∧
      (∀ (c : Call) (bs : Branches) (e : Failure), (c.perform bs).1 = .error e →
        (c.perform bs).2 = bs) ∧
      ∀ (calls later : List Call) (condition : Bool), (after calls []).executing = false →
        (after calls [] <:+ ((after calls []).enter condition).after later →
          (((after calls []).enter condition).after later).executing = false) ∧
        ((∀ p, p <+: later →
            (after calls []).length < (((after calls []).enter condition).after p).length) →
          after calls [] <:+ ((after calls []).enter condition).after later) := by
  have hfaithful : ∀ calls : List Call, (after calls []).IsFaithful := isFaithful_nil.after
  refine ⟨fun calls => ⟨hfaithful calls, (hfaithful calls).executing_iff⟩,
    fun _ _ _ h => perform_of_error h, ?_⟩
  intro calls later condition hskipped
  constructor
  · intro hbelow
    have hlater : (((after calls []).enter condition).after later).IsFaithful :=
      ((hfaithful calls).perform (.enter condition)).after later
    by_contra hexec
    have hbefore :=
      (hfaithful calls).executing_of_suffix hlater hbelow (Bool.not_eq_false _ ▸ hexec)
    exact absurd (hskipped.symm.trans hbefore) (by decide)
  · intro hopen
    exact suffix_after (List.suffix_cons ..) hopen

/-- In a skipped arm a conditional is opened on a true condition.  It goes over to its other arm,
has another one opened and closed on top of it, and is asked for a third arm, which fails; it is
still open then, and nothing is executed. -/
theorem after_isFaithful_skipped :
    let bs : Branches := after [.enter false] []
    let later : List Call := [.switch, .enter true, .leave, .switch]
    bs.executing = false ∧ bs <:+ (bs.enter true).after later ∧
      ((bs.enter true).after later).executing = false ∧
      (Call.switch.perform ((bs.enter true).after later)).2 = (bs.enter true).after later := by
  intro bs later
  obtain ⟨-, hfailed, hskipped⟩ := after_isFaithful
  obtain ⟨hexec, hbelow⟩ := hskipped [.enter false] later true rfl
  have hopen : ∀ p ∈ later.inits, bs.length < ((bs.enter true).after p).length := by decide
  have hsuffix := hbelow fun p hp => hopen p ((List.mem_inits p later).2 hp)
  exact ⟨rfl, hsuffix, hexec hsuffix, hfailed .switch _ .secondElse rfl⟩

end Branches

namespace Machine

/-! ### The frames of a script that runs -/

/-- An instruction calls on the open conditionals once or not at all. -/
theorem exists_calls_obey (i : Instruction) (m : Machine) :
    ∃ calls, (obey i m).2.branches = m.branches.after calls := by
  cases i with
  | literal x => exact ⟨[], obey_branches rfl m⟩
  | opcode name =>
      obtain ⟨f, hf⟩ | ⟨f, -, hf⟩ | ⟨d, o, -, -, hf⟩ := obey_opcode_cases name
      · exact ⟨[], by rw [hf]; rfl⟩
      · have hopen : ∀ expected, ∃ calls,
            (openBranch expected name m).2.branches = m.branches.after calls := by
          intro expected
          rw [openBranch]
          split
          · split
            · exact ⟨[.enter _], rfl⟩
            · exact ⟨[], rfl⟩
          · exact ⟨[.enter false], rfl⟩
        have hset : ∀ (c : Branches.Call) {r : Except Failure Branches},
            c.perform m.branches = Branches.Call.settle m.branches r →
            ∃ calls, (setBranches r m).2.branches = m.branches.after calls := by
          intro c r hc
          refine ⟨[c], ?_⟩
          rw [Branches.after_cons, hc]
          cases r <;> rfl
        rw [hf]
        cases f with
        | onTrue => exact hopen true
        | onFalse => exact hopen false
        | otherwise => exact hset .switch (Branches.Call.perform_eq ..)
        | close => exact hset .leave (Branches.Call.perform_eq ..)
      · exact ⟨[], by rw [hf, operate_branches]; rfl⟩

/-- **The frames of a script that runs are faithful**, wherever it ends. -/
theorem isFaithful_run {m : Machine} (h : m.branches.IsFaithful) (p : List Value) :
    (run p m).machine.branches.IsFaithful := by
  induction p, m using run_induction with
  | nil m => exact h
  | fault v p m e hi hrun => rwa [hrun]
  | failure v p m i f m' hi ho hrun =>
      obtain ⟨calls, hcalls⟩ := exists_calls_obey i m
      rw [ho] at hcalls
      rw [hrun, hcalls]
      exact h.after calls
  | success v p m i m' hi ho hrun ih =>
      obtain ⟨calls, hcalls⟩ := exists_calls_obey i m
      rw [ho] at hcalls
      rw [hrun]
      exact ih (hcalls ▸ h.after calls)

end Machine

end ScriptTutor
