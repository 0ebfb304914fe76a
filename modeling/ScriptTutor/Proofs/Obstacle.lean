/-
**What stands in the way of an opcode.**

Whether an opcode fails can be told from the machine before it is tried.  Some obstacles are there
in every place, executed or skipped: a name that the catalog does not enable, the opcode that gives
the script up, a second arm or an end without its beginning.  All others are there only where
instructions are executed: too few items, nothing that was put aside, an operand that is no number,
a verification that does not hold.  There is no further obstacle, and for most opcodes none but too
few items.

Main definitions:

* `ScriptTutor.Rule.Ensures` — what a rule makes of its operands has a property;
* `ScriptTutor.TopOp.readsNumbers`, `ScriptTutor.TopOp.Refuted` — an opcode asks for numbers, and
  what it verifies does not hold;
* `ScriptTutor.Dispatch.numeric`, `ScriptTutor.Dispatch.unfailing` — the names of the opcodes that
  ask for numbers, and of opcodes that fail for want of items only;
* `ScriptTutor.Machine.Obstacle` — **what stands in the way of an opcode**.

Main results:

* `ScriptTutor.TopOp.error_iff_of_result?` — an opcode on the top of the stack that finds its
  operands fails exactly if it asks for a number that is none, or for something that does not hold;
* `ScriptTutor.Machine.obey_ne_ok_iff` — **an opcode fails exactly if there is an obstacle**;
* `ScriptTutor.Engine.step_fails_iff` — and so does the step that it leaves.
-/

import ScriptTutor.Proofs.Course
import ScriptTutor.Proofs.Nesting.Skeleton

set_option relaxedAutoImplicit false
set_option autoImplicit false

namespace ScriptTutor

/-! ### What a rule ensures -/

namespace Rule

/-- For all operands, what the rule makes of them has a property that may speak of the operands. -/
def Ensures (P : List Item → Replacement → Prop) : Rule → Prop
  | zero x => P [] x
  | one f => ∀ a, P [a] (f a)
  | two f => ∀ a b, P [a, b] (f a b)
  | three f => ∀ a b c, P [a, b, c] (f a b c)
  | four f => ∀ a b c d, P [a, b, c, d] (f a b c d)

theorem Ensures.mono {P Q : List Item → Replacement → Prop} {r : Rule} (hr : r.Ensures P)
    (h : ∀ operands x, P operands x → Q operands x) : r.Ensures Q := by
  cases r with
  | zero x => exact h _ _ hr
  | one f => exact fun a => h _ _ (hr a)
  | two f => exact fun a b => h _ _ (hr a b)
  | three f => exact fun a b c => h _ _ (hr a b c)
  | four f => exact fun a b c d => h _ _ (hr a b c d)

theorem Ensures.of_result? {P : List Item → Replacement → Prop} {r : Rule} (hr : r.Ensures P)
    {s rest : Stack} {x : Replacement} (h : r.result? s = some (x, rest)) :
    P (s.take r.arity) x := by
  cases r with
  | zero y =>
      cases h
      exact hr
  | one f =>
      rcases s with _ | ⟨a, s⟩ <;> cases h
      exact hr a
  | two f =>
      rcases s with _ | ⟨a, _ | ⟨b, s⟩⟩ <;> cases h
      exact hr a b
  | three f =>
      rcases s with _ | ⟨a, _ | ⟨b, _ | ⟨c, s⟩⟩⟩ <;> cases h
      exact hr a b c
  | four f =>
      rcases s with _ | ⟨a, _ | ⟨b, _ | ⟨c, _ | ⟨d, s⟩⟩⟩⟩ <;> cases h
      exact hr a b c d

end Rule

/-! ### Opcodes on the top of the stack -/

namespace TopOp

/-- Whether an opcode asks for the numbers that its operands stand for. -/
def readsNumbers : TopOp → Bool
  | unary _ => true
  | binary _ => true
  | numEqualVerify => true
  | within => true
  | _ => false

/-- What an opcode verifies of its operands does not hold. -/
def Refuted : TopOp → Stack → Prop
  | verify, x :: _ => x.isTrue = false
  | equalVerify, x :: y :: _ => x.equal y = false
  | numEqualVerify, x :: y :: _ => ∃ m n, x.toNumber = .ok m ∧ y.toNumber = .ok n ∧ m ≠ n
  | _, _ => False

theorem verified_error_iff {b : Bool} {operation : Text} :
    (∃ f, verified b operation = .error f) ↔ b = false := by
  cases b <;> simp [verified]

theorem onNumber_error_iff {f : Int → Int} {a : Item} :
    (∃ e, onNumber f a = .error e) ↔ ∃ e, a.toNumber = .error e := by
  cases h : a.toNumber <;> simp [onNumber, h]

theorem numbers_error_iff {a b : Item} :
    (∃ e, numbers a b = .error e) ↔ (∃ e, a.toNumber = .error e) ∨ ∃ e, b.toNumber = .error e := by
  cases ha : a.toNumber <;> cases hb : b.toNumber <;> simp [numbers, ha, hb]

theorem onNumbers_error_iff {f : Int → Int → Int} {a b : Item} :
    (∃ e, onNumbers f a b = .error e) ↔
      (∃ e, a.toNumber = .error e) ∨ ∃ e, b.toNumber = .error e := by
  rw [← numbers_error_iff]
  cases h : numbers a b <;> simp [onNumbers, h]

/-- An opcode that finds its operands fails exactly if it asks for a number that is none, or for
something that does not hold. -/
theorem error_iff_of_result? {r : TopOp} {s rest : Stack} {x : Replacement}
    (h : r.rule.result? s = some (x, rest)) :
    (∃ f, x = .error f) ↔
      r.readsNumbers = true ∧ (∃ a ∈ s.take r.rule.arity, ∃ f, a.toNumber = .error f) ∨
        r.Refuted s := by
  cases r with
  | unary f =>
      rcases s with _ | ⟨a, s⟩ <;> cases h
      simpa [readsNumbers, Refuted, rule, Rule.arity] using onNumber_error_iff (f := f.eval)
  | binary f =>
      rcases s with _ | ⟨a, _ | ⟨b, s⟩⟩ <;> cases h
      simpa [readsNumbers, Refuted, rule, Rule.arity] using onNumbers_error_iff
  | numEqualVerify =>
      rcases s with _ | ⟨a, _ | ⟨b, s⟩⟩ <;> cases h
      cases ha : a.toNumber <;> cases hb : b.toNumber <;>
        simp [numbers, ha, hb, readsNumbers, Refuted, rule, Rule.arity]
      -- both operands are numbers, so that only the comparison is left
      rw [verified_error_iff, beq_eq_false_iff_ne]
      exact ne_comm
  | within =>
      rcases s with _ | ⟨a, _ | ⟨b, _ | ⟨c, s⟩⟩⟩ <;> cases h
      cases ha : a.toNumber <;> cases hb : b.toNumber <;> cases hc : c.toNumber <;>
        simp [readsNumbers, Refuted, rule, Rule.arity, numbers, ha, hb, hc]
  | verify =>
      rcases s with _ | ⟨a, s⟩ <;> cases h
      simpa [readsNumbers, Refuted] using verified_error_iff
  | equalVerify =>
      rcases s with _ | ⟨a, _ | ⟨b, s⟩⟩ <;> cases h
      simpa [readsNumbers, Refuted] using verified_error_iff
  | _ =>
      -- all other rules have a result for all operands
      obtain ⟨items, rfl⟩ := Rule.Ensures.of_result? (P := fun _ x => ∃ items, x = .ok items)
        (by simp [rule, Rule.Ensures]) h
      simp [readsNumbers, Refuted]

end TopOp

/-! ### Names -/

/-- Whether an opcode asks for the numbers that its operands stand for. -/
def Opcode.readsNumbers : Opcode → Bool
  | operation (.onTop r) => r.readsNumbers
  | _ => false

namespace Dispatch

/-- The names of the opcodes that ask for the numbers that their operands stand for. -/
def numeric : List Text :=
  ["OP_1ADD", "OP_1SUB", "OP_NEGATE", "OP_ABS", "OP_NOT", "OP_0NOTEQUAL", "OP_ADD", "OP_SUB",
    "OP_BOOLAND", "OP_BOOLOR", "OP_NUMEQUAL", "OP_NUMEQUALVERIFY", "OP_NUMNOTEQUAL", "OP_LESSTHAN",
    "OP_GREATERTHAN", "OP_LESSTHANOREQUAL", "OP_GREATERTHANOREQUAL", "OP_MIN", "OP_MAX",
    "OP_WITHIN"]

/-- The names of opcodes that fail for want of items only: they move, measure, compare or digest
items, or take them for a signature. -/
def unfailing : List Text :=
  ["OP_TOALTSTACK", "OP_2DROP", "OP_2DUP", "OP_3DUP", "OP_2OVER", "OP_2SWAP", "OP_IFDUP",
    "OP_DEPTH", "OP_DROP", "OP_DUP", "OP_NIP", "OP_OVER", "OP_ROT", "OP_SWAP", "OP_TUCK", "OP_SIZE",
    "OP_EQUAL", "OP_RIPEMD160", "OP_SHA1", "OP_SHA256", "OP_HASH160", "OP_HASH256", "OP_CHECKSIG",
    "OP_CHECKSIGVERIFY"]

/-- What the name of an entry says of the ways in which its opcode can fail. -/
structure Telling (d : DispatchEntry) : Prop where
  readsNumbers_iff : d.opcode.readsNumbers = true ↔ d.name ∈ numeric
  fromAlt_iff : d.opcode = .operation .fromAlt ↔ d.name = "OP_FROMALTSTACK"
  abandon_iff : d.opcode = .operation .abandon ↔ d.name = "OP_RETURN"
  verify_iff : d.opcode = TopOp.verify ↔ d.name = "OP_VERIFY"
  equalVerify_iff : d.opcode = TopOp.equalVerify ↔ d.name = "OP_EQUALVERIFY"
  numEqualVerify_iff : d.opcode = TopOp.numEqualVerify ↔ d.name = "OP_NUMEQUALVERIFY"

instance (d : DispatchEntry) : Decidable (Telling d) :=
  decidable_of_iff
    ((d.opcode.readsNumbers = true ↔ d.name ∈ numeric) ∧
      (d.opcode = .operation .fromAlt ↔ d.name = "OP_FROMALTSTACK") ∧
      (d.opcode = .operation .abandon ↔ d.name = "OP_RETURN") ∧
      (d.opcode = TopOp.verify ↔ d.name = "OP_VERIFY") ∧
      (d.opcode = TopOp.equalVerify ↔ d.name = "OP_EQUALVERIFY") ∧
      (d.opcode = TopOp.numEqualVerify ↔ d.name = "OP_NUMEQUALVERIFY"))
    ⟨fun ⟨h₁, h₂, h₃, h₄, h₅, h₆⟩ => ⟨h₁, h₂, h₃, h₄, h₅, h₆⟩,
      fun ⟨h₁, h₂, h₃, h₄, h₅, h₆⟩ => ⟨h₁, h₂, h₃, h₄, h₅, h₆⟩⟩

theorem telling_of_mem : ∀ d ∈ table, Telling d := by
  decide +kernel

/-- The opcodes that fail for want of items only have an entry, and none of the other reasons to
fail. -/
theorem resolves_of_unfailing : ∀ name ∈ unfailing, (∃ d ∈ table, d.name = name) ∧
    name ∉ numeric ∧ name ∉ (["OP_RETURN", "OP_ELSE", "OP_ENDIF", "OP_FROMALTSTACK", "OP_VERIFY",
      "OP_EQUALVERIFY", "OP_NUMEQUALVERIFY"] : List Text) := by
  decide +kernel

end Dispatch

/-! ### Operations that find the items they need -/

/-- An operation that finds the items it needs goes wrong exactly if it gives the script up, finds
nothing put aside, asks for a number that is none, or for something that does not hold. -/
theorem Operation.run_ne_ok_iff {d : DispatchEntry} {o : Operation} {s : Stacks}
    (hmem : d ∈ Dispatch.table) (ho : d.opcode = .operation o)
    (hle : d.minItems ≤ s.main.length) :
    (o.run s).1 ≠ .ok () ↔
      o = .abandon ∨ (o = .fromAlt ∧ s.alt = []) ∨ ∃ r, o = .onTop r ∧
        (r.readsNumbers = true ∧
          (∃ a ∈ s.main.take d.minItems, ∃ f, a.toNumber = .error f) ∨ r.Refuted s.main) := by
  have hneeds := (Dispatch.consistent_of_mem d hmem).minItems_eq
  rw [ho] at hneeds
  cases o with
  | onTop r =>
      have hneeds : d.minItems = r.rule.arity := hneeds
      cases hres : r.rule.result? s.main with
      | none =>
          have hshort := (r.rule.result?_eq_none_iff s.main).1 hres
          omega
      | some q =>
          obtain ⟨x, rest⟩ := q
          have hiff := TopOp.error_iff_of_result? hres
          rw [hneeds]
          cases x with
          | ok items => simpa [run, hres] using hiff
          | error f => simpa [run, hres] using hiff
  | toAlt =>
      rcases s with ⟨_ | ⟨x, rest⟩, alt⟩
      · rw [hneeds] at hle
        cases hle
      · simp [run]
  | fromAlt => rcases s with ⟨main, _ | ⟨x, rest⟩⟩ <;> simp [run]
  | depth => simp [run]
  | abandon => simp [run]

namespace Machine

/-! ### Obstacles -/

/-- What stands in the way of the opcode that a text names. -/
inductive Obstacle (t : Text) (m : Machine) : Prop
  /-- The catalog does not enable the name. -/
  | notEnabled (h : Catalog.isEnabled t = false)
  /-- The opcode gives the script up. -/
  | abandoned (h : t.upper = "OP_RETURN")
  /-- A second arm begins where no branch is open, or where it has begun already. -/
  | otherwise (h : t.upper = "OP_ELSE")
      (hb : m.branches = [] ∨ ∃ f, m.branches.head? = some f ∧ f.elseSeen = true)
  /-- A branch ends where none is open. -/
  | close (h : t.upper = "OP_ENDIF") (hb : m.branches = [])
  /-- The stack has fewer items than the entry asks for. -/
  | underflow {d : DispatchEntry} (hm : m.executing = true) (hd : d ∈ Dispatch.table)
      (hname : d.name = t.upper) (hlt : m.main.length < d.minItems)
  /-- Nothing was put aside. -/
  | emptyAlt (hm : m.executing = true) (h : t.upper = "OP_FROMALTSTACK") (ha : m.alt = [])
  /-- One of the operands is no number, where all of them have to be. -/
  | notANumber {d : DispatchEntry} {x : Item} {f : Failure} (hm : m.executing = true)
      (hd : d ∈ Dispatch.table) (hname : d.name = t.upper) (h : t.upper ∈ Dispatch.numeric)
      (hx : x ∈ m.main.take d.minItems) (hf : x.toNumber = .error f)
  /-- The item to be verified is false. -/
  | falseTop {x : Item} {rest : Stack} (hm : m.executing = true) (h : t.upper = "OP_VERIFY")
      (hmain : m.main = x :: rest) (hx : x.isTrue = false)
  /-- The items to be verified are not equal. -/
  | unequal {x y : Item} {rest : Stack} (hm : m.executing = true) (h : t.upper = "OP_EQUALVERIFY")
      (hmain : m.main = x :: y :: rest) (hxy : x.equal y = false)
  /-- The numbers to be verified are different. -/
  | different {x y : Item} {rest : Stack} {a b : Int} (hm : m.executing = true)
      (h : t.upper = "OP_NUMEQUALVERIFY") (hmain : m.main = x :: y :: rest)
      (hx : x.toNumber = .ok a) (hy : y.toNumber = .ok b) (hab : a ≠ b)

section

variable {name : Text} {d : DispatchEntry} {m : Machine}

/-- An opcode that needs more items than there are says so, and leaves the machine alone. -/
theorem obey_of_lt (hmem : d ∈ Dispatch.table) (hname : d.name = name) (hm : m.executing = true)
    (hlt : m.main.length < d.minItems) :
    obey (.opcode name) m = (.error (.failure (.underflow d.minItems m.main.length name)), m) := by
  have hd := Dispatch.resolve_eq_ok_iff.2 ⟨hmem, hname⟩
  have hneeds := (Dispatch.consistent_of_mem d hmem).minItems_eq
  cases hf : Flow.ofName? name with
  | none =>
      obtain ⟨o, ho⟩ := Dispatch.opcode_of_resolve hd hf
      have hruns := runs_of_executing o hm
      rw [obey_operation hd ho, operate_of_lt hruns hlt, hname]
  | some f =>
      obtain rfl := Flow.ofName?_eq_some_iff.1 hf
      obtain ⟨d', hd', -, ho⟩ := Dispatch.resolve_flow f
      cases hd.symm.trans hd'
      rw [ho] at hneeds
      -- only a beginning asks for an item, and only for one
      have hopen : ∀ expected, d.minItems = 1 → openBranch expected f.name m =
          (.error (.failure (.underflow d.minItems m.main.length f.name)), m) := by
        intro expected hone
        have hnil : m.main = [] := List.eq_nil_of_length_eq_zero (by omega)
        rw [openBranch, if_pos hm, hnil, hone]
        rfl
      rw [obey_flow]
      cases f with
      | onTrue => exact hopen true hneeds
      | onFalse => exact hopen false hneeds
      | otherwise => exact absurd (hneeds ▸ hlt) (Nat.not_lt_zero _)
      | close => exact absurd (hneeds ▸ hlt) (Nat.not_lt_zero _)

/-- An opcode fails where it is executed if the operation behind its name goes wrong on the items
that it needs. -/
theorem obey_ne_ok_of_run (hm : m.executing = true)
    (h : ∀ d ∈ Dispatch.table, d.name = name → ∃ o, d.opcode = .operation o ∧
      (d.minItems ≤ m.main.length → (o.run m.toStacks).1 ≠ .ok ())) :
    (obey (.opcode name) m).1 ≠ .ok () := by
  cases hd : Dispatch.resolve name with
  | error f =>
      rw [obey, perform_eq, hd]
      intro hok
      cases hok
  | ok d =>
      obtain ⟨hmem, hname⟩ := Dispatch.resolve_eq_ok_iff.1 hd
      obtain ⟨o, ho, hrun⟩ := h d hmem hname
      have hruns := runs_of_executing o hm
      rw [obey_operation hd ho]
      obtain hlt | hle := Nat.lt_or_ge m.main.length d.minItems
      · rw [operate_of_lt hruns hlt]
        intro hok
        cases hok
      · rw [operate_of_le hruns hle]
        exact hrun hle

theorem obey_ne_ok_of_refuted {r : TopOp} (hm : m.executing = true)
    (h : ∀ d ∈ Dispatch.table, d.name = name → d.opcode = r) (hr : r.Refuted m.main) :
    (obey (.opcode name) m).1 ≠ .ok () := by
  refine obey_ne_ok_of_run hm fun d hmem hname => ⟨_, h d hmem hname, fun hle => ?_⟩
  exact (Operation.run_ne_ok_iff hmem (h d hmem hname) hle).2 (.inr (.inr ⟨r, rfl, .inr hr⟩))

end

/-- Where there is an obstacle, the opcode fails. -/
theorem Obstacle.obey_ne_ok {t : Text} {m : Machine} (h : Obstacle t m) :
    (obey (.opcode t.upper) m).1 ≠ .ok () := by
  cases h with
  | notEnabled h =>
      intro hok
      obtain ⟨d, hd⟩ := exists_resolve_of_obey (Prod.ext hok rfl)
      rw [Dispatch.exists_resolve_upper_iff.1 ⟨d, hd⟩] at h
      cases h
  | abandoned h =>
      intro hok
      rw [h] at hok
      exact obey_return_ne_ok m _ (Prod.ext hok rfl)
  | otherwise h hb =>
      intro hok
      have hrefusal := failure?_obey_otherwise m
      rw [show Flow.otherwise.name = t.upper from h.symm, hok] at hrefusal
      have hfirst := Skeleton.refusal?_otherwise_eq_none_iff.1 hrefusal.symm
      rw [Branches.skeleton, List.head?_map] at hfirst
      obtain hnil | ⟨f, hf, hseen⟩ := hb
      · rw [hnil] at hfirst
        cases hfirst
      · rw [hf] at hfirst
        cases hseen.symm.trans (Option.some.inj hfirst)
  | close h hb =>
      intro hok
      have hrefusal := failure?_obey_close m
      rw [show Flow.close.name = t.upper from h.symm, hok, hb] at hrefusal
      cases hrefusal
  | underflow hm hd hname hlt =>
      rw [obey_of_lt hd hname hm hlt]
      intro hok
      cases hok
  | emptyAlt hm h ha =>
      refine obey_ne_ok_of_run hm fun d hmem hname => ?_
      have ho := (Dispatch.telling_of_mem d hmem).fromAlt_iff.2 (hname.trans h)
      exact ⟨_, ho, fun hle => (Operation.run_ne_ok_iff hmem ho hle).2 (.inr (.inl ⟨rfl, ha⟩))⟩
  | @notANumber d x f hm hd hname h hx hf =>
      refine obey_ne_ok_of_run hm fun d' hmem hname' => ?_
      obtain rfl := Dispatch.eq_of_name_eq hd hmem (hname.trans hname'.symm)
      have hreads := (Dispatch.telling_of_mem d hd).readsNumbers_iff.2 (hname ▸ h)
      rcases ho : d.opcode with f | r | _ | _ | _ | _ <;> rw [ho] at hreads <;> try cases hreads
      exact ⟨_, rfl, fun hle => (Operation.run_ne_ok_iff hd ho hle).2
        (.inr (.inr ⟨r, rfl, .inl ⟨hreads, x, hx, f, hf⟩⟩))⟩
  | falseTop hm h hmain hx =>
      refine obey_ne_ok_of_refuted hm (r := .verify) ?_ ?_
      · intro d hmem hname
        exact (Dispatch.telling_of_mem d hmem).verify_iff.2 (hname.trans h)
      · rw [hmain]
        exact hx
  | unequal hm h hmain hxy =>
      refine obey_ne_ok_of_refuted hm (r := .equalVerify) ?_ ?_
      · intro d hmem hname
        exact (Dispatch.telling_of_mem d hmem).equalVerify_iff.2 (hname.trans h)
      · rw [hmain]
        exact hxy
  | different hm h hmain hx hy hab =>
      refine obey_ne_ok_of_refuted hm (r := .numEqualVerify) ?_ ?_
      · intro d hmem hname
        exact (Dispatch.telling_of_mem d hmem).numEqualVerify_iff.2 (hname.trans h)
      · rw [hmain]
        exact ⟨_, _, hx, hy, hab⟩

theorem obstacle_of_flow {t : Text} {m : Machine} {f : Flow} (hf : f.name = t.upper)
    (h : (obey (.opcode t.upper) m).1 ≠ .ok ()) : Obstacle t m := by
  have hfailure : failure? (obey (.opcode f.name) m).1 ≠ none := by
    rw [hf]
    intro hnone
    obtain ⟨m', ho⟩ | ⟨x, m', ho⟩ := obey_cases (.opcode t.upper) m
    · exact h (congrArg Prod.fst ho)
    · rw [ho] at hnone
      cases hnone
  obtain ⟨expected, rfl⟩ | rfl | rfl := f.cases_opening
  · rw [failure?_obey_opening] at hfailure
    split at hfailure
    · next hempty =>
      obtain ⟨d, hd, hname, ho⟩ := Dispatch.resolve_flow (.opening expected)
      obtain ⟨hmem, -⟩ := Dispatch.resolve_eq_ok_iff.1 hd
      have hneeds := (Dispatch.consistent_of_mem d hmem).minItems_eq
      rw [ho] at hneeds
      refine .underflow hempty.1 hmem (hname.trans hf) ?_
      rw [hempty.2, hneeds]
      cases expected <;> exact Nat.one_pos
    · exact absurd rfl hfailure
  · rw [failure?_obey_otherwise] at hfailure
    refine .otherwise hf.symm ?_
    cases hm : m.branches with
    | nil => exact .inl rfl
    | cons frame bs =>
        refine .inr ⟨frame, rfl, ?_⟩
        rw [hm, ne_eq, Skeleton.refusal?_otherwise_eq_none_iff] at hfailure
        simpa [Branches.skeleton] using hfailure
  · rw [failure?_obey_close] at hfailure
    refine .close hf.symm ?_
    rw [ne_eq, Skeleton.refusal?_close_eq_none_iff, Decidable.not_not] at hfailure
    exact List.map_eq_nil_iff.1 hfailure

theorem obstacle_of_refuted {t : Text} {m : Machine} {d : DispatchEntry} {r : TopOp}
    (hmem : d ∈ Dispatch.table) (hname : d.name = t.upper) (hm : m.executing = true)
    (ho : d.opcode = r) (h : r.Refuted m.main) : Obstacle t m := by
  have htelling := Dispatch.telling_of_mem d hmem
  cases r with
  | verify =>
      rcases hmain : m.main with _ | ⟨x, rest⟩ <;> rw [hmain] at h
      · exact h.elim
      · exact .falseTop hm (hname ▸ htelling.verify_iff.1 ho) hmain h
  | equalVerify =>
      rcases hmain : m.main with _ | ⟨x, _ | ⟨y, rest⟩⟩ <;> rw [hmain] at h
      · exact h.elim
      · exact h.elim
      · exact .unequal hm (hname ▸ htelling.equalVerify_iff.1 ho) hmain h
  | numEqualVerify =>
      rcases hmain : m.main with _ | ⟨x, _ | ⟨y, rest⟩⟩ <;> rw [hmain] at h
      · exact h.elim
      · exact h.elim
      · obtain ⟨a, b, hx, hy, hab⟩ := h
        exact .different hm (hname ▸ htelling.numEqualVerify_iff.1 ho) hmain hx hy hab
  | _ => exact h.elim

theorem obstacle_of_operate {t : Text} {m : Machine} {d : DispatchEntry} {o : Operation}
    (hmem : d ∈ Dispatch.table) (hname : d.name = t.upper) (ho : d.opcode = .operation o)
    (h : (operate d o m).1 ≠ .ok ()) : Obstacle t m := by
  have htelling := Dispatch.telling_of_mem d hmem
  by_cases habandon : o = .abandon
  · rw [habandon] at ho
    exact .abandoned (hname ▸ htelling.abandon_iff.1 ho)
  -- every other operation is executed only where instructions are
  have halways : o.alwaysRuns = false := by
    cases o with
    | abandon => exact absurd rfl habandon
    | _ => rfl
  obtain hskip | ⟨hruns, hlt⟩ | ⟨hruns, hle⟩ := operate_cases d o m
  · rw [operate_of_skipped hskip] at h
    exact absurd rfl h
  · rw [halways, Bool.or_false] at hruns
    exact .underflow hruns hmem hname hlt
  · rw [operate_of_le hruns hle] at h
    rw [halways, Bool.or_false] at hruns
    obtain rfl | ⟨rfl, ha⟩ | ⟨r, rfl, ⟨hreads, x, hx, f, hf⟩ | hr⟩ :=
      (Operation.run_ne_ok_iff hmem ho hle).1 h
    · exact absurd rfl habandon
    · exact .emptyAlt hruns (hname ▸ htelling.fromAlt_iff.1 ho) ha
    · have hnumeric := htelling.readsNumbers_iff.1 (ho ▸ hreads)
      exact .notANumber hruns hmem hname (hname ▸ hnumeric) hx hf
    · exact obstacle_of_refuted hmem hname hruns ho hr

/-- **An opcode fails exactly if there is an obstacle.** -/
theorem obey_ne_ok_iff {t : Text} {m : Machine} :
    (obey (.opcode t.upper) m).1 ≠ .ok () ↔ Obstacle t m := by
  refine ⟨?_, Obstacle.obey_ne_ok⟩
  intro h
  cases hd : Dispatch.resolve t.upper with
  | error f =>
      refine .notEnabled (Bool.eq_false_iff.2 fun henabled => ?_)
      obtain ⟨d, hd'⟩ := Dispatch.exists_resolve_upper_iff.2 henabled
      cases hd.symm.trans hd'
  | ok d =>
      obtain ⟨hmem, hname⟩ := Dispatch.resolve_eq_ok_iff.1 hd
      cases hf : Flow.ofName? t.upper with
      | some f => exact obstacle_of_flow (Flow.ofName?_eq_some_iff.1 hf) h
      | none =>
          obtain ⟨o, ho⟩ := Dispatch.opcode_of_resolve hd hf
          rw [obey_operation hd ho] at h
          exact obstacle_of_operate hmem hname ho h

/-- Some opcodes have no obstacle but too few items. -/
theorem obstacle_iff_of_unfailing {t : Text} {m : Machine} (ht : t.upper ∈ Dispatch.unfailing) :
    Obstacle t m ↔ m.executing = true ∧
      ∃ d ∈ Dispatch.table, d.name = t.upper ∧ m.main.length < d.minItems := by
  obtain ⟨⟨d, hmem, hname⟩, hnumeric, hother⟩ := Dispatch.resolves_of_unfailing _ ht
  constructor
  · intro h
    cases h with
    | underflow hm hd hname hlt => exact ⟨hm, _, hd, hname, hlt⟩
    | notEnabled h =>
        rw [Dispatch.exists_resolve_upper_iff.1
          ⟨d, Dispatch.resolve_eq_ok_iff.2 ⟨hmem, hname⟩⟩] at h
        cases h
    | notANumber hm hd hname h hx hf => exact absurd h hnumeric
    | abandoned h => exact absurd (by simp [h]) hother
    | otherwise h hb => exact absurd (by simp [h]) hother
    | close h hb => exact absurd (by simp [h]) hother
    | emptyAlt hm h ha => exact absurd (by simp [h]) hother
    | falseTop hm h hmain hx => exact absurd (by simp [h]) hother
    | unequal hm h hmain hxy => exact absurd (by simp [h]) hother
    | different hm h hmain hx hy hab => exact absurd (by simp [h]) hother
  · rintro ⟨hm, d, hd, hname, hlt⟩
    exact .underflow hm hd hname hlt

end Machine

namespace Engine

/-- **An opcode fails exactly if there is an obstacle**, on whatever engine.  If it needs more items
than there are, the error says so, with its name and the two numbers.  Opcodes that move, measure,
compare or digest items, or take them for a signature, fail for no other reason. -/
theorem step_fails_iff {t : Text} (ht : t.isOpcodeName = true) (e : Engine) :
    ∃ s e', e.step (.item (.text t)) = (.ok s, e') ∧
      (s.success = false ↔ Machine.Obstacle t e.toMachine) ∧
      (∀ d ∈ Dispatch.table, d.name = t.upper → e.executing = true →
        e.main.length < d.minItems →
        s.error = some ("Stack underflow: " ++ t.upper ++ " requires " ++ decimalText d.minItems ++
          (if d.minItems = 1 then (" item" : Text) else " items") ++ ", found " ++
          decimalText e.main.length)) ∧
      (t.upper ∈ Dispatch.unfailing → (s.success = false ↔ e.executing = true ∧
        ∃ d ∈ Dispatch.table, d.name = t.upper ∧ e.main.length < d.minItems)) := by
  have hv := Instruction.ofValue_eq_opcode_iff.2 ⟨t, rfl, ht, rfl⟩
  have hiff : (Machine.record (.opcode t.upper) e.toMachine
      (Machine.obey (.opcode t.upper) e.toMachine).2
      (Machine.failure? (Machine.obey (.opcode t.upper) e.toMachine).1)).success = false ↔
        Machine.Obstacle t e.toMachine := by
    rw [← Machine.obey_ne_ok_iff]
    obtain ⟨m', ho⟩ | ⟨f, m', ho⟩ := Machine.obey_cases (.opcode t.upper) e.toMachine
    · simp [ho, Machine.record, Machine.failure?]
    · simp [ho, Machine.record, Machine.failure?]
  refine ⟨_, _, e.step_of_ok hv, hiff, ?_, ?_⟩
  · intro d hmem hname hm hlt
    rw [Machine.obey_of_lt hmem hname hm hlt]
    have hne : t.upper ≠ [] := by
      intro hnil
      rw [Text.isOpcodeName, hnil] at ht
      cases ht
    simp [Machine.record, Machine.failure?, Failure.message, underflowText, hne]
  · intro hunfailing
    exact hiff.trans (Machine.obstacle_iff_of_unfailing hunfailing)

/-- Of the three operands of a range, the flag and the number pass, the text that is no number does
not. -/
theorem step_fails_iff_within :
    let e : Engine := ⟨⟨⟨[.text "0xZ", .number 2, .flag true], []⟩, [⟨true, true, true⟩]⟩, []⟩
    Text.isOpcodeName "op_Within" = true ∧
      ∃ s e', e.step (.item (.text "op_Within")) = (.ok s, e') ∧ s.success = false := by
  intro e
  have ht : Text.isOpcodeName "op_Within" = true := by decide +kernel
  obtain ⟨s, e', hstep, hiff, -⟩ := step_fails_iff ht e
  have hobstacle : Machine.Obstacle "op_Within" e.toMachine := by
    refine .notANumber (d := ⟨"OP_WITHIN", TopOp.within, 3⟩) (x := .text "0xZ") ?_ ?_ ?_ ?_ ?_ rfl
    · decide +kernel
    · decide +kernel
    · decide +kernel
    · decide +kernel
    · exact List.mem_cons_self
  exact ⟨ht, s, e', hstep, hiff.2 hobstacle⟩

end Engine

end ScriptTutor
