/-
**Items with the same bytes.**

A text of hexadecimal digits, a byte string and a number may have the same bytes and still be
different items: one may be true and the other false, and one may stand for a number that the other
does not stand for.  Only opcodes that ask for nothing but the bytes cannot tell them apart.  They
are those that push a constant, move items, count items or bytes, compare bytes, digest them or take
them for a signature.  Programs of such opcodes run in lockstep when literals are exchanged for
others with the same bytes, and fail at the same step with the same message.

Main definitions:

* `ScriptTutor.TopOp.readsBytesOnly`, `ScriptTutor.Dispatch.bytesOnly` — the opcodes that ask for
  nothing but the bytes, and their names;
* `ScriptTutor.Value.SameBytes` — two values are the same opcode of this kind, or literals with the
  same bytes;
* `ScriptTutor.Step.SameBytes` — two steps differ at most in their labels and in how the items on
  the stacks are written.

Main results:

* `ScriptTutor.Item.allEqual_iff_toBytes` — stacks are equal if they have the same bytes, item by
  item;
* `ScriptTutor.TopOp.respects_equal` — **these opcodes respect the equality of items**;
* `ScriptTutor.Value.sameBytes_of_digits` — a text of hexadecimal digits, in either case, has the
  same bytes as the byte string that it denotes;
* `ScriptTutor.Engine.execute_sameBytes` — **programs of such opcodes run in lockstep**.
-/

import ScriptTutor.Proofs.Beginning
import ScriptTutor.Proofs.Representation.Item
import ScriptTutor.Proofs.Representation.Relation

set_option relaxedAutoImplicit false
set_option autoImplicit false

namespace ScriptTutor

/-! ### Equality of items -/

namespace Item

@[simp] theorem equal_refl (x : Item) : x.equal x = true := equal_iff_toBytes.2 rfl

/-- Items that are equal compare in the same way with items that are equal. -/
theorem equal_congr {x x' y y' : Item} (hx : x.equal x' = true) (hy : y.equal y' = true) :
    x.equal y = x'.equal y' := by
  rw [equal_iff_toBytes] at hx hy
  rw [equal_eq_toBytes, equal_eq_toBytes, hx, hy]

theorem allEqual_iff {xs ys : List Item} :
    allEqual xs ys = true ↔ List.Forall₂ (fun x y => x.equal y = true) xs ys := by
  induction xs generalizing ys with
  | nil => cases ys <;> simp [allEqual]
  | cons x xs ih => cases ys <;> simp [allEqual, ih]

/-- Lists of items are equal if they have the same bytes, item by item. -/
theorem allEqual_iff_toBytes {xs ys : List Item} :
    allEqual xs ys = true ↔ xs.map toBytes = ys.map toBytes := by
  rw [allEqual_iff, ← List.forall₂_eq_eq_eq, List.forall₂_map_left_iff, List.forall₂_map_right_iff]
  simp only [equal_iff_toBytes]

end Item

/-! ### Opcodes that ask for nothing but the bytes -/

namespace TopOp

/-- Whether an opcode asks for nothing but the bytes of its operands: neither for their truth nor
for the numbers that they stand for. -/
def readsBytesOnly : TopOp → Bool
  | ifDup => false
  | verify => false
  | unary _ => false
  | binary _ => false
  | numEqualVerify => false
  | within => false
  | _ => true

/-- **These opcodes respect the equality of items.**  Most of them only move their operands; the
others make the same of the same bytes. -/
theorem respects_equal {o : TopOp} (h : o.readsBytesOnly = true) :
    o.rule.Respects fun x y => x.equal y = true := by
  cases o with
  | size =>
      intro a a' ha
      have hlen : a.toBytes.length = a'.toBytes.length :=
        congrArg List.length (Item.equal_iff_toBytes.1 ha)
      simp [hlen, ha]
  | equal =>
      intro a a' ha b b' hb
      simp [Item.equal_congr ha hb]
  | equalVerify =>
      intro a a' ha b b' hb
      show Replacement.Related _ (verified (a.equal b) _) (verified (a'.equal b') _)
      rw [Item.equal_congr ha hb, verified]
      split
      · exact .items .nil
      · exact .failure _
  | hash f =>
      intro a a' ha
      simp [Item.equal_iff_toBytes.1 ha]
  | _ => simp_all [readsBytesOnly, rule, Rule.Respects]

end TopOp

/-- Whether an opcode asks for nothing but the bytes of items. -/
def Opcode.readsBytesOnly : Opcode → Bool
  | operation (.onTop r) => r.readsBytesOnly
  | operation .abandon => false
  | operation _ => true
  | flow _ => false

/-- The names of the opcodes that ask for nothing but the bytes of items. -/
def Dispatch.bytesOnly : List Text :=
  constants.map (·.name) ++
  (["OP_NOP", "OP_TOALTSTACK", "OP_FROMALTSTACK", "OP_2DROP", "OP_2DUP", "OP_3DUP", "OP_2OVER",
    "OP_2SWAP", "OP_DEPTH", "OP_DROP", "OP_DUP", "OP_NIP", "OP_OVER", "OP_ROT", "OP_SWAP",
    "OP_TUCK", "OP_SIZE", "OP_EQUAL", "OP_EQUALVERIFY", "OP_RIPEMD160", "OP_SHA1", "OP_SHA256",
    "OP_HASH160", "OP_HASH256", "OP_CHECKSIG", "OP_CHECKSIGVERIFY"] : List Text)

theorem Dispatch.readsBytesOnly_of_mem :
    ∀ d ∈ table, d.name ∈ bytesOnly → d.opcode.readsBytesOnly = true := by
  decide +kernel

theorem Dispatch.isOpcodeName_of_mem :
    ∀ name ∈ bytesOnly, name.isOpcodeName = true ∧ name.upper = name := by
  decide +kernel

/-- What runs under one of the names respects the equality of items. -/
theorem Dispatch.respects_equal {name : Text} (h : name ∈ bytesOnly) :
    Dispatch.Respects (fun x y => x.equal y = true) name := by
  intro d hd
  obtain ⟨hmem, rfl⟩ := resolve_eq_ok_iff.1 hd
  have hbytes := readsBytesOnly_of_mem d hmem h
  rcases ho : d.opcode with f | r | _ | _ | _ | _
  · rw [ho] at hbytes
    cases hbytes
  · rw [ho] at hbytes
    exact TopOp.respects_equal hbytes
  · trivial
  · trivial
  · intro n
    exact Item.equal_refl _
  · trivial

/-! ### Programs with the same bytes -/

/-- Two values are the same opcode that asks for nothing but the bytes, or literals with the same
bytes. -/
def Value.SameBytes (v w : Value) : Prop :=
  (∃ name ∈ Dispatch.bytesOnly, Instruction.ofValue v = .ok (.opcode name) ∧
    Instruction.ofValue w = .ok (.opcode name)) ∨
  ∃ x y, Instruction.ofValue v = .ok (.literal x) ∧ Instruction.ofValue w = .ok (.literal y) ∧
    x.equal y = true

/-- Two steps differ at most in their labels and in how the items on the stacks are written. -/
structure Step.SameBytes (s t : Step) : Prop where
  before : Item.allEqual s.before t.before = true
  after : Item.allEqual s.after t.after = true
  success : s.success = t.success
  error : s.error = t.error

namespace Value

theorem SameBytes.isItem {v w : Value} (h : v.SameBytes w) : v.IsItem ∧ w.IsItem := by
  obtain ⟨_, -, hv, hw⟩ | ⟨_, _, hv, hw, -⟩ := h
  · exact ⟨Instruction.isItem_of_ofValue hv, Instruction.isItem_of_ofValue hw⟩
  · exact ⟨Instruction.isItem_of_ofValue hv, Instruction.isItem_of_ofValue hw⟩

theorem isItem_of_sameBytes {p q : List Value} (h : List.Forall₂ SameBytes p q) :
    (∀ v ∈ p, v.IsItem) ∧ ∀ w ∈ q, w.IsItem := by
  induction h with
  | nil => simp
  | cons hvw _ ih =>
      obtain ⟨hv, hw⟩ := hvw.isItem
      exact ⟨List.forall_mem_cons.2 ⟨hv, ih.1⟩, List.forall_mem_cons.2 ⟨hw, ih.2⟩⟩

theorem SameBytes.related {v w : Value} (h : v.SameBytes w) :
    Value.Related (fun x y => x.equal y = true) v w := by
  obtain ⟨_, hname, hv, hw⟩ | ⟨_, _, hv, hw, hxy⟩ := h
  · exact .instruction hv hw (.opcode (Dispatch.respects_equal hname))
  · exact .instruction hv hw (.literal hxy)

theorem sameBytes_of_name {name : Text} (h : name ∈ Dispatch.bytesOnly) :
    Value.SameBytes (.item (.text name)) (.item (.text name)) := by
  obtain ⟨hname, hupper⟩ := Dispatch.isOpcodeName_of_mem name h
  have hv : Instruction.ofValue (.item (.text name)) = .ok (.opcode name) := by
    rw [Instruction.ofValue_text, if_pos hname, hupper]
  exact .inl ⟨name, h, hv, hv⟩

/-- A text of digits in either letter case **has the same bytes** as the byte string that it
denotes. -/
theorem sameBytes_of_digits {mark : CodePoint} (hmark : mark = 'x' ∨ mark = 'X') {digits : Text}
    {bs : Bytes} (h : digits.map digit? = bs.toHex.map digit?) :
    Value.SameBytes (.item (.text ('0' :: mark :: digits))) (.item (.bytes bs)) := by
  refine .inr ⟨.text ('0' :: mark :: digits), .bytes bs, ?_, rfl, ?_⟩
  · rw [Instruction.ofValue_text, Text.isOpcodeName_zero]
    rfl
  · exact Item.equal_iff_toBytes.2 (Item.textBytes_of_digits hmark h)

end Value

theorem Step.sameBytes_of_related {s t : Step}
    (h : s.Related (fun x y => x.equal y = true) t) : s.SameBytes t :=
  ⟨Item.allEqual_iff.2 h.before, Item.allEqual_iff.2 h.after, h.success, h.error⟩

namespace Engine

theorem allEqual_alt {p q : List Value} (h : List.Forall₂ Value.SameBytes p q) :
    Item.allEqual (executeList p).2.alt.snapshot (executeList q).2.alt.snapshot = true := by
  have hpq : List.Forall₂ (Value.Related fun x y => x.equal y = true) p q :=
    h.imp fun _ _ hvw => hvw.related
  have hmachine := (Machine.run_related hpq (m := Machine.start) ⟨⟨.nil, .nil⟩, rfl⟩).machine
  rw [executeList_engine, executeList_engine]
  exact Item.allEqual_iff.2 (Machine.snapshot_related hmachine.toStacks.alt)

/-- **Programs of such opcodes run in lockstep** when literals are exchanged for others with the
same bytes: as many steps, the same successes and errors, and equal stacks before and after each of
them. The alternative stack after so many steps is the one that the first so many values leave.  In
particular, a text of digits in either letter case may take the place of the byte string that it
denotes. -/
theorem execute_sameBytes :
    (∀ p q : List Value, List.Forall₂ Value.SameBytes p q → ∀ e e' : Engine,
      ∃ r s f g, e.execute (.list p) = (.ok r, f) ∧ e'.execute (.list q) = (.ok s, g) ∧
        r.steps.length = s.steps.length ∧ List.Forall₂ Step.SameBytes r.steps s.steps ∧
        ∀ k, Item.allEqual (e.execute (.list (p.take k))).2.alt.snapshot
          (e'.execute (.list (q.take k))).2.alt.snapshot = true) ∧
    ∀ (mark : CodePoint) (digits : Text) (bs : Bytes), mark = 'x' ∨ mark = 'X' →
      digits.map digit? = bs.toHex.map digit? →
      Value.SameBytes (.item (.text ('0' :: mark :: digits))) (.item (.bytes bs)) := by
  constructor
  · intro p q h e e'
    have hpq : List.Forall₂ (Value.Related fun x y => x.equal y = true) p q :=
      h.imp fun _ _ hvw => hvw.related
    obtain ⟨hp, hq⟩ := Value.isItem_of_sameBytes h
    obtain ⟨r, f, hr⟩ := exists_report_of_isItem hp
    obtain ⟨s, g, hs⟩ := exists_report_of_isItem hq
    have hsteps : List.Forall₂ Step.SameBytes r.steps s.steps := by
      rw [steps_eq_run hr, steps_eq_run hs]
      exact (Machine.run_related hpq ⟨⟨.nil, .nil⟩, rfl⟩).steps.imp fun _ _ =>
        Step.sameBytes_of_related
    refine ⟨r, s, f, g, hr, hs, hsteps.length_eq, hsteps, ?_⟩
    intro k
    exact allEqual_alt (List.forall₂_take k h)
  · intro mark digits bs hmark hdigits
    exact Value.sameBytes_of_digits hmark hdigits

/-- Two bytes are measured, put aside and compared in the same way, whether they are written as
bytes or as digits in mixed case, and their number as a number or as a byte. -/
theorem execute_sameBytes_measured :
    ∃ r s f g,
      fresh.execute (.list [.item (.text "0xaB0C"), .item (.text "OP_SIZE"), .item (.number 2),
        .item (.text "OP_EQUALVERIFY"), .item (.text "OP_TOALTSTACK"), .item (.bytes []),
        .item (.number 0), .item (.text "OP_EQUAL")]) = (.ok r, f) ∧
      fresh.execute (.list [.item (.bytes [0xAB, 0x0C]), .item (.text "OP_SIZE"),
        .item (.bytes [2]), .item (.text "OP_EQUALVERIFY"), .item (.text "OP_TOALTSTACK"),
        .item (.flag false), .item (.text "0X"), .item (.text "OP_EQUAL")]) = (.ok s, g) ∧
      r.steps.length = s.steps.length ∧ List.Forall₂ Step.SameBytes r.steps s.steps ∧
      Item.allEqual f.alt.snapshot g.alt.snapshot = true := by
  have hname : ∀ name ∈ Dispatch.bytesOnly,
      Value.SameBytes (.item (.text name)) (.item (.text name)) :=
    fun _ => Value.sameBytes_of_name
  have hliteral : ∀ {v w : Value} {x y : Item}, Instruction.ofValue v = .ok (.literal x) →
      Instruction.ofValue w = .ok (.literal y) → x.equal y = true → v.SameBytes w :=
    fun hv hw hxy => .inr ⟨_, _, hv, hw, hxy⟩
  have h : List.Forall₂ Value.SameBytes
      [.item (.text "0xaB0C"), .item (.text "OP_SIZE"), .item (.number 2),
        .item (.text "OP_EQUALVERIFY"), .item (.text "OP_TOALTSTACK"), .item (.bytes []),
        .item (.number 0), .item (.text "OP_EQUAL")]
      [.item (.bytes [0xAB, 0x0C]), .item (.text "OP_SIZE"), .item (.bytes [2]),
        .item (.text "OP_EQUALVERIFY"), .item (.text "OP_TOALTSTACK"), .item (.flag false),
        .item (.text "0X"), .item (.text "OP_EQUAL")] :=
    .cons (execute_sameBytes.2 'x' "aB0C" [0xAB, 0x0C] (.inl rfl) (by decide))
      (.cons (hname _ (by decide +kernel)) (.cons (hliteral rfl rfl (by decide))
      (.cons (hname _ (by decide +kernel)) (.cons (hname _ (by decide +kernel))
      (.cons (hliteral rfl rfl (by decide)) (.cons (hliteral rfl rfl (by decide))
      (.cons (hname _ (by decide +kernel)) .nil)))))))
  obtain ⟨r, s, f, g, hr, hs, hlen, hsteps, halt⟩ := execute_sameBytes.1 _ _ h fresh fresh
  have hend := halt 8
  rw [List.take_of_length_le (Nat.le_refl 8), List.take_of_length_le (Nat.le_refl 8)] at hend
  refine ⟨r, s, f, g, hr, hs, hlen, hsteps, ?_⟩
  rw [hr, hs] at hend
  exact hend

end Engine

end ScriptTutor
