/-
**Instructions do not see the representation of items.**

To have the same canonical form is a relation between items, and no opcode can tell two items apart
that are so related: rules are blind, branches ask for the truth of an item only, and the same
number is counted on both stacks.  Two machines are related exactly if they have the same canonical
form, so that all that is known of related machines holds of these.

Main definitions:

* `ScriptTutor.Stacks.canonical`, `ScriptTutor.Machine.canonical` — stacks and machines with the
  canonical forms of their items.

Main results:

* `ScriptTutor.Rule.IsBlind.respects` — blind rules respect canonical forms;
* `ScriptTutor.Opcode.respects_canonical` — **and so does every opcode**;
* `ScriptTutor.Machine.related_canonical_iff` — machines with the same canonical form are the
  related ones.
-/

import ScriptTutor.Proofs.Representation.Item
import ScriptTutor.Proofs.Representation.Relation

set_option relaxedAutoImplicit false
set_option autoImplicit false

namespace ScriptTutor

/-- Lists have the same canonical forms if they have them place by place. -/
theorem Item.forall₂_canonical_iff {xs ys : List Item} :
    List.Forall₂ (fun x y => x.canonical = y.canonical) xs ys ↔
      xs.map Item.canonical = ys.map Item.canonical := by
  rw [← List.forall₂_eq_eq_eq, List.forall₂_map_left_iff, List.forall₂_map_right_iff]

/-! ### Opcodes -/

theorem Replacement.related_of_canonical {x y : Replacement} (h : canonical x = canonical y) :
    Replacement.Related (fun x y => x.canonical = y.canonical) x y := by
  cases x with
  | ok xs =>
      cases y with
      | ok ys => exact .items (Item.forall₂_canonical_iff.2 (Except.ok.inj h))
      | error f => cases h
  | error e =>
      cases y with
      | ok ys => cases h
      | error f =>
          obtain rfl : e = f := Except.error.inj h
          exact .failure e

/-- Blind rules respect canonical forms. -/
theorem Rule.IsBlind.respects {r : Rule} (h : r.IsBlind) :
    r.Respects fun x y => x.canonical = y.canonical := by
  cases r with
  | zero x => exact Replacement.related_of_canonical rfl
  | one f =>
      intro a a' ha
      have hsame := h a
      rw [ha, h a'] at hsame
      exact Replacement.related_of_canonical hsame.symm
  | two f =>
      intro a a' ha b b' hb
      have hsame := h a b
      rw [ha, hb, h a' b'] at hsame
      exact Replacement.related_of_canonical hsame.symm
  | three f =>
      intro a a' ha b b' hb c c' hc
      have hsame := h a b c
      rw [ha, hb, hc, h a' b' c'] at hsame
      exact Replacement.related_of_canonical hsame.symm
  | four f =>
      intro a a' ha b b' hb c c' hc d d' hd
      have hsame := h a b c d
      rw [ha, hb, hc, hd, h a' b' c' d'] at hsame
      exact Replacement.related_of_canonical hsame.symm

theorem Item.isTrue_congr {x y : Item} (h : x.canonical = y.canonical) : x.isTrue = y.isTrue := by
  rw [← isTrue_canonical, h, isTrue_canonical]

/-- **Every opcode respects canonical forms.** -/
theorem Opcode.respects_canonical (o : Opcode) :
    o.Respects fun x y => x.canonical = y.canonical := by
  cases o with
  | flow f =>
      cases f with
      | onTrue => exact fun _ _ => Item.isTrue_congr
      | onFalse => exact fun _ _ => Item.isTrue_congr
      | otherwise => trivial
      | close => trivial
  | operation o =>
      cases o with
      | onTop r => exact r.isBlind.respects
      | depth => exact fun _ => rfl
      | toAlt => trivial
      | fromAlt => trivial
      | abandon => trivial

/-! ### Machines -/

def Stacks.canonical (s : Stacks) : Stacks := ⟨s.main.map Item.canonical, s.alt.map Item.canonical⟩

namespace Machine

/-- The machine with the canonical forms of its items. -/
def canonical (m : Machine) : Machine := ⟨m.toStacks.canonical, m.branches⟩

/-- Machines with the same canonical form are the related ones. -/
theorem related_canonical_iff {m n : Machine} :
    m.Related (fun x y => x.canonical = y.canonical) n ↔ m.canonical = n.canonical := by
  constructor
  · rintro ⟨⟨hmain, halt⟩, hbranches⟩
    rw [canonical, canonical, Stacks.canonical, Stacks.canonical, hbranches,
      Item.forall₂_canonical_iff.1 hmain, Item.forall₂_canonical_iff.1 halt]
  · intro h
    have hmain : m.main.map Item.canonical = n.main.map Item.canonical :=
      congrArg (fun k => k.main) h
    have halt : m.alt.map Item.canonical = n.alt.map Item.canonical := congrArg (fun k => k.alt) h
    have hbranches : m.branches = n.branches := congrArg (fun k => k.branches) h
    exact ⟨⟨Item.forall₂_canonical_iff.2 hmain, Item.forall₂_canonical_iff.2 halt⟩, hbranches⟩

end Machine

end ScriptTutor
