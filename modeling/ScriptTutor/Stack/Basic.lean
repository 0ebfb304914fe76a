/-
**The stack.**

A stack is a list of items with the top in front.  A reader sees it the other way round, with the
bottom in front; that view is a snapshot.
-/

import ScriptTutor.Item.Basic

set_option relaxedAutoImplicit false
set_option autoImplicit false

namespace ScriptTutor

/-- A stack of items, top first.  It has no greatest height. -/
abbrev Stack := List Item

namespace Stack

/-- The items of a stack, bottom first. -/
def snapshot (s : Stack) : List Item := s.reverse

def ofBottom (xs : List Item) : Stack := xs.reverse

@[simp] theorem snapshot_nil : snapshot [] = [] := rfl

@[simp] theorem snapshot_cons (x : Item) (s : Stack) : snapshot (x :: s) = s.snapshot ++ [x] :=
  List.reverse_cons

theorem snapshot_append (s below : Stack) : (s ++ below).snapshot = below.snapshot ++ s.snapshot :=
  List.reverse_append

@[simp] theorem snapshot_ofBottom (xs : List Item) : (ofBottom xs).snapshot = xs :=
  List.reverse_reverse xs

@[simp] theorem ofBottom_snapshot (s : Stack) : ofBottom s.snapshot = s :=
  List.reverse_reverse s

@[simp] theorem length_snapshot (s : Stack) : s.snapshot.length = s.length :=
  List.length_reverse

theorem snapshot_injective {s t : Stack} (h : s.snapshot = t.snapshot) : s = t :=
  List.reverse_inj.1 h

end Stack

end ScriptTutor
