/-
**Opcodes as procedures on the stacks.**

The rule of an opcode says at once what becomes of its operands, and how many there are.  A
procedure says it in small: items are taken off a stack, singly or several together, looked at where
they lie, read as numbers and put back, and some procedures call others.  Nothing in a procedure
says how many items it needs in all.  Each use of a stack asks for its own items when its turn
comes, and an item that a procedure put there itself is as good as any other.  This module proves
that every procedure does what its rule says, also when items are missing.

Main definitions:

* `ScriptTutor.Procedure` — what is done to the stacks, one thing after the other;
* `ScriptTutor.Procedure.ofTopOp`, `ScriptTutor.Procedure.ofOperation` — the procedures of the
  opcodes;
* `ScriptTutor.Procedure.Lacks` — a procedure asks for so many items before it does anything;
* `ScriptTutor.Procedure.Makes` — what a procedure makes of the items on top;
* `ScriptTutor.Procedure.worded` — an outcome, with a shortage in the words of the stack.

Main results:

* `ScriptTutor.Procedure.lacks_ofTopOp` — a procedure **asks first** for all operands of its rule;
* `ScriptTutor.Procedure.ensures_makes` — on these it **does what the rule says**;
* `ScriptTutor.Procedure.worded_ofOperation` — so **procedures and operations agree** on all stacks.
-/

import ScriptTutor.Proofs.Obstacle
import ScriptTutor.Stack.Access

set_option relaxedAutoImplicit false
set_option autoImplicit false

namespace ScriptTutor

/-- What is done to the stacks, one thing after the other, up to the first fault.  A fault keeps
what was done before it. -/
structure Procedure (α : Type) where
  run : Stacks → Except Fault α × Stacks

namespace Procedure

instance : Monad Procedure where
  pure x := ⟨fun s => (.ok x, s)⟩
  bind p f := ⟨fun s =>
    match p.run s with
    | (.ok x, s') => (f x).run s'
    | (.error e, s') => (.error e, s')⟩

/-! ### Uses of the stacks -/

/-- A result that leaves the stacks alone. -/
def result {α : Type} (r : Except Fault α) : Procedure α := ⟨fun s => (r, s)⟩

/-- Fails, and leaves the stacks alone. -/
def fail {α : Type} (f : Failure) : Procedure α := result (.error (.failure f))

/-- The fault of a row of items for which there are more names, or fewer. -/
def misfit {α : Type} : Procedure α := result (.error .wrongKind)

def onMain {α : Type} (u : Stack.Use α) : Procedure α :=
  ⟨fun s => ((u s.main).1, { s with main := (u s.main).2 })⟩

def onAlt {α : Type} (u : Stack.Use α) : Procedure α :=
  ⟨fun s => ((u s.alt).1, { s with alt := (u s.alt).2 })⟩

/-- Takes items off the main stack, the former top first. -/
def take (n : Nat) : Procedure (List Item) := onMain (Stack.popMany (.ofNat n))

def takeTop : Procedure Item := onMain Stack.pop

/-- Takes the top item off the main stack and reads it as a number. -/
def takeNumber : Procedure Int := onMain Stack.popNumber

/-- Looks at the item at a depth of the main stack. -/
def look (depth : Nat) : Procedure Item := onMain fun s => (Stack.peek (.ofNat depth) s, s)

/-- The top item of the main stack, which asks for none and may be absent. -/
def top : Procedure Value :=
  ⟨fun s => (.ok (match s.main.head? with
    | some x => .item x
    | none => .absent), s)⟩

def height : Procedure Nat := ⟨fun s => (.ok s.main.length, s)⟩

def put (x : Item) : Procedure Unit := onMain (Stack.push (.item x))

/-- Puts items on the main stack, of which the last becomes the top. -/
def putAll (xs : List Item) : Procedure Unit := onMain (Stack.pushAll (xs.map .item))

/-- Puts the number on the main stack that stands for a truth value. -/
def putTruth (b : Bool) : Procedure Unit := onMain (Stack.pushTruth (.item (.flag b)))

def number (x : Item) : Procedure Int := result (Value.item x).toNumber

/-! ### The procedures of the opcodes -/

/-- Takes two items and reads them as numbers, the former top first.  Both are gone before either
is read. -/
def takeNumbers : Procedure (Int × Int) := do
  let [a, b] ← take 2 | misfit
  let n ← number a
  let m ← number b
  return (m, n)

/-- Takes an item and fails on behalf of an opcode unless it is true. -/
def verify (operation : Text) : Procedure Unit := do
  let x ← takeTop
  if x.isTrue then pure () else fail (.unverified operation)

def equal : Procedure Unit := do
  let [a, b] ← take 2 | misfit
  putTruth (a.equal b)

def binary (f : Binary) : Procedure Unit := do
  let (m, n) ← takeNumbers
  put (.number (f.eval m n))

/-- Takes a public key and a signature, and accepts them. -/
def checkSig : Procedure Unit := do
  let [_, _] ← take 2 | misfit
  put (.number 1)

/-- The procedures of the opcodes on the top of the stack.  Three of them call the procedure of
another opcode and verify what it leaves. -/
def ofTopOp : TopOp → Procedure Unit
  | .push n => put (.number n)
  | .nop => pure ()
  | .drop => do
    let _ ← takeTop
  | .drop2 => do
    let _ ← take 2
  | .dup => do
    let x ← look 0
    put x
  | .dup2 => do
    let xs ← take 2
    putAll (xs.reverse ++ xs.reverse)
  | .dup3 => do
    let xs ← take 3
    putAll (xs.reverse ++ xs.reverse)
  | .over1 => do
    let x ← look 1
    put x
  | .over2 => do
    let xs ← take 4
    putAll (xs.reverse ++ xs.reverse.take 2)
  | .swap => do
    let [a, b] ← take 2 | misfit
    putAll [a, b]
  | .swap2 => do
    let xs ← take 4
    putAll (xs.reverse.drop 2 ++ xs.reverse.take 2)
  | .rot => do
    let [a, b, c] ← take 3 | misfit
    putAll [b, a, c]
  | .nip => do
    let [a, _] ← take 2 | misfit
    put a
  | .tuck => do
    let [a, b] ← take 2 | misfit
    putAll [a, b, a]
  | .ifDup => do
    let v ← top
    let b ← result v.isTrue
    if b then onMain (Stack.push v) else pure ()
  | .size => do
    let x ← look 0
    put (.number x.toBytes.length)
  | .verify => verify "OP_VERIFY"
  | .equal => equal
  | .equalVerify => do
    equal
    verify "OP_EQUALVERIFY"
  | .unary f => do
    let n ← takeNumber
    put (.number (f.eval n))
  | .binary f => binary f
  | .numEqualVerify => do
    binary .equal
    verify "OP_NUMEQUALVERIFY"
  | .within => do
    let [a, b, c] ← take 3 | misfit
    let hi ← number a
    let lo ← number b
    let x ← number c
    putTruth (liesWithin x lo hi)
  | .hash f => do
    let x ← takeTop
    put (.bytes (f.digest x.toBytes))
  | .checkSig => checkSig
  | .checkSigVerify => do
    checkSig
    verify "OP_CHECKSIGVERIFY"

/-- The procedures of the operations. -/
def ofOperation : Operation → Procedure Unit
  | .onTop r => ofTopOp r
  | .toAlt => do
    let x ← takeTop
    onAlt (Stack.push (.item x))
  | .fromAlt => do
    onAlt fun s => (Stack.checkHeight (.ofNat 1) (.item (.text "OP_FROMALTSTACK")) s, s)
    let x ← onAlt Stack.pop
    put x
  | .depth => do
    let n ← height
    put (.number n)
  | .abandon => fail .abandoned

end Procedure

/-! ### What the uses of a stack ask for -/

namespace Stack

variable {xs : List Item} {s : Stack} {n : Nat}

theorem checkHeight_of_le (operation : Value) (h : n ≤ s.length) :
    checkHeight (.ofNat n) operation s = .ok () := by
  have hnot : ¬ (s.length : Int) < n := by omega
  rw [checkHeight, Value.ofNat, Value.isAbove_number, decide_eq_false hnot]

/-- A stack that is too low says so.  The numbers in the text have one digit, and so a text. -/
theorem checkHeight_of_lt (name : Text) (h : s.length < n) (hn : n < 10) :
    checkHeight (.ofNat n) (.item (.text name)) s =
      .error (.shortage (Failure.underflow n s.length name).message) := by
  have hshown : ∀ {m : Nat}, m < 10 → decimalText? m = some (decimalText m) := by
    intro m hm
    have hlength : (digitsText 10 m).length ≤ 1 :=
      (length_digitsText_le_iff (by decide) (by decide)).2 hm
    exact if_pos (Nat.le_trans hlength (by decide))
  have htext := Value.shortageText_ofNat name (hshown hn) (hshown (Nat.lt_trans h hn))
  have hlt : (s.length : Int) < n := by omega
  rw [checkHeight, htext, Value.ofNat, Value.isAbove_number, decide_eq_true hlt]

theorem checkHeight_absent (required : Value) (s : Stack) :
    checkHeight required .absent s = checkHeight required (.item (.text [])) s := rfl

theorem popMany_append (h : xs.length = n) : popMany (.ofNat n) (xs ++ s) = (.ok xs, s) := by
  subst h
  have hle : xs.length ≤ (xs ++ s).length := by simp
  rw [popMany, checkHeight_of_le .absent hle]
  simp [Value.ofNat, Value.count]

theorem popMany_of_lt (h : s.length < n) (hn : n < 10) :
    popMany (.ofNat n) s = (.error (.shortage (Failure.underflow n s.length []).message), s) := by
  rw [popMany, checkHeight_absent, checkHeight_of_lt [] h hn]

theorem peek_append {x : Item} (h : xs.length = n) : peek (.ofNat n) (xs ++ x :: s) = .ok x := by
  subst h
  have hnext : (Value.ofNat xs.length).next = .ok (.ofNat (xs.length + 1)) := rfl
  have hle : xs.length + 1 ≤ (xs ++ x :: s).length := by simp
  simp only [peek, hnext, checkHeight_of_le .absent hle]
  simp [Value.ofNat, Value.count, itemAt]

/-- The item at a depth is asked for together with all items above it. -/
theorem peek_of_lt (h : s.length < n + 1) (hn : n + 1 < 10) :
    peek (.ofNat n) s =
      .error (.shortage (Failure.underflow (n + 1) s.length []).message) := by
  have hnext : (Value.ofNat n).next = .ok (.ofNat (n + 1)) := rfl
  simp only [peek, hnext, checkHeight_absent, checkHeight_of_lt [] h hn]

theorem pushAll_items (xs : List Item) (s : Stack) :
    pushAll (xs.map .item) s = (.ok (), xs.reverse ++ s) := by
  induction xs generalizing s with
  | nil => rfl
  | cons x xs ih => simp [pushAll, push, ih]

end Stack

/-- A fault as a stack puts it: of a shortage there are only the words. -/
def Fault.worded : Fault → Fault
  | .failure (.underflow required found operation) =>
    .shortage (Failure.underflow required found operation).message
  | e => e

namespace Procedure

/-- The outcome of a call, with its fault as a stack puts it. -/
def worded (r : Except Fault Unit × Stacks) : Except Fault Unit × Stacks :=
  (r.1.mapError Fault.worded, r.2)

/-! ### Procedures that find too few items -/

section

variable {α β : Type} {p : Procedure α} {f : α → Procedure β} {s s' : Stacks}

theorem bind_of_ok {x : α} (h : p.run s = (.ok x, s')) :
    (p >>= f).run s = (f x).run s' := by
  simp only [bind, h]

theorem bind_of_error {e : Fault} (h : p.run s = (.error e, s')) :
    (p >>= f).run s = (.error e, s') := by
  simp only [bind, h]

/-- Where there are fewer than `n` items, the procedure says that they are missing, and changes
nothing. -/
def Lacks (p : Procedure α) (n : Nat) : Prop :=
  ∀ s : Stacks, s.main.length < n → ∃ e, p.run s = (.error e, s) ∧
    e.worded = .shortage (Failure.underflow n s.main.length []).message

/-- What is missing at the beginning of a procedure is missing to the whole of it. -/
theorem Lacks.bind {n : Nat} (h : p.Lacks n) (f : α → Procedure β) : (p >>= f).Lacks n := by
  intro s hs
  obtain ⟨e, hp, he⟩ := h s hs
  exact ⟨e, bind_of_error hp, he⟩

theorem lacks_zero (p : Procedure α) : p.Lacks 0 :=
  fun _ h => absurd h (Nat.not_lt_zero _)

end

theorem lacks_take {n : Nat} (hn : n < 10) : (take n).Lacks n := by
  intro s h
  refine ⟨.shortage (Failure.underflow n s.main.length []).message, ?_, rfl⟩
  simp only [take, onMain, Stack.popMany_of_lt h hn]

theorem lacks_takeTop : takeTop.Lacks 1 := by
  rintro ⟨_ | ⟨x, main⟩, alt⟩ h
  · exact ⟨_, rfl, rfl⟩
  · simp at h

theorem lacks_takeNumber : takeNumber.Lacks 1 := by
  rintro ⟨_ | ⟨x, main⟩, alt⟩ h
  · exact ⟨_, rfl, rfl⟩
  · simp at h

theorem lacks_look {depth : Nat} (hn : depth + 1 < 10) : (look depth).Lacks (depth + 1) := by
  intro s h
  refine ⟨.shortage (Failure.underflow (depth + 1) s.main.length []).message, ?_, rfl⟩
  simp only [look, onMain, Stack.peek_of_lt h hn]

theorem lacks_equal : equal.Lacks 2 := (lacks_take (by decide)).bind _

theorem lacks_checkSig : checkSig.Lacks 2 := (lacks_take (by decide)).bind _

theorem lacks_binary (f : Binary) : (binary f).Lacks 2 := ((lacks_take (by decide)).bind _).bind _

/-- **A procedure asks first for all operands of its rule.**  Only the one that duplicates a true
item asks for none. -/
theorem lacks_ofTopOp {r : TopOp} (hr : r ≠ .ifDup) : (ofTopOp r).Lacks r.rule.arity := by
  cases r with
  | push n => exact lacks_zero _
  | nop => exact lacks_zero _
  | drop => exact lacks_takeTop.bind _
  | verify => exact lacks_takeTop.bind _
  | hash f => exact lacks_takeTop.bind _
  | unary f => exact lacks_takeNumber.bind _
  | dup | over1 | size => exact (lacks_look (by decide)).bind _
  | drop2 | dup2 | dup3 | over2 | swap | swap2 | rot | nip | tuck | within =>
      exact (lacks_take (by decide)).bind _
  | equal => exact lacks_equal
  | binary f => exact lacks_binary f
  | checkSig => exact lacks_checkSig
  -- what the other procedure asks for is all that is asked for: the item to verify comes from it
  | equalVerify => exact lacks_equal.bind _
  | numEqualVerify => exact (lacks_binary .equal).bind _
  | checkSigVerify => exact lacks_checkSig.bind _
  | ifDup => exact absurd rfl hr

/-! ### Procedures that find their operands -/

/-- What a procedure makes of the items on top: it puts others in their place, or fails and puts
nothing there.  It changes nothing else. -/
def Makes (p : Procedure Unit) (xs : List Item) (x : Replacement) : Prop :=
  ∀ below alt : Stack, p.run ⟨xs ++ below, alt⟩ =
    match x with
    | .ok items => (.ok (), ⟨items ++ below, alt⟩)
    | .error f => (.error (.failure f), ⟨below, alt⟩)

section

variable {p q : Procedure Unit} {xs ys : List Item} {x : Replacement}

theorem Makes.andThen (hp : p.Makes xs (.ok ys)) (hq : q.Makes ys x) :
    (p >>= fun _ => q).Makes xs x := by
  intro below alt
  rw [bind_of_ok (hp below alt)]
  exact hq below alt

theorem Makes.andThen_of_error {e : Failure} (hp : p.Makes xs (.error e)) (q : Procedure Unit) :
    (p >>= fun _ => q).Makes xs (.error e) :=
  fun below alt => bind_of_error (hp below alt)

theorem makes_put (xs : List Item) (x : Item) : (put x).Makes xs (.ok (x :: xs)) :=
  fun _ _ => rfl

theorem makes_putAll (xs : List Item) : (putAll xs).Makes [] (.ok xs.reverse) := by
  intro below alt
  simp only [putAll, onMain, Stack.pushAll_items, List.nil_append]

theorem makes_putTruth (b : Bool) : (putTruth b).Makes [] (.ok [.ofTruth b]) := by
  intro below alt
  cases b <;> rfl

theorem take_append {n : Nat} (xs : List Item) (h : xs.length = n) (below alt : Stack) :
    (take n).run ⟨xs ++ below, alt⟩ = (.ok xs, ⟨below, alt⟩) := by
  simp only [take, onMain, Stack.popMany_append h]

theorem makes_take {n : Nat} {f : List Item → Procedure Unit} (h : xs.length = n)
    (hf : (f xs).Makes [] x) : (take n >>= f).Makes xs x := by
  intro below alt
  rw [bind_of_ok (take_append xs h below alt)]
  exact hf below alt

theorem makes_look {n : Nat} {y : Item} {f : Item → Procedure Unit} (xs : List Item)
    (h : xs.length = n) (hf : (f y).Makes (xs ++ [y]) x) :
    (look n >>= f).Makes (xs ++ [y]) x := by
  intro below alt
  have hlook : (look n).run ⟨xs ++ [y] ++ below, alt⟩ = (.ok y, ⟨xs ++ [y] ++ below, alt⟩) := by
    simp only [List.append_assoc, List.singleton_append, look, onMain, Stack.peek_append h]
  rw [bind_of_ok hlook]
  exact hf below alt

end

theorem makes_verify (operation : Text) (x : Item) :
    (verify operation).Makes [x] (TopOp.verified x.isTrue operation) := by
  intro below alt
  show (if x.isTrue then (pure () : Procedure Unit) else fail (.unverified operation)).run
    ⟨below, alt⟩ = _
  cases x.isTrue <;> rfl

theorem makes_equal (a b : Item) : equal.Makes [a, b] (.ok [.ofTruth (a.equal b)]) :=
  makes_take rfl (makes_putTruth _)

theorem makes_checkSig (a b : Item) : checkSig.Makes [a, b] (.ok [.number 1]) :=
  makes_take rfl (makes_put _ _)

/-! #### Operands that are read as numbers -/

section

variable {a b : Item}

theorem number_of_ok {n : Int} (h : a.toNumber = .ok n) (s : Stacks) :
    (number a).run s = (.ok n, s) := by
  simp only [number, result, Value.toNumber, h]

theorem number_of_error {e : Failure} (h : a.toNumber = .error e) (s : Stacks) :
    (number a).run s = (.error (.failure e), s) := by
  simp only [number, result, Value.toNumber, h]

theorem makes_number_of_ok {n : Int} {f : Int → Procedure Unit} {x : Replacement}
    (h : a.toNumber = .ok n) (hf : (f n).Makes [] x) : (number a >>= f).Makes [] x := by
  intro below alt
  rw [bind_of_ok (number_of_ok h _)]
  exact hf below alt

theorem makes_number_of_error {e : Failure} (h : a.toNumber = .error e)
    (f : Int → Procedure Unit) : (number a >>= f).Makes [] (.error e) :=
  fun _ _ => bind_of_error (number_of_error h _)

/-- Both items are gone, whether they are numbers or not. -/
theorem takeNumbers_append (a b : Item) (below alt : Stack) :
    takeNumbers.run ⟨[a, b] ++ below, alt⟩ =
      ((TopOp.numbers a b).mapError .failure, ⟨below, alt⟩) := by
  have htake : (take 2).run ⟨[a, b] ++ below, alt⟩ = (.ok [a, b], ⟨below, alt⟩) :=
    take_append [a, b] rfl below alt
  rw [takeNumbers, bind_of_ok htake]
  dsimp only [TopOp.numbers]
  cases ha : a.toNumber with
  | error e => exact bind_of_error (number_of_error ha _)
  | ok n =>
      refine (bind_of_ok (number_of_ok ha _)).trans ?_
      cases hb : b.toNumber with
      | error e => exact bind_of_error (number_of_error hb _)
      | ok m => exact bind_of_ok (number_of_ok hb _)

theorem makes_binary (f : Binary) (a b : Item) :
    (binary f).Makes [a, b] (TopOp.onNumbers f.eval a b) := by
  intro below alt
  have htake := takeNumbers_append a b below alt
  rw [TopOp.onNumbers]
  cases hab : TopOp.numbers a b with
  | error e =>
      rw [hab] at htake
      exact bind_of_error htake
  | ok p =>
      rw [hab] at htake
      exact bind_of_ok htake

theorem makes_unary (f : Unary) (a : Item) :
    (ofTopOp (.unary f)).Makes [a] (TopOp.onNumber f.eval a) := by
  intro below alt
  have htake : takeNumber.run ⟨a :: below, alt⟩ = (a.toNumber.mapError .failure, ⟨below, alt⟩) := by
    cases ha : a.toNumber <;> simp only [takeNumber, onMain, Stack.popNumber, Stack.pop, ha] <;> rfl
  rw [TopOp.onNumber]
  cases ha : a.toNumber with
  | error e =>
      rw [ha] at htake
      exact bind_of_error htake
  | ok n =>
      rw [ha] at htake
      exact bind_of_ok htake

end

/-- **A procedure that finds its operands does what its rule says.** -/
theorem ensures_makes (r : TopOp) : r.rule.Ensures (ofTopOp r).Makes := by
  cases r with
  | push n => exact makes_put [] _
  | nop => exact fun _ _ => rfl
  | drop => exact fun _ _ _ => rfl
  | drop2 => exact fun _ _ => makes_take rfl fun _ _ => rfl
  | dup | size => exact fun _ => makes_look [] rfl (makes_put _ _)
  | over1 => exact fun a _ => makes_look [a] rfl (makes_put _ _)
  | dup2 | swap | tuck => exact fun _ _ => makes_take rfl (makes_putAll _)
  | dup3 | rot => exact fun _ _ _ => makes_take rfl (makes_putAll _)
  | over2 | swap2 => exact fun _ _ _ _ => makes_take rfl (makes_putAll _)
  | nip => exact fun _ _ => makes_take rfl (makes_put _ _)
  | ifDup =>
      intro a below alt
      show (if a.isTrue then onMain (Stack.push (.item a)) else (pure () : Procedure Unit)).run
        ⟨a :: below, alt⟩ = _
      dsimp only
      cases a.isTrue <;> rfl
  | hash f => exact fun _ _ _ => rfl
  | unary f => exact makes_unary f
  | binary f => exact makes_binary f
  | within =>
      intro a b c
      refine makes_take rfl ?_
      -- the three items are read from the top down, so the first that is no number is complained of
      dsimp only
      cases ha : a.toNumber with
      | error e => exact makes_number_of_error ha _
      | ok hi =>
          refine makes_number_of_ok ha ?_
          rw [TopOp.numbers]
          cases hb : b.toNumber with
          | error e => exact makes_number_of_error hb _
          | ok lo =>
              refine makes_number_of_ok hb ?_
              cases hc : c.toNumber with
              | error e => exact makes_number_of_error hc _
              | ok x => exact makes_number_of_ok hc (makes_putTruth _)
  | verify => exact fun a => makes_verify _ a
  | equal => exact makes_equal
  | checkSig => exact makes_checkSig
  | equalVerify =>
      intro a b
      have h := (makes_equal a b).andThen (makes_verify "OP_EQUALVERIFY" _)
      rwa [Item.isTrue_ofTruth] at h
  | numEqualVerify =>
      intro a b
      have h := makes_binary .equal a b
      dsimp only
      rw [TopOp.onNumbers] at h
      cases hab : TopOp.numbers a b with
      | error e =>
          rw [hab] at h
          exact h.andThen_of_error _
      | ok p =>
          rw [hab] at h
          have hverify := h.andThen (makes_verify "OP_NUMEQUALVERIFY" _)
          rwa [Binary.eval, truth, ← Item.ofTruth, Item.isTrue_ofTruth] at hverify
  | checkSigVerify => exact fun a b => (makes_checkSig a b).andThen (makes_verify _ _)

/-! ### Procedures and operations -/

/-- **Procedures and operations agree** on all stacks: they succeed alike, complain alike, and leave
the same items behind. -/
theorem worded_ofOperation (o : Operation) (s : Stacks) :
    worded ((ofOperation o).run s) = worded (o.run s) := by
  cases o with
  | onTop r =>
      cases hres : r.rule.result? s.main with
      | none =>
          have hlt : s.main.length < r.rule.arity := (r.rule.result?_eq_none_iff s.main).1 hres
          rw [Operation.run_of_lt hlt]
          by_cases hr : r = .ifDup
          · subst hr
            obtain ⟨_ | ⟨x, main⟩, alt⟩ := s
            · rfl
            · simp [TopOp.rule, Rule.arity] at hlt
          · obtain ⟨e, hp, he⟩ := lacks_ofTopOp hr s hlt
            have hlack : e.worded = (Operation.lack (.onTop r) s.main.length).worded := by
              rw [he, Operation.lack, if_neg (by simpa using hr)]
              rfl
            rw [ofOperation, hp]
            exact congrArg (fun e => (Except.error e, s)) hlack
      | some y =>
          obtain ⟨x, rest⟩ := y
          obtain rfl := Rule.eq_drop_of_result? hres
          have hmakes := (ensures_makes r).of_result? hres (s.main.drop r.rule.arity) s.alt
          rw [List.take_append_drop] at hmakes
          rw [ofOperation, hmakes, Operation.run, hres]
          cases x <;> rfl
  | toAlt => obtain ⟨_ | ⟨x, main⟩, alt⟩ := s <;> rfl
  | fromAlt =>
      obtain ⟨main, _ | ⟨x, alt⟩⟩ := s
      · have hlt : List.length ([] : Stack) < 1 := Nat.zero_lt_one
        have hcheck := Stack.checkHeight_of_lt "OP_FROMALTSTACK" hlt (by decide)
        rw [ofOperation, bind_of_error (by simp only [onAlt, hcheck]; rfl)]
        rfl
      · have hle : 1 ≤ (x :: alt).length := by simp
        have hcheck := Stack.checkHeight_of_le (.item (.text "OP_FROMALTSTACK")) hle
        rw [ofOperation, bind_of_ok (by simp only [onAlt, hcheck]; rfl)]
        rfl
  | depth => rfl
  | abandon => rfl

end Procedure

end ScriptTutor
