/-
**The challenges of the collection.**

Main definitions:

* `ScriptTutor.Challenge.collection` — all challenges, in order;
* `ScriptTutor.Challenge.find` — the challenge of an identifier.
-/

import ScriptTutor.Challenge.Basic
import ScriptTutor.Value.Quoted

set_option relaxedAutoImplicit false
set_option autoImplicit false

namespace ScriptTutor.Challenge

def num (n : Int) : Item := .number n

def op (name : Text) : Item := .text name

/-- A script, or a stack, as the author of a challenge writes it. -/
def script (xs : List Item) : Value := .tuple (xs.map .item)

def unlockChallenges : List Challenge :=
  [⟨"unlock-simple-add", "Unlock: Simple addition",
    "The locking script expects two numbers on the stack, adds them, and checks the result " ++
    "equals 8. Provide an unlocking script that pushes the correct two numbers.",
    .easy, .unlock (script [op "OP_ADD", num 8, op "OP_EQUAL"])⟩,
   ⟨"unlock-comparison", "Unlock: Comparison",
    "The locking script checks that the top two values are equal (OP_EQUAL). Push two equal " ++
    "values.",
    .easy, .unlock (script [op "OP_EQUAL"])⟩,
   ⟨"unlock-conditional", "Unlock: Conditional",
    "Non-zero runs the first branch (pushes 100), zero runs the else branch (pushes 200). " ++
    "Provide an unlocking script that leaves 100 on the stack.",
    .medium, .unlock (script [op "OP_IF", num 100, op "OP_ELSE", num 200, op "OP_ENDIF"])⟩,
   ⟨"easy-unlock-sum-20", "Unlock: Sum to 20",
    "The locking script adds two numbers and checks the result equals 20. Push two numbers " ++
    "that sum to 20.",
    .easy, .unlock (script [op "OP_ADD", num 20, op "OP_EQUAL"])⟩,
   ⟨"medium-unlock-sum-15", "Unlock: Sum to 15",
    "The locking script adds two numbers and checks the result equals 15. Push two numbers " ++
    "that sum to 15.",
    .medium, .unlock (script [op "OP_ADD", num 15, op "OP_EQUAL"])⟩,
   ⟨"medium-unlock-verify-add", "Unlock: Add then verify",
    "The locking script adds two numbers, runs OP_VERIFY (fails on 0) and then pushes 1. " ++
    "Push two numbers with a non-zero sum.",
    .medium, .unlock (script [op "OP_ADD", op "OP_VERIFY", num 1])⟩,
   ⟨"medium-unlock-dup-equal", "Unlock: Duplicate and equal",
    "The locking script duplicates the top value and checks both copies are equal. Push any " ++
    "single value.",
    .medium, .unlock (script [op "OP_DUP", op "OP_EQUAL"])⟩,
   ⟨"medium-unlock-else-200", "Unlock: Else branch",
    "Non-zero pushes 100, zero pushes 200. Provide an unlocking script that leaves 200 on " ++
    "the stack.",
    .medium, .unlock (script [op "OP_IF", num 100, op "OP_ELSE", num 200, op "OP_ENDIF"])⟩,
   ⟨"medium-unlock-negate", "Unlock: OP_NEGATE",
    "The locking script negates one number and checks the result equals -10.",
    .medium, .unlock (script [op "OP_NEGATE", num (-10), op "OP_EQUAL"])⟩,
   ⟨"hard-unlock-1sub-equal", "Unlock: OP_1SUB and equal",
    "The locking script subtracts 1 from one number and checks the result equals 4.",
    .hard, .unlock (script [op "OP_1SUB", num 4, op "OP_EQUAL"])⟩,
   ⟨"hard-unlock-three-add", "Unlock: Three numbers, sum check",
    "The locking script expects three numbers c, a, b (b on top). It adds a and b and checks " ++
    "the sum equals c.",
    .hard, .unlock (script [op "OP_ADD", op "OP_EQUAL"])⟩,
   ⟨"hard-unlock-2dup-add-equal", "Unlock: 2DUP add and equal",
    "The locking script duplicates the top two values, adds the copies and checks the sum " ++
    "equals the top original value. The bottom value must therefore be 0.",
    .hard, .unlock (script [op "OP_2DUP", op "OP_ADD", op "OP_EQUAL"])⟩,
   ⟨"hard-unlock-nested-if", "Unlock: Conditional with 42",
    "Non-zero pushes 42, zero pushes 99. Leave 42 on the stack.",
    .hard, .unlock (script [op "OP_IF", num 42, op "OP_ELSE", num 99, op "OP_ENDIF"])⟩,
   ⟨"hard-unlock-sub-equal", "Unlock: Subtraction check",
    "The locking script computes a - b (b on top) and checks the result equals 5.",
    .hard, .unlock (script [op "OP_SUB", num 5, op "OP_EQUAL"])⟩]

def outcomeChallenges : List Challenge :=
  [⟨"match-valid-one", "Match: Script must validate",
    "Build an unlocking and a locking script that together leave a non-zero value on top of " ++
    "the stack.",
    .easy, .outcome none []⟩,
   ⟨"match-final-stack", "Match: Final stack [1]",
    "Build scripts so that execution ends with exactly one value on the stack: 1.",
    .medium, .outcome (some (script [num 1])) []⟩,
   ⟨"match-add-equal", "Match: Add and equal",
    "Build scripts that push two numbers, add them, and check the result equals a constant.",
    .easy, .outcome none ["OP_ADD", "OP_EQUAL"]⟩,
   ⟨"medium-match-final-5", "Match: Final stack [5]",
    "Build scripts so execution ends with exactly one value on the stack: 5.",
    .medium, .outcome (some (script [num 5])) []⟩,
   ⟨"medium-match-two-values", "Match: Final stack [1, 2]",
    "Build scripts so the final stack holds exactly two values: 1 at the bottom and 2 on top.",
    .medium, .outcome (some (script [num 1, num 2])) []⟩,
   ⟨"medium-match-abs", "Match: Final stack using OP_ABS",
    "Push a negative number and run OP_ABS so that exactly one value, 5, is left on the " ++
    "stack.",
    .medium, .outcome (some (script [num 5])) ["OP_ABS"]⟩,
   ⟨"hard-match-three-values", "Match: Final stack [3, 2, 1]",
    "Build scripts so the final stack holds exactly three values: 3 at the bottom, then 2, " ++
    "then 1 on top.",
    .hard, .outcome (some (script [num 3, num 2, num 1])) []⟩,
   ⟨"hard-match-rot", "Match: Use OP_ROT",
    "Push three numbers and run OP_ROT, then leave exactly one value on the stack: 1.",
    .hard, .outcome (some (script [num 1])) ["OP_ROT"]⟩,
   ⟨"hard-match-over-equal", "Match: OP_OVER and OP_EQUAL",
    "Build scripts that use OP_OVER and OP_EQUAL and validate.",
    .hard, .outcome none ["OP_OVER", "OP_EQUAL"]⟩,
   ⟨"hard-match-2dup", "Match: Final stack using 2DUP",
    "Use OP_2DUP and leave exactly two identical values on the stack: [7, 7].",
    .hard, .outcome (some (script [num 7, num 7])) ["OP_2DUP"]⟩]

def traceChallenges : List Challenge :=
  [⟨"trace-stack-after-step", "Trace: Stack after second push",
    "The script pushes 5, then 3, then runs OP_ADD. What is on the stack after step 1?",
    .easy, .trace (script [num 5, num 3])
      (script [op "OP_ADD"])
      (.stackAfter (.item (num 1))) (script [num 5, num 3])⟩,
   ⟨"trace-invalid", "Trace: Invalid script",
    "Determine whether this script validates. It uses OP_VERIFY with zero.",
    .easy, .trace (script [num 0])
      (script [op "OP_VERIFY", num 1])
      .validity (.item (.flag false))⟩,
   ⟨"easy-trace-add-result", "Trace: Stack after OP_ADD",
    "The script pushes 7 and 4, then runs OP_ADD. What is on the stack after step 2?",
    .easy, .trace (script [num 7, num 4])
      (script [op "OP_ADD"])
      (.stackAfter (.item (num 2))) (script [num 11])⟩,
   ⟨"easy-trace-conditional", "Trace: Conditional valid?",
    "The script pushes 0, then OP_IF 1 OP_ELSE 2 OP_ENDIF. Does it validate?",
    .easy, .trace (script [num 0])
      (script [op "OP_IF", num 1, op "OP_ELSE", num 2, op "OP_ENDIF"])
      .validity (.item (.flag true))⟩,
   ⟨"easy-trace-empty-stack", "Trace: Stack after the first push",
    "The script pushes 1, then 2. What is on the stack after step 0?",
    .easy, .trace (script [num 1, num 2])
      (script [])
      (.stackAfter (.item (num 0))) (script [num 1])⟩,
   ⟨"medium-trace-step2", "Trace: Stack after the second push",
    "The script pushes 1, then 2, then runs OP_ADD. What is on the stack after step 1?",
    .medium, .trace (script [num 1, num 2])
      (script [op "OP_ADD"])
      (.stackAfter (.item (num 1))) (script [num 1, num 2])⟩,
   ⟨"medium-trace-swap", "Trace: Stack after OP_SWAP",
    "The script pushes 10, then 20, then runs OP_SWAP. What is on the stack after step 2?",
    .medium, .trace (script [num 10, num 20])
      (script [op "OP_SWAP"])
      (.stackAfter (.item (num 2))) (script [num 20, num 10])⟩,
   ⟨"hard-trace-nip", "Trace: Stack after OP_NIP",
    "The script pushes 10, then 20, then runs OP_NIP. What is on the stack after step 2?",
    .hard, .trace (script [num 10, num 20])
      (script [op "OP_NIP"])
      (.stackAfter (.item (num 2))) (script [num 20])⟩,
   ⟨"hard-trace-step3", "Trace: Stack after the third push",
    "The script pushes 2, 3, 4, then runs OP_ADD. What is on the stack after step 2?",
    .hard, .trace (script [num 2, num 3, num 4])
      (script [op "OP_ADD"])
      (.stackAfter (.item (num 2))) (script [num 2, num 3, num 4])⟩,
   ⟨"hard-trace-verify-conditional", "Trace: Verify then conditional",
    "The script pushes 1 and 1, runs OP_VERIFY, then OP_IF 1 OP_ELSE 0 OP_ENDIF. Does it " ++
    "validate?",
    .hard, .trace (script [num 1, num 1])
      (script [op "OP_VERIFY", op "OP_IF", num 1, op "OP_ELSE", num 0, op "OP_ENDIF"])
      .validity (.item (.flag true))⟩,
   ⟨"hard-trace-multi-step", "Trace: Multi-step arithmetic",
    "The script pushes 5 and 3, runs OP_ADD, pushes 2 and runs OP_SUB. What is on the stack " ++
    "after step 2?",
    .hard, .trace (script [num 5, num 3])
      (script [op "OP_ADD", num 2, op "OP_SUB"])
      (.stackAfter (.item (num 2))) (script [num 8])⟩]

def predictChallenges : List Challenge :=
  [⟨"predict-valid-simple", "Predict: Does it validate?",
    "Predict whether the combined script validates.",
    .easy, .predict (script [num 5, num 3])
      (script [op "OP_ADD", num 8, op "OP_EQUAL"]) (.item (.flag true))⟩,
   ⟨"predict-invalid", "Predict: Invalid script",
    "Predict whether the scripts validate. This one is designed to fail.",
    .easy, .predict (script [num 0])
      (script [op "OP_VERIFY", num 1]) (.item (.flag false))⟩,
   ⟨"predict-equal", "Predict: Equal check",
    "Two values are compared with OP_EQUAL. Does this script validate?",
    .easy, .predict (script [num 7, num 7])
      (script [op "OP_EQUAL"]) (.item (.flag true))⟩,
   ⟨"easy-predict-min", "Predict: OP_MIN result",
    "The script pushes 10 and 5, then runs OP_MIN. Does it validate?",
    .easy, .predict (script [num 10, num 5])
      (script [op "OP_MIN"]) (.item (.flag true))⟩,
   ⟨"easy-predict-lessthan", "Predict: OP_LESSTHAN",
    "The script pushes 3 and 7, then runs OP_LESSTHAN (1 if 3 < 7). Does it validate?",
    .easy, .predict (script [num 3, num 7])
      (script [op "OP_LESSTHAN"]) (.item (.flag true))⟩,
   ⟨"medium-predict-verify-invalid", "Predict: OP_VERIFY with zero",
    "The script pushes 0 then runs OP_VERIFY. Does it validate?",
    .medium, .predict (script [num 0])
      (script [op "OP_VERIFY", num 1]) (.item (.flag false))⟩,
   ⟨"medium-predict-max", "Predict: OP_MAX",
    "The script pushes 3 and 9, then runs OP_MAX. Does it validate?",
    .medium, .predict (script [num 3, num 9])
      (script [op "OP_MAX"]) (.item (.flag true))⟩,
   ⟨"medium-predict-1add", "Predict: OP_1ADD",
    "The script pushes 6, then runs OP_1ADD. Does it validate?",
    .medium, .predict (script [num 6])
      (script [op "OP_1ADD"]) (.item (.flag true))⟩,
   ⟨"hard-predict-conditional", "Predict: Conditional script",
    "The script pushes 1, then OP_IF 100 OP_ELSE 0 OP_ENDIF. Does it validate?",
    .hard, .predict (script [num 1])
      (script [op "OP_IF", num 100, op "OP_ELSE", num 0, op "OP_ENDIF"]) (.item (.flag true))⟩,
   ⟨"hard-predict-equalverify", "Predict: OP_EQUALVERIFY",
    "The script pushes two equal values, runs OP_EQUALVERIFY and pushes 1. Does it validate?",
    .hard, .predict (script [num 6, num 6])
      (script [op "OP_EQUALVERIFY", num 1]) (.item (.flag true))⟩]

def collection : List Challenge :=
  unlockChallenges ++ outcomeChallenges ++ traceChallenges ++ predictChallenges

/-- The challenge of an identifier, which has to be spelled as in the collection.  A value that
may still change identifies nothing. -/
def find (id : Value) : Except Fault Challenge :=
  match id with
  | .item (.text t) =>
    match collection.find? (·.id == t) with
    | some c => .ok c
    | none => .error (.unknownChallenge t)
  | v =>
    match v.checkKey, v.plain with
    | .ok (), .ok shown => .error (.unknownChallenge shown)
    | .error e, _ => .error e
    | _, .error e => .error e

end ScriptTutor.Challenge
