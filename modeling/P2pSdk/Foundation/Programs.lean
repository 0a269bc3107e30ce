import Mathlib.Data.List.Basic

namespace P2pSdk
namespace Foundation

universe u v w

/-!
# While programs and a discipline on their acts

A program is built from acts by sequence, choice and loop.  A thread runs a
stack of programs: `move` takes apart the one on top, until an act is on top.
What an act does is left to the system that performs it.

A discipline says in which contexts an act may be performed and which context
it leaves.  `check` follows it through a program.  A program that passes
once passes while it runs: every move, and every act, leaves a stack that
passes in the context reached.
-/

/-- A program over tests and acts. -/
inductive Program (Test : Type u) (Act : Type v)
  | skip
  | act (act : Act)
  | seq (first second : Program Test Act)
  | ifElse (test : Test) (yes no : Program Test Act)
  | whilst (test : Test) (body : Program Test Act)

namespace Program

variable {Test : Type u} {Act : Type v} {Context : Type w}

/-- One program after the other. -/
def block : List (Program Test Act) -> Program Test Act
  | [] => skip
  | [program] => program
  | program :: next :: rest => seq program (block (next :: rest))

/-- One of the programs, `test` deciding at each. -/
def oneOf (test : Test) : List (Program Test Act) -> Program Test Act
  | [] => skip
  | [program] => program
  | program :: next :: rest => ifElse test program (oneOf test (next :: rest))

/-- The act on top of a stack. -/
def next : List (Program Test Act) -> Option Act
  | act a :: _ => some a
  | _ => none

/-- Take apart the program on top of a stack. -/
def move (holds : Test -> Bool) : List (Program Test Act) -> Option (List (Program Test Act))
  | [] => none
  | skip :: rest => some rest
  | act _ :: _ => none
  | seq first second :: rest => some (first :: second :: rest)
  | ifElse test yes no :: rest => some ((if holds test then yes else no) :: rest)
  | whilst test body :: rest =>
      some (if holds test then body :: whilst test body :: rest else rest)

theorem eq_cons_of_next {stack : List (Program Test Act)} {a : Act} (found : next stack = some a) :
    stack = act a :: stack.tail := by
  match stack, found with
  | act _ :: _, rfl => rfl

section Discipline

variable [DecidableEq Context] (rule : Context -> Act -> Option Context)

/-- The context in which a program ends, where the discipline allows it. -/
def check : Program Test Act -> Context -> Option Context
  | skip, context => some context
  | act a, context => rule context a
  | seq first second, context => (check first context).bind (check second)
  | ifElse _ yes no, context =>
      if check yes context = check no context then check yes context else none
  | whilst _ body, context => if check body context = some context then some context else none

/-- The same for a stack of programs. -/
def checkAll : List (Program Test Act) -> Context -> Option Context
  | [], context => some context
  | program :: rest, context => (check rule program context).bind (checkAll rest)

variable {rule}

theorem checkAll_append (stack rest : List (Program Test Act)) (context : Context) :
    checkAll rule (stack ++ rest) context = (checkAll rule stack context).bind (checkAll rule rest) := by
  induction stack generalizing context with
  | nil => rfl
  | cons program stack ih =>
      rw [List.cons_append, checkAll, checkAll, Option.bind_assoc]
      exact congrArg _ (funext ih)

/-- A move keeps what a stack passes. -/
theorem checkAll_move {holds : Test -> Bool} {stack moved : List (Program Test Act)}
    {context final : Context} (passes : checkAll rule stack context = some final)
    (moves : move holds stack = some moved) : checkAll rule moved context = some final := by
  match stack, moves with
  | skip :: rest, rfl => exact passes
  | seq first second :: rest, rfl =>
      rw [checkAll, check, Option.bind_assoc] at passes
      exact passes
  | ifElse test yes no :: rest, rfl =>
      rw [checkAll, check] at passes
      split_ifs at passes with same
      · rw [checkAll]
        cases holds test with
        | true => exact passes
        | false =>
            rw [same] at passes
            exact passes
      · cases passes
  | whilst test body :: rest, rfl =>
      rw [checkAll, check] at passes
      split_ifs at passes with kept
      · cases holds test with
        | true =>
            simp only [checkAll, check, kept, if_pos, Option.bind_some]
            exact passes
        | false => exact passes
      · cases passes

/-- An act on top is allowed, and the rest passes in the context it leaves. -/
theorem checkAll_act {a : Act} {rest : List (Program Test Act)} {context final : Context}
    (passes : checkAll rule (act a :: rest) context = some final) :
    exists reached, rule context a = some reached ∧ checkAll rule rest reached = some final :=
  Option.bind_eq_some_iff.mp passes

end Discipline

end Program

end Foundation
end P2pSdk
