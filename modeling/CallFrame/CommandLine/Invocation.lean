import CallFrame.CommandLine.Item
import CallFrame.Report

/-! # Invocations

A command line names one of two commands. Options of the convention and the form of the output may
stand before the command and after it, on each side at most once, and those after it count.

* **`Invocation.ofItems?`** puts the items of a command line together, and
  **`Invocation.ofArguments?`** its arguments; neither gives anything for a misuse. -/

namespace CallFrame.CommandLine

/-- Commands with their operands. -/
inductive Command where
  /-- The frames for one text or more, each of which should be a signature. -/
  | frame (texts : List String)
  /-- The stack arguments for argument counts. -/
  | outArgs (floatingPoint integer : Word)
  deriving DecidableEq

/-- A command line that is no misuse. -/
structure Invocation where
  /-- How many floating-point arguments are passed in registers. -/
  floatingPointRegisters : Word
  /-- How many other arguments are passed in registers. -/
  integerRegisters : Word
  /-- The bytes of a word. -/
  wordSize : Word
  /-- The bytes that frames are aligned to. -/
  stackAlignment : Word
  /-- The form of the lines. -/
  format : Format
  /-- The command. -/
  command : Command
  deriving DecidableEq

/-- The command of a name, from the settings and the operands after it. -/
def Command.ofName? (name : String) (settings : List Setting) (operands : List String) :
    Option Command :=
  if name = "frame" then
    if settings.all Setting.isGlobal && !operands.isEmpty then some (.frame operands) else none
  else if name = "out-args" then
    if operands.isEmpty then
      some (.outArgs (Setting.numberOf settings .floatingPoint 0)
        (Setting.numberOf settings .integer 0))
    else none
  else none

namespace Invocation

/-- The invocation with these settings, of which the earlier ones count, and with this command.
What is not set is as in the standard convention. -/
def make (settings : List Setting) (command : Command) : Invocation where
  floatingPointRegisters := Setting.numberOf settings .floatingPointRegisters
    Convention.aapcs64.floatingPointRegisters
  integerRegisters := Setting.numberOf settings .integerRegisters
    Convention.aapcs64.integerRegisters
  wordSize := Setting.numberOf settings .wordSize Convention.aapcs64.wordSize
  stackAlignment := Setting.numberOf settings .stackAlignment Convention.aapcs64.stackAlignment
  format := if settings.contains .json then .json else .text
  command := command

/-- The invocation of a list of items. The first operand names the command, unless it stands after
the argument `--`. -/
def ofItems? (items : List Item) : Option Invocation :=
  let outer := (items.takeWhile (·.setting?.isSome)).filterMap Item.setting?
  match items.dropWhile (·.setting?.isSome) with
  | .operand name :: rest =>
      let inner := rest.filterMap Item.setting?
      if outer.all Setting.isGlobal && Setting.areDistinct outer && Setting.areDistinct inner then
        (Command.ofName? name inner (rest.filterMap Item.text?)).map (make (inner ++ outer))
      else none
  | _ => none

/-- The invocation of a command line. -/
def ofArguments? (arguments : List String) : Option Invocation :=
  (Item.ofArguments? arguments).bind ofItems?

/-- The convention of an invocation. -/
def convention? (invocation : Invocation) : Except ConventionError Convention :=
  Convention.make invocation.floatingPointRegisters invocation.integerRegisters
    invocation.wordSize invocation.stackAlignment

end Invocation

end CallFrame.CommandLine
