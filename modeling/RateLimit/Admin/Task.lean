import RateLimit.Text.Digit
import RateLimit.Text.Split

/-!
# The command line

`CommandLine.read` reads the arguments of the administration command: a task and,
for two of the three tasks, a policy and an identity. What begins with a hyphen is
an option, unless it is a number, holds a space or comes after `--`. There is only
the option for help, so `Argument.ofText` tells arguments apart by that.

The first double hyphen is no operand itself. Each operand takes the double hyphen
next to it; an operand that is nothing but a double hyphen of its own is an empty
list of words.
-/

namespace RateLimit.Admin

/-- What an administrator wants. -/
inductive Task where
  /-- To see the policies. -/
  | policies
  /-- To see the window of an identity. -/
  | inspect (policy identity : String)
  /-- To reset the window of an identity. -/
  | clear (policy identity : String)
  deriving DecidableEq, Repr

/-- What a command line asks for. -/
inductive CommandLine where
  | task (t : Task)
  | help
  | wrong
  deriving DecidableEq, Repr

/-- What an argument in front of the first double hyphen is. -/
inductive Argument where
  /-- It is no option. -/
  | operand
  /-- It asks for help. -/
  | help
  /-- It asks for help, and for something that help cannot give. -/
  | badHelp
  /-- It is an option that does not exist. -/
  | unknown
  deriving DecidableEq, Repr

namespace Argument

/-- Whether a character is a digit of any script. -/
def isDigit (c : Char) : Bool := (Text.decimalValue? c).isSome

/-- Whether a text is a number without a sign: digits, or a point and digits with or
without digits in front of it. -/
def isNumber (cs : List Char) : Bool :=
  match Text.splitFirst (· = '.') cs with
  | (whole, none) => !whole.isEmpty && whole.all isDigit
  | (whole, some fraction) =>
    whole.all isDigit && !fraction.isEmpty && fraction.all isDigit

/-- Whether an argument is a negative number. A line break may end it. -/
def isNegative (cs : List Char) : Bool :=
  match cs with
  | '-' :: number =>
    isNumber (if number.getLast? = some '\n' then number.dropLast else number)
  | _ => false

/-- What the letters behind `-h` ask for. The letter may be repeated; anything else
is too much. -/
def ofLetters (letters : List Char) : Argument :=
  if letters ≠ [] && letters.all (· = 'h') then .help else .badHelp

/-- What an argument with two hyphens is. The word for help may be cut short, but
nothing may be set equal to it. -/
def ofWord (cs : List Char) : Option Argument :=
  match Text.splitFirst (· = '=') cs with
  | (word, value) =>
    if word.isPrefixOf "--help".toList then
      some (if value.isNone then .help else .badHelp)
    else none

/-- What an argument is that does not ask for help. -/
def ofOther (cs : List Char) : Argument :=
  if isNegative cs || cs.contains ' ' then .operand else .unknown

/-- What an argument in front of the first double hyphen is. -/
def ofText (argument : String) : Argument :=
  match argument.toList with
  | ['-', 'h'] => .help
  | '-' :: 'h' :: '=' :: letters => ofLetters letters
  | '-' :: 'h' :: letters => ofLetters letters
  | '-' :: '-' :: word => (ofWord ('-' :: '-' :: word)).getD (ofOther ('-' :: '-' :: word))
  | '-' :: c :: rest => ofOther ('-' :: c :: rest)
  | _ => .operand

end Argument

namespace CommandLine

/-- The mark behind which nothing is an option. -/
def separator : String := "--"

/-- The options among arguments, in order. -/
def options (arguments : List String) : List Argument :=
  ((arguments.takeWhile (· ≠ separator)).map Argument.ofText).filter (· ≠ .operand)

/-- What options lead to, if they decide by themselves: help, if it comes before
help that is badly asked for. An unknown option is wrong in any case, but does not
keep a later one from giving help. -/
def decision? (given : List Argument) : Option CommandLine :=
  match given.find? (· ≠ .unknown) with
  | some .help => some .help
  | some _ => some .wrong
  | none => if given.isEmpty then none else some .wrong

/-- The text of an operand that is an empty list of words. -/
def noWords : String := "[]"

/-- The operand that a word makes when it is taken without a mark. -/
def loneOperand (word : String) : String := if word = separator then noWords else word

/-- The policy and the identity among arguments without options. -/
def operands? (arguments : List String) : Option (String × String) :=
  let before := arguments.takeWhile (· ≠ separator)
  match before, (arguments.dropWhile (· ≠ separator)).drop 1 with
  | [], [policy, identity] => some (policy, loneOperand identity)
  | [policy], [identity] => some (policy, loneOperand identity)
  | [policy, identity], [] => some (policy, identity)
  | _, _ => none

/-- Reads the arguments of a task for a policy and an identity. -/
def readPair (make : String → String → Task) (arguments : List String) : CommandLine :=
  match decision? (options arguments), operands? arguments with
  | some c, _ => c
  | none, some (policy, identity) => .task (make policy identity)
  | none, none => .wrong

/-- Reads the name of a task and its arguments. -/
def readTask (name : String) (arguments : List String) : CommandLine :=
  if name = "policies" then
    (decision? (options arguments)).getD
      (if arguments.isEmpty then .task .policies else .wrong)
  else if name = "inspect" then readPair .inspect arguments
  else if name = "clear" then readPair .clear arguments
  else .wrong

/-- Reads a command line. What comes before the name of the task must be options. -/
def read : List String → CommandLine
  | [] => .wrong
  | argument :: rest =>
    if argument = separator then .wrong
    else
      match Argument.ofText argument with
      | .operand => readTask argument rest
      | .help => .help
      | .badHelp => .wrong
      | .unknown =>
        match read rest with
        | .help => .help
        | _ => .wrong

end CommandLine

end RateLimit.Admin
