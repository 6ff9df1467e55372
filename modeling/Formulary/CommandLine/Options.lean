import Formulary.Decimal.Numeral
import Formulary.FileTree
import Formulary.Text.Resemblance
/-!
# Options

Arguments of a command are options and operands. An option has a long name; its value is the next
argument or stands behind an equals sign. Two dashes end the options, and a single dash is an operand.
-/

set_option autoImplicit false
namespace Formulary.CommandLine

/-- What values an option or operand takes. -/
inductive ValueKind where
  | text
  /-- A path that need not exist. -/
  | path
  | existingPath
  | directory
  | choice (names : List String)
  | integer
  deriving DecidableEq, Repr

structure OptionRule where
  name : String
  /-- What values it takes; a flag takes none. -/
  value : Option ValueKind
  summary : String
  deriving DecidableEq, Repr

structure OperandRule where
  name : String
  value : ValueKind
  deriving DecidableEq, Repr

/-- Why arguments are refused. -/
inductive UsageError where
  /-- An unknown option, and known ones that it resembles. -/
  | noSuchOption (name : String) (similar : List String)
  | valueMissing (name : String)
  | valueUnwanted (name : String)
  | noSuchCommand (name : String) (similar : List String)
  | commandMissing
  | operandMissing (name : String)
  /-- The value of an option or operand is refused. -/
  | invalidValue (name complaint : String)
  | extraOperands (operands : List String)
  deriving DecidableEq, Repr

namespace UsageError

/-- The names that may have been meant. -/
def suggestion : List String → String
  | [] => ""
  | [name] => " Did you mean " ++ Text.quoted name ++ "?"
  | names => " (Did you mean one of: " ++ ", ".intercalate (names.map Text.quoted) ++ "?)"

def message : UsageError → String
  | noSuchOption name similar =>
    "No such option " ++ Text.quoted name ++ "." ++ suggestion similar
  | valueMissing name => "Option " ++ Text.quoted name ++ " requires an argument."
  | valueUnwanted name => "Option " ++ Text.quoted name ++ " does not take a value."
  | noSuchCommand name similar =>
    "No such command " ++ Text.quoted name ++ "." ++ suggestion similar
  | commandMissing => "Missing command."
  | operandMissing name => "Missing argument '" ++ name ++ "'."
  | invalidValue name complaint => "Invalid value for '" ++ name ++ "': " ++ complaint
  | extraOperands [operand] => "Got unexpected extra argument (" ++ operand ++ ")"
  | extraOperands operands =>
    "Got unexpected extra arguments (" ++ " ".intercalate operands ++ ")"

/-- An option with a missing or unwanted value is reported without the usage of its command. -/
def showsUsage : UsageError → Bool
  | valueMissing _ | valueUnwanted _ => false
  | _ => true

end UsageError

/-- What stands at a path text. A text that ends with a slash or a point behind one is that of a
directory. -/
def entryAt? (t : FileTree) (s : String) : Option Entry :=
  if s.isEmpty then none
  else
    match t.entry? (Path.ofText s) with
    | some (.file text) =>
      match s.toList.reverse with
      | '/' :: _ | '.' :: '/' :: _ => none
      | _ => some (.file text)
    | e => e

/-- What is wrong with a value, if anything. -/
def ValueKind.complaint (t : FileTree) (s : String) : ValueKind → Option String
  | text | path => none
  | existingPath =>
    if (entryAt? t s).isSome then none else some ("Path " ++ Text.quoted s ++ " does not exist.")
  | directory =>
    match entryAt? t s with
    | some .directory => none
    | some (.file _) => some ("Directory " ++ Text.quoted s ++ " is a file.")
    | none => some ("Directory " ++ Text.quoted s ++ " does not exist.")
  | choice names =>
    if s ∈ names then none
    else some (Text.quoted s ++ " is not one of " ++ ", ".intercalate (names.map Text.quoted) ++ ".")
  | integer =>
    if (Numeral.readInt? s).isSome then none else some (Text.quoted s ++ " is not a valid integer.")

/-- Arguments that have been told apart. -/
structure Arguments where
  /-- The options in their order, each with its value; that of a flag is empty. -/
  options : List (OptionRule × String)
  operands : List String

namespace Arguments

def addOption (rule : OptionRule) (value : String) (a : Arguments) : Arguments :=
  { a with options := (rule, value) :: a.options }

def addOperand (operand : String) (a : Arguments) : Arguments :=
  { a with operands := operand :: a.operands }

/-- A dash and more. -/
def isOption (s : String) : Bool :=
  match s.toList with
  | '-' :: _ :: _ => true
  | _ => false

/-- The name of an option, and the value behind an equals sign. -/
def splitOption (s : String) : String × Option String :=
  let name := s.toList.takeWhile (· != '=')
  (String.ofList name,
    match s.toList.drop name.length with
    | [] => none
    | _ :: value => some (String.ofList value))

/-- An option with a single dash is known by one letter; no option has a name of that form. -/
def unknownOption (rules : List OptionRule) (s : String) : UsageError :=
  match s.toList with
  | '-' :: '-' :: _ =>
    let name := (splitOption s).1
    .noSuchOption name (Text.closeNames name (rules.map OptionRule.name))
  | cs => .noSuchOption (String.ofList (cs.take 2)) []

/-- Tells options and operands apart. Unless options may stand behind operands, everything behind the
first operand is one. -/
def ofList (rules : List OptionRule) (mixed : Bool) : List String → Except UsageError Arguments
  | [] => .ok ⟨[], []⟩
  | a :: rest =>
    if a = "--" then .ok ⟨[], rest⟩
    else if isOption a then
      let (name, given) := splitOption a
      match rules.find? (·.name == name) with
      | none => .error (unknownOption rules a)
      | some rule =>
        match rule.value, given with
        | none, none => (ofList rules mixed rest).map (addOption rule "")
        | none, some _ => .error (.valueUnwanted name)
        | some _, some value => (ofList rules mixed rest).map (addOption rule value)
        | some _, none =>
          match rest with
          | [] => .error (.valueMissing name)
          | value :: rest => (ofList rules mixed rest).map (addOption rule value)
    else if mixed then (ofList rules mixed rest).map (addOperand a)
    else .ok ⟨[], a :: rest⟩

/-- The values of an option, in their order. -/
def values (a : Arguments) (name : String) : List String :=
  (a.options.filter (·.1.name == name)).map Prod.snd

/-- The value of an option; the last one counts. -/
def value? (a : Arguments) (name : String) : Option String := (a.values name).getLast?

def has (a : Arguments) (name : String) : Bool := !(a.values name).isEmpty

/-- The first of the given options that occurs. -/
def first? (a : Arguments) (names : List String) : Option String :=
  (a.options.map (·.1.name)).find? (· ∈ names)

/-- The first option whose value is refused, in the order in which the options first occur. -/
def optionFault (t : FileTree) (a : Arguments) : Option UsageError :=
  a.options.findSome? fun (rule, _) => do
    let complaint ← (← rule.value).complaint t (← a.value? rule.name)
    some (.invalidValue rule.name complaint)

/-- What is wrong with the operands, if anything. -/
def operandFault (t : FileTree) (a : Arguments) (rule : Option OperandRule) : Option UsageError :=
  match rule, a.operands with
  | none, [] => none
  | none, extra => some (.extraOperands extra)
  | some rule, [] => some (.operandMissing rule.name)
  | some rule, operand :: extra =>
    match rule.value.complaint t operand with
    | some complaint => some (.invalidValue rule.name complaint)
    | none => if extra.isEmpty then none else some (.extraOperands extra)

end Arguments
end Formulary.CommandLine
