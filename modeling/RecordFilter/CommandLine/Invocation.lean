import RecordFilter.CommandLine.Options

/-!
# Invocations

An invocation is one command with its operands and options. The options for all commands may stand
before the command or after it; after it they count over those before. Instead of an invocation,
words may ask for help, on a command too, or for the version.
-/

namespace RecordFilter.CommandLine

inductive Command where
  | parse (filter : String)
  /-- the text comes from standard input if there is none -/
  | text (filter : String) (text : Option String)
  | records (filter source : String) (sequential : Bool)
  | debug (source : String)
deriving DecidableEq, Repr

structure Invocation where
  config : Option String
  synonyms : Option String
  verbose : Bool
  command : Command
deriving DecidableEq, Repr

def standardInput : String := "-"

/-- Whether a path is that of standard input; parts behind it that lead nowhere do not count. -/
def isStandardInput (path : String) : Bool :=
  match path.toList.splitOn '/' with
  | first :: rest =>
    first == standardInput.toList && rest.all fun part => part == [] || part == ['.']
  | [] => false

/-- How a command is written: its options besides those for all commands, and how many operands it
takes at most. -/
structure CommandForm where
  name : String
  options : List OptionName
  operands : Nat

def commonOptions : List OptionName := [.config, .synonyms, .verbose, .help]

def commandForms : List CommandForm :=
  [⟨"parse", [], 1⟩, ⟨"text", [], 2⟩, ⟨"records", [.input, .sequential], 1⟩,
    ⟨"debug", [.request], 0⟩]

def commandNames : List String := commandForms.map CommandForm.name

def helpCommand : String := "help"

/-- What the command for help comes to with the words after it, at most one of them a command. -/
def helpOn : List String → Stop
  | [] => .help
  | [name] => if (helpCommand :: commandNames).contains name then .help else .usage
  | _ => .usage

namespace Command

def ofGiven? (name : String) (g : Given) : Option Command :=
  match name, g.operands with
  | "parse", [filter] => some (parse filter)
  | "text", [filter] => some (text filter none)
  | "text", [filter, t] => some (text filter (some t))
  | "records", [filter] =>
    some (records filter ((g.value? .input).getD standardInput) (g.has .sequential))
  | "debug", [] => some (debug ((g.value? .request).getD standardInput))
  | _, _ => none

def source? : Command → Option String
  | parse _ => none
  | text _ none => some standardInput
  | text _ (some _) => none
  | records _ source _ => some source
  | debug source => some source

end Command

namespace Invocation

def ofWords (line : List String) : Except Stop Invocation :=
  match readWords (.version :: commonOptions) (helpCommand :: commandNames) 0 .empty line with
  | .error e => .error e
  | .ok (_, none) => .error .usage
  | .ok (outer, some (name, rest)) =>
    match commandForms.find? fun form => form.name == name with
    | none => .error (helpOn rest)
    | some form =>
      match readWords (commonOptions ++ form.options) [] form.operands .empty rest with
      | .error e => .error e
      | .ok (inner, _) =>
        let value? (n : OptionName) := (inner.value? n).orElse fun _ => outer.value? n
        match Command.ofGiven? name inner with
        | none => .error .usage
        | some command =>
          .ok ⟨value? .config, value? .synonyms, (value? .verbose).isSome, command⟩

end Invocation

end RecordFilter.CommandLine
