/-!
# Options

The words of a command line are options, which have names and of which some take a value, and
operands. An option is written with two hyphens and its name, or with one hyphen and its letter;
letters may be written together. A value follows in the same word, or is the next word, which must
not look like an option then. After a word of two hyphens everything is an operand. No option occurs
twice. Words are read in their order: once one of them is wrong or asks for help, the words after it
play no part.
-/

namespace RecordFilter.CommandLine

inductive OptionName where
  | config
  | synonyms
  | verbose
  | input
  | sequential
  | request
  | help
  | version
deriving DecidableEq, Repr

namespace OptionName

def text : OptionName → String
  | config => "config"
  | synonyms => "synonyms"
  | verbose => "verbose"
  | input => "input"
  | sequential => "sequential"
  | request => "request"
  | help => "help"
  | version => "version"

def letter? : OptionName → Option Char
  | config => some 'c'
  | synonyms => some 's'
  | verbose => some 'v'
  | input => some 'i'
  | sequential => none
  | request => some 'r'
  | help => some 'h'
  | version => some 'V'

def takesValue : OptionName → Bool
  | verbose => false
  | sequential => false
  | help => false
  | version => false
  | _ => true

end OptionName

/-- Why words are not read to their end. -/
inductive Stop where
  | usage
  | help
  | version
deriving DecidableEq, Repr

/-- The options and operands read so far. An option without a value has the empty one. -/
structure Given where
  options : List (OptionName × String)
  operands : List String
deriving Repr

namespace Given

def empty : Given := ⟨[], []⟩

def value? (g : Given) (name : OptionName) : Option String := g.options.lookup name

def has (g : Given) (name : OptionName) : Bool := (g.value? name).isSome

/-- Adds an option that was not given before. Values are names of files, so none is empty. -/
def add (g : Given) (name : OptionName) (value : String) : Except Stop Given :=
  match name with
  | .help => .error .help
  | .version => .error .version
  | name =>
    if g.has name || (name.takesValue && value.isEmpty) then .error .usage
    else .ok { g with options := g.options ++ [(name, value)] }

def addOperands (most : Nat) (g : Given) (words : List String) : Except Stop Given :=
  if (g.operands ++ words).length ≤ most then .ok { g with operands := g.operands ++ words }
  else .error .usage

end Given

/-- What was read after a word of options, and the option that waits for the next word. -/
abbrev AfterWord := Given × Option OptionName

/-- The letters of a word after its hyphen. The first letter of an option with a value ends them. -/
def letters (known : List OptionName) (g : Given) : List Char → Except Stop AfterWord
  | [] => .ok (g, none)
  | c :: rest =>
    match known.find? fun n => n.letter? == some c with
    | none => .error .usage
    | some n =>
      if n.takesValue then
        match rest with
        | [] => .ok (g, some n)
        | '=' :: v => (g.add n (String.ofList v)).map fun g => (g, none)
        | v => (g.add n (String.ofList v)).map fun g => (g, none)
      else (g.add n "").bind fun g => letters known g rest

def longName (known : List OptionName) (g : Given) (s : List Char) : Except Stop AfterWord :=
  let (name, value) := s.span (· != '=')
  match known.find? fun n => n.text.toList == name with
  | none => .error .usage
  | some n =>
    match n.takesValue, value with
    | true, [] => .ok (g, some n)
    | true, _ :: v => (g.add n (String.ofList v)).map fun g => (g, none)
    | false, [] => (g.add n "").map fun g => (g, none)
    | false, _ => .error .usage

/-- Whether a word is no operand: a single hyphen is one. -/
def looksLikeOption (word : String) : Bool := word.front == '-' && word != "-"

def optionWord (known : List OptionName) (g : Given) (word : String) : Except Stop AfterWord :=
  match word.toList with
  | '-' :: '-' :: s => longName known g s
  | _ :: s => letters known g s
  | [] => .error .usage

/-- Reads words up to the first that is a command. It gives what was read, and the command with the
words after it. -/
def readWords (known : List OptionName) (commands : List String) (most : Nat) (g : Given) :
    List String → Except Stop (Given × Option (String × List String))
  | [] => .ok (g, none)
  | w :: rest =>
    if commands.contains w then .ok (g, some (w, rest))
    else if w = "--" then (g.addOperands most rest).map fun g => (g, none)
    else if looksLikeOption w then
      match optionWord known g w, rest with
      | .error e, _ => .error e
      | .ok (g, none), rest => readWords known commands most g rest
      | .ok (g, some n), v :: rest =>
        if looksLikeOption v then .error .usage
        else (g.add n v).bind fun g => readWords known commands most g rest
      | .ok (_, some _), [] => .error .usage
    else (g.addOperands most [w]).bind fun g => readWords known commands most g rest

end RecordFilter.CommandLine
