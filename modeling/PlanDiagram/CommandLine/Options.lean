import PlanDiagram.Text.Digit

/-!
# Options of the command line

The command line names a source and gives options. A long option may be cut short as long as it is
clear which one is meant, and a value may be joined to its option. A word that could be an option
but is unknown, and a second source, are refused when all words have been read; every other mistake
is refused at once, and so is a request for help.
-/

namespace PlanDiagram.CommandLine

/-- What a source is converted to. -/
inductive Mode where
  | graph
  | mind
deriving DecidableEq, Repr

/-- The mode with the given name. -/
def Mode.ofName? : String → Option Mode
  | "graph" => some .graph
  | "mind" => some .mind
  | _ => none

/-- The options that the words of a command line choose. -/
structure Options where
  source : String := "examples/robot-domain.pddl"
  mode : Mode := .graph
  config : Option String := none
  output : Option String := none
  logLevel : String := "WARNING"
deriving DecidableEq, Repr

/-- Why a command line is not carried out. -/
inductive Refusal where
  | help
  | usage
deriving DecidableEq, Repr

/-- The status with which the program ends. -/
def Refusal.exit : Refusal → Nat
  | .help => 0
  | .usage => 2

/-- The options. -/
inductive Key where
  | help
  | mode
  | config
  | output
  | logLevel
deriving DecidableEq, Repr

/-- The long names of the options. -/
def longNames : List (String × Key) := [
  ("--help", .help), ("--mode", .mode), ("--config", .config), ("--output", .output),
  ("--log-level", .logLevel)]

/-- The short names of the options. -/
def shortNames : List (Char × Key) :=
  [('h', .help), ('o', .output)]

/-- A word of the command line. -/
inductive Word where
  /-- A source or the value of an option. -/
  | plain (text : String)
  /-- A long option, or one short option, with the value that is joined to it. -/
  | option (key : Key) (long : Bool) (value : Option String)
  /-- The two dashes after which all words are plain. -/
  | separator
  /-- An option that is unknown. -/
  | unknown

/-- Tells whether a word is a negative number, which is no option. -/
def isNegativeNumber (cs : List Char) : Bool :=
  let cs := if cs.getLast? == some '\n' then cs.dropLast else cs
  match cs with
  | '-' :: digits =>
    let whole := digits.takeWhile Text.isDigit
    match digits.drop whole.length with
    | [] => !whole.isEmpty
    | '.' :: fraction => !fraction.isEmpty && fraction.all Text.isDigit
    | _ => false
  | _ => false

/-- Cuts a word at its first equals sign. -/
def cutAtEquals (cs : List Char) : List Char × Option String :=
  match cs.dropWhile (· != '=') with
  | _ :: value => (cs.takeWhile (· != '='), some (String.ofList value))
  | [] => (cs, none)

/-- The long options of which a word is the start. -/
def matching (cs : List Char) : List Key :=
  (longNames.filter fun entry => cs.isPrefixOf entry.1.toList).map Prod.snd

/-- What a word with a dash in front is if it names no option. -/
def notAnOption (cs : List Char) : Word :=
  if isNegativeNumber cs || cs.contains ' ' then .plain (String.ofList cs) else .unknown

/-- Reads a word in front of which no separator stands. A start of several options is refused. -/
def Word.ofText (s : String) : Except Refusal Word :=
  match s.toList with
  | ['-', '-'] => .ok .separator
  | '-' :: '-' :: rest =>
    let (name, value) := cutAtEquals ('-' :: '-' :: rest)
    match longNames.lookup s, longNames.lookup (String.ofList name), matching name with
    | some key, _, _ => .ok (.option key true none)
    | none, some key, _ => .ok (.option key true value)
    | none, none, [key] => .ok (.option key true value)
    | none, none, [] => .ok (notAnOption s.toList)
    | none, none, _ => .error .usage
  | '-' :: letter :: rest =>
    match shortNames.lookup letter, rest with
    | some key, [] => .ok (.option key false none)
    | some key, '=' :: value => .ok (.option key false (some (String.ofList value)))
    | some key, value => .ok (.option key false (some (String.ofList value)))
    | none, _ => .ok (notAnOption s.toList)
  | _ => .ok (.plain s)

/-- Reads the words of a command line. -/
def wordsOf : List String → Except Refusal (List Word)
  | [] => .ok []
  | s :: rest => do
    match ← Word.ofText s with
    | .separator => return .separator :: rest.map .plain
    | word => return word :: (← wordsOf rest)

/-- The options chosen so far, whether the source has been given, and whether a word was left
over. -/
structure Progress where
  options : Options := {}
  hasSource : Bool := false
  leftOver : Bool := false

/-- Gives an option other than help a value. -/
def Options.set (o : Options) (key : Key) (value : String) : Except Refusal Options :=
  match key with
  | .help => .error .help
  | .mode =>
    match Mode.ofName? value with
    | some mode => .ok { o with mode }
    | none => .error .usage
  | .config => .ok { o with config := some value }
  | .output => .ok { o with output := some value }
  | .logLevel => .ok { o with logLevel := value }

/-- What becomes of short options that are joined to a request for help; `hasValue` says that a
plain word follows. -/
def joinedToHelp (hasValue : Bool) : List Char → Refusal
  | [] => .help
  | letter :: rest =>
    match shortNames.lookup letter with
    | some .help => joinedToHelp hasValue rest
    | some _ => if rest.isEmpty && !hasValue then .usage else .help
    | none => .usage

/-- What becomes of a request for help with something joined to it. -/
def helpRefusal (long hasValue : Bool) : Option String → Refusal
  | none => .help
  | some value => if long || value == "" then .usage else joinedToHelp hasValue value.toList

/-- Tells whether a plain word comes first. -/
def startsPlain : List Word → Bool
  | .plain _ :: _ => true
  | _ => false

/-- Reads words. The source takes the separator before it or after it along. -/
def consume (p : Progress) : List Word → Except Refusal Progress
  | [] => .ok p
  | .unknown :: rest => consume { p with leftOver := true } rest
  | .option .help long value :: rest => .error (helpRefusal long (startsPlain rest) value)
  | .option key _ (some value) :: rest => do
    consume { p with options := ← p.options.set key value } rest
  | .option key _ none :: .plain value :: rest => do
    consume { p with options := ← p.options.set key value } rest
  | .option _ _ none :: _ => .error .usage
  | .separator :: .plain s :: rest =>
    if p.hasSource then consume { p with leftOver := true } rest
    else
      let options := { p.options with source := s }
      consume { p with options, hasSource := true } rest
  | .plain s :: .separator :: rest =>
    if p.hasSource then consume { p with leftOver := true } rest
    else
      let options := { p.options with source := s }
      consume { p with options, hasSource := true } rest
  | .separator :: rest =>
    consume { p with hasSource := true, leftOver := p.leftOver || p.hasSource } rest
  | .plain s :: rest =>
    if p.hasSource then consume { p with leftOver := true } rest
    else
      let options := { p.options with source := s }
      consume { p with options, hasSource := true } rest

/-- Reads a command line. -/
def parse (arguments : List String) : Except Refusal Options := do
  let p ← consume {} (← wordsOf arguments)
  if p.leftOver then throw .usage else return p.options

end PlanDiagram.CommandLine
