import HttpLoad.Number.Text

/-!
# Options on a command line

A program declares its options: what each is called, whether it takes a value, and what it changes
in the settings. A command line is read from left to right. The value of an option is looked at
only when the next known option starts, or at the end, so a word that is no option at all is
complained about first. Options that are not given may come from the environment.

## Main definitions

* `OptionSpec`, `OptionAction`: an option that changes settings of type `α`
* `UsageFault`: what can be wrong with a command line
* `Word`, `Word.parse`: a word, by its dashes
* `Reading`, `Reading.step`: how far a command line has been read, and how one word is read
* `readOptions`: the settings that a command line asks for
* `helpText`: what a program says about its options
-/

namespace HttpLoad

/-- What can be wrong with a value: it is empty, or it is no value of its kind. -/
inductive ValueFault where
  | blank
  | unreadable
deriving DecidableEq, Repr

/-- **What an option does** to the settings. -/
inductive OptionAction (α : Type) where
  | flag (mark : α → α)
  /-- `negatives` tells whether a number with a minus sign is a value, `repeats` whether the option
  may be given more than once. -/
  | value (negatives repeats : Bool) (read : String → α → Except ValueFault α)

/-- **An option.** -/
structure OptionSpec (α : Type) where
  name : String
  /-- What its value is called. -/
  valueName : String := ""
  action : OptionAction α
  /-- The variable of the environment that it may come from. -/
  variableName : Option String := none
  required : Bool := false

namespace OptionSpec

variable {α : Type}

/-- The option as it is shown in complaints. -/
def shown (spec : OptionSpec α) : String :=
  match spec.action with
  | .flag _ => "--" ++ spec.name
  | .value .. => "--" ++ spec.name ++ " <" ++ spec.valueName ++ ">"

/-- The option in a help text. -/
def helpLine (spec : OptionSpec α) : String :=
  "  " ++ spec.shown ++ (if spec.required then " (required)" else "")
    ++ ((spec.variableName.map fun name => " [" ++ name ++ "]").getD "") ++ "\n"

/-- Whether a number with a minus sign is a value of the option. -/
def takesNegatives (spec : OptionSpec α) : Bool :=
  match spec.action with
  | .flag _ => false
  | .value negatives _ _ => negatives

/-- Whether the option may be given more than once. -/
def mayRepeat (spec : OptionSpec α) : Bool :=
  match spec.action with
  | .flag _ => false
  | .value _ repeats _ => repeats

end OptionSpec

/-- **What can be wrong with a command line.** Options are given as they are shown. -/
inductive UsageFault where
  /-- Nothing is wrong: help is asked for. -/
  | help
  | unknown (word : String)
  | missingValue (shown : String)
  | badValue (shown value : String)
  | unneededValue (shown value : String)
  | repeated (shown : String)
  | missing (shown : String)
deriving DecidableEq, Repr

/-- The status that a program ends with. -/
def UsageFault.exitStatus : UsageFault → Nat
  | help => 0
  | _ => 2

/-- What is complained about; a call for help is no complaint. -/
def UsageFault.message? : UsageFault → Option String
  | help => none
  | unknown word => some ("unexpected argument '" ++ word ++ "'")
  | missingValue shown => some ("a value is required for '" ++ shown ++ "'")
  | badValue shown value => some ("invalid value '" ++ value ++ "' for '" ++ shown ++ "'")
  | unneededValue shown value => some ("unexpected value '" ++ value ++ "' for '" ++ shown ++ "'")
  | repeated shown => some ("the argument '" ++ shown ++ "' cannot be used more than once")
  | missing shown => some ("the required argument '" ++ shown ++ "' is missing")

/-! ## Words -/

/-- **A word of a command line**, by its dashes. -/
inductive Word where
  /-- Two dashes alone: what follows are no options. -/
  | terminator
  | long (name : String) (value : Option String)
  /-- One dash and letters, or a number with a minus sign. -/
  | short (letters : List Char)
  | plain
deriving DecidableEq, Repr

namespace Word

/-- Name and value around the first equals sign. -/
def splitValue (cs : List Char) : Word :=
  match cs.dropWhile (· != '=') with
  | _ :: value => .long (String.ofList (cs.takeWhile (· != '='))) (some (String.ofList value))
  | [] => .long (String.ofList cs) none

def parse (word : String) : Word :=
  match word.toList with
  | ['-', '-'] => .terminator
  | '-' :: '-' :: rest => splitValue rest
  | '-' :: c :: rest => .short (c :: rest)
  | _ => .plain

/-- Whether characters look like a number without its sign: digits with at most one point, which is
not in front, and perhaps an exponent sign with more digits behind it. -/
def looksNumeric (cs : List Char) : Bool :=
  let isExponent (c : Char) : Bool := c == 'e' || c == 'E'
  let mantissa := cs.takeWhile (!isExponent ·)
  let digitsAndPoint (part : List Char) : Bool :=
    part.all (fun c => c.isDigit || c == '.') && (part.filter (· == '.')).length ≤ 1
      && part.head? != some '.'
  match cs.drop mantissa.length with
  | [] => !cs.isEmpty && digitsAndPoint mantissa
  | _ :: power =>
    !mantissa.isEmpty && digitsAndPoint mantissa && !power.isEmpty && power.all Char.isDigit

end Word

/-! ## Reading a command line -/

/-- **How far a command line has been read.** -/
structure Reading (α : Type) where
  settings : α
  /-- The names of the options that were given. -/
  given : List String := []
  /-- The option whose value has not been looked at yet, and the value if it has come. -/
  pending : Option (OptionSpec α × Option String) := none
  /-- Whether two dashes alone have come. -/
  ended : Bool := false

namespace Reading

variable {α : Type}

/-- An option given for the first time, or once more if it may be. -/
def mark (r : Reading α) (spec : OptionSpec α) : Except UsageFault (Reading α) :=
  if !spec.mayRepeat && r.given.contains spec.name then .error (.repeated spec.shown)
  else .ok { r with given := spec.name :: r.given }

/-- An option applied to the settings, with its value if it takes one. -/
def apply (spec : OptionSpec α) (value : String) (settings : α) : Except UsageFault α :=
  match spec.action with
  | .flag mark => .ok (mark settings)
  | .value _ _ read =>
    match read value settings with
    | .ok settings => .ok settings
    | .error .blank => .error (.missingValue spec.shown)
    | .error .unreadable => .error (.badValue spec.shown value)

/-- An option accepted. -/
def accept (r : Reading α) (spec : OptionSpec α) (value : String) :
    Except UsageFault (Reading α) := do
  let r ← r.mark spec
  let settings ← apply spec value r.settings
  return { r with settings := settings }

/-- The pending option accepted, if there is one. -/
def settle (r : Reading α) : Except UsageFault (Reading α) :=
  match r.pending with
  | none => .ok r
  | some (spec, none) => .error (.missingValue spec.shown)
  | some (spec, some value) => { r with pending := none }.accept spec value

/-- The option that waits for its value. -/
def waiting? (r : Reading α) : Option (OptionSpec α) :=
  match r.pending with
  | some (spec, none) => some spec
  | _ => none

/-- A word that is no option: the value that is waited for, or none of this command line's. -/
def takeValue (r : Reading α) (word : String) : Except UsageFault (Reading α) :=
  match r.waiting? with
  | some spec => .ok { r with pending := some (spec, some word) }
  | none => .error (.unknown word)

/-- The name of the option that asks for help, and its letter. -/
def helpName : String := "help"
def helpLetter : Char := 'h'

/-- A known option starts. -/
def startOption (r : Reading α) (spec : OptionSpec α) (value : Option String) :
    Except UsageFault (Reading α) :=
  match spec.action, value with
  | .flag _, none => do (← r.settle).accept spec ""
  | .flag _, some value => .error (.unneededValue spec.shown value)
  | .value .., some value => do (← r.settle).accept spec value
  | .value .., none => do
    let r ← r.settle
    return { r with pending := some (spec, none) }

/-- Help is asked for, which comes after what is wrong with the option before. -/
def help (r : Reading α) : Except UsageFault (Reading α) := do
  let _ ← r.settle
  throw .help

/-- **One more word.** -/
def step (specs : List (OptionSpec α)) (r : Reading α) (word : String) :
    Except UsageFault (Reading α) :=
  if r.ended then .error (.unknown word)
  else
    match Word.parse word with
    | .terminator => .ok { r with ended := true }
    | .plain => r.takeValue word
    | .long name value =>
      match specs.find? fun spec => spec.name == name with
      | some spec => r.startOption spec value
      | none =>
        if name = helpName then
          match value with
          | none => r.help
          | some value => .error (.unneededValue ("--" ++ helpName) value)
        else .error (.unknown ("--" ++ name))
    | .short letters =>
      if r.waiting?.any OptionSpec.takesNegatives && Word.looksNumeric letters then
        r.takeValue word
      else if letters.head? = some helpLetter then r.help
      else .error (.unknown (String.ofList ('-' :: letters.take 1)))

/-- An option that was not given, taken from the environment if it is there. -/
def supply (environment : List (String × String)) (r : Reading α) (spec : OptionSpec α) :
    Except UsageFault (Reading α) :=
  match spec.variableName.bind fun name => environment.lookup name with
  | some value =>
    if r.given.contains spec.name then .ok r
    else do
      let settings ← apply spec value r.settings
      return { r with settings := settings }
  | none => .ok r

/-- The required option that was not given. -/
def missing? (specs : List (OptionSpec α)) (r : Reading α) : Option (OptionSpec α) :=
  specs.find? fun spec => spec.required && !r.given.contains spec.name

end Reading

/-- **The settings that a command line asks for**, starting from the ones that hold without it. -/
def readOptions {α : Type} (specs : List (OptionSpec α)) (start : α)
    (environment : List (String × String)) (words : List String) : Except UsageFault α := do
  let r ← words.foldlM (Reading.step specs) { settings := start }
  let r ← r.settle
  let r ← specs.foldlM (Reading.supply environment) r
  match r.missing? specs with
  | some spec => throw (.missing spec.shown)
  | none => return r.settings

/-- What a program says when help is asked for. -/
def helpText {α : Type} (program : String) (specs : List (OptionSpec α)) : String :=
  "Usage: " ++ program ++ " [OPTIONS]\n\nOptions:\n"
    ++ String.join (specs.map OptionSpec.helpLine) ++ "  --" ++ Reading.helpName ++ "\n"

namespace OptionAction

variable {α : Type}

/-- A value that is read by a function. -/
def parsed {β : Type} (negatives : Bool) (read? : String → Option β) (put : β → α → α) :
    OptionAction α :=
  .value negatives false fun text settings =>
    match read? text with
    | some v => .ok (put v settings)
    | none => .error .unreadable

/-- Any text. -/
def text (put : String → α → α) : OptionAction α :=
  .value false false fun text settings => .ok (put text settings)

/-- Any text, and any number of times. -/
def texts (put : String → α → α) : OptionAction α :=
  .value false true fun text settings => .ok (put text settings)

/-- A path, which is not empty. -/
def path (put : String → α → α) : OptionAction α :=
  .value false false fun text settings =>
    if text.isEmpty then .error .blank else .ok (put text settings)

/-- An integer of a range. -/
def integer (negatives : Bool) (least greatest : Int) (put : Int → α → α) : OptionAction α :=
  parsed negatives (fun text =>
    (parseInt? text.toList).bind fun n => if least ≤ n ∧ n ≤ greatest then some n else none) put

/-- A number. -/
def real (put : Double → α → α) : OptionAction α :=
  parsed true (fun text => Double.parse? text.toList) put

end OptionAction

end HttpLoad
