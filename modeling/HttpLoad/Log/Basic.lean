import HttpLoad.Text.Basic

/-!
# The log

A run tells what it is doing in lines with a level, an origin and fields. A filter decides which of
them are shown.

## Main definitions

* `LogLevel`, `LogLine`: how important a line is, and a line
* `LogLine.text`: a line as it is shown
* `LogLine.hasField`: whether a line has a field of a name
* `LogDirective`, `LogDirective.parse?`: a directive, and how it is read
* `LogDirective.fits`, `LogDirective.isOverriddenBy`: which lines it is for, and which of two counts
* `LogFilter`, `LogFilter.parse?`: a filter, and how it is read
* `LogFilter.shows`: whether a line is shown
-/

namespace HttpLoad

/-! ## Lines -/

/-- **How important a line is.** -/
inductive LogLevel where
  | error
  | warn
  | info
  | debug
  | trace
deriving DecidableEq, Repr

namespace LogLevel

def all : List LogLevel := [error, warn, info, debug, trace]

def name : LogLevel → String
  | error => "ERROR"
  | warn => "WARN"
  | info => "INFO"
  | debug => "DEBUG"
  | trace => "TRACE"

/-- The place of a level, from the most important one on. -/
def rank (l : LogLevel) : Nat := all.idxOf l + 1

end LogLevel

/-- **A line of the log.** -/
structure LogLine where
  level : LogLevel
  origin : String
  message : String
  fields : List (String × String) := []
deriving DecidableEq, Repr

/-- A line as it is shown, without its time. -/
def LogLine.text (line : LogLine) : String :=
  line.level.name ++ " " ++ line.message
    ++ String.join (line.fields.map fun (name, value) => " " ++ name ++ "=" ++ value)

/-- The name under which the message of a line counts as a field. -/
def LogLine.messageName : String := "message"

/-- Whether a line has a field of a name. -/
def LogLine.hasField (line : LogLine) (name : String) : Bool :=
  name == messageName || line.fields.any fun f => f.1 == name

/-!
## Filters

A filter decides which lines of the log are shown. It is a list of directives, each of which gives a
level to the lines of an origin, to the lines with a field, or to what happens within a span. The
most precise directive that fits a line decides. No line of a run lies within a span.
-/

/-- **A directive.** What it does not name it does not ask for. -/
structure LogDirective where
  /-- What the origin of a line has to start with. -/
  origin : Option String := none
  /-- The span that has to surround a line. -/
  span : Option String := none
  /-- The field that a line has to have. -/
  field : Option String := none
  /-- Whether the field has to have a value, which only the fields of spans are asked for. -/
  asksValue : Bool := false
  /-- The rank up to which lines are shown. -/
  rank : Nat
deriving DecidableEq, Repr

namespace LogDirective

/-- The rank of the least important lines. -/
def rankMax : Nat := LogLevel.all.length

/-- The greatest number that is read for a level at all. -/
def numberMax : Nat := 0xffffffffffffffff

/-- The rank that a number stands for. -/
def rankOfNumber? (cs : List Char) : Option Nat :=
  let digits := match cs with
    | '+' :: rest => rest
    | rest => rest
  if digits.isEmpty || !digits.all Char.isDigit then none
  else
    let n := digits.foldl (fun n c => 10 * n + (c.toNat - '0'.toNat)) 0
    if n ≤ min rankMax numberMax then some n else none

/-- The rank that the name of a level stands for, in capitals or small letters. -/
def rankOfName? (cs : List Char) : Option Nat :=
  let small := cs.map Char.toLower
  if small = "off".toList then some 0
  else
    (LogLevel.all.find? fun l => l.name.toList.map Char.toLower == small).map LogLevel.rank

/-- The rank up to which a name or a number of a level lets lines through. -/
def rankOf? (cs : List Char) : Option Nat := (rankOfNumber? cs).or (rankOfName? cs)

/-- The rank behind an equals sign. Without a level, all lines are let through. -/
def rankBehind? (cs : List Char) : Option Nat := if cs.isEmpty then some rankMax else rankOf? cs

/-- Whether a directive may start with this character. -/
def startsName (c : Char) : Bool :=
  Alphanumeric.isAlphanumeric c || c == '-' || c == ':' || c == '_'

/-- The characters from one place of a text up to another one. -/
def cut (cs : List Char) (first last : Nat) : List Char := (cs.take last).drop first

/-! ### Values of fields -/

/-- The letters that have a meaning behind a backslash. -/
def escapable : List Char := "dDwWsSbBAzpPnrtfvaxuU".toList

/-- Whether characters are a regular expression, groups and repetitions considered: `open_` groups
are open, and `repeatable` tells whether there is something to repeat. -/
def isExpression (open_ : Nat) (repeatable : Bool) : List Char → Bool
  | [] => open_ == 0
  | ['\\'] => false
  | '\\' :: c :: rest =>
    (escapable.contains c || !Alphanumeric.isAlphanumeric c) && isExpression open_ true rest
  | '(' :: '?' :: rest => isExpression (open_ + 1) false rest
  | '(' :: rest => isExpression (open_ + 1) false rest
  | ')' :: rest => open_ != 0 && isExpression (open_ - 1) true rest
  | '|' :: rest => isExpression open_ false rest
  | '[' :: c :: rest => rest.contains ']' && c != ']' && isExpression open_ true rest
  | ['['] => false
  | '\x7b' :: _ => false
  | c :: rest =>
    if c == '*' || c == '+' || c == '?' then repeatable && isExpression open_ true rest
    else isExpression open_ true rest

/-- A field: its name, and whether a value is asked for. A value is a regular expression. -/
def parseField? (cs : List Char) : Option (String × Bool) :=
  match cs.splitOnP (· == '=') with
  | name :: value :: _ =>
    if isExpression 0 false value then some (String.ofList name, true) else none
  | [name] => if name.isEmpty then none else some (String.ofList name, false)
  | [] => none

/-! ### Directives -/

/-- A directive behind its closing bracket, which stands before the place `stop` of the text. -/
def closed? (text behind : List Char) (stop : Nat) (make : Nat → LogDirective) :
    Option LogDirective :=
  match behind with
  | [] => some (make rankMax)
  | '=' :: _ => (rankBehind? (text.drop (stop + 1))).map make
  | _ => none

/-- A directive with a bracket, which opens before the place `start` of the text: a span, a field in
braces, or both. -/
def bracketed? (text inside : List Char) (origin : Option String) (start : Nat) :
    Option LogDirective :=
  let name := inside.takeWhile fun c => c != ']' && c != '\x7b'
  let stop := start + name.length
  let span := String.ofList (cut text start stop)
  match inside.drop name.length with
  | ']' :: behind =>
    closed? text behind (stop + 1) fun rank => { origin := origin, span := span, rank := rank }
  | '\x7b' :: more =>
    let written := more.takeWhile (· != '\x7d')
    let fieldStop := stop + 1 + written.length
    match more.drop written.length with
    | '\x7d' :: ']' :: behind =>
      match parseField? (cut text (stop + 1) fieldStop) with
      | some (field, asksValue) =>
        closed? text behind (fieldStop + 2) fun rank => {
          origin := origin
          span := if name.isEmpty then none else some span
          field := some field
          asksValue := asksValue
          rank := rank }
      | none => none
    | _ => none
  | _ => none

/-- **A directive from its text**: a level, or an origin and a bracket of which one may be missing,
perhaps with a level. Where the parts of a directive are is told without the blanks around it, but
they are cut out of the whole text, so that a text with blanks hardly ever means what it seems to
mean. -/
def parse? (text : List Char) : Option LogDirective :=
  let trimmed := Blank.trim text
  let name := trimmed.takeWhile fun c => c != '=' && c != '['
  let origin := String.ofList (cut text 0 name.length)
  match trimmed.head?, trimmed.drop name.length with
  | none, _ => none
  | some '[', _ => bracketed? text (trimmed.drop 1) none 1
  | some c, behind =>
    if startsName c then
      match behind with
      | [] =>
        match rankOf? text with
        | some rank => some { rank := rank }
        | none => some { origin := some (String.ofList text), rank := rankMax }
      | '[' :: inside => bracketed? text inside (some origin) (name.length + 1)
      | _ =>
        (rankBehind? (text.drop (name.length + 1))).map fun rank =>
          { origin := some origin, rank := rank }
    else none

/-- Whether a directive is for a line of the log. -/
def fits (d : LogDirective) (line : LogLine) : Bool :=
  d.span.isNone && !d.asksValue
    && (d.origin.all fun origin => line.origin.startsWith origin)
    && (d.field.all line.hasField)

/-- How precise a directive is. -/
def precision (d : LogDirective) : Nat × Nat :=
  ((d.origin.map fun origin => origin.utf8ByteSize + 1).getD 0, if d.field.isSome then 1 else 0)

/-- **Whether another directive counts instead of this one**, where both are for a line. The later
one of two equally precise ones counts, unless its field comes first in the alphabet. -/
def isOverriddenBy (d later : LogDirective) : Bool :=
  let p := d.precision
  let q := later.precision
  if p.1 ≠ q.1 then p.1 < q.1
  else if p.2 ≠ q.2 then p.2 < q.2
  else !((later.field.getD "") < (d.field.getD ""))

end LogDirective

/-- **A filter**: directives, of which the most precise one that fits a line decides. -/
structure LogFilter where
  directives : List LogDirective
deriving DecidableEq, Repr

namespace LogFilter

/-- The filter that shows lines up to a level. -/
def upTo (level : LogLevel) : LogFilter := ⟨[{ rank := level.rank }]⟩

/-- **A filter from its text**: directives separated by commas; without any, errors are shown. -/
def parse? (text : String) : Option LogFilter := do
  let directives ←
    ((text.toList.splitOnP (· == ',')).filter (!·.isEmpty)).mapM LogDirective.parse?
  return if directives.isEmpty then upTo .error else ⟨directives⟩

/-- The text of the filter that is used unless another one is given. -/
def defaultText (quiet : Bool) : String := if quiet then "warn" else "info"

/-- The filter that is used unless another one is given. -/
def default (quiet : Bool) : LogFilter := upTo (if quiet then .warn else .info)

/-- The filter that a text asks for; one that cannot be read asks for nothing. -/
def ofSetting (setting : Option String) (quiet : Bool) : LogFilter :=
  (setting.bind parse?).getD (default quiet)

/-- The directive that counts, of one that counted so far and another one. -/
def better (old : Option LogDirective) (d : LogDirective) : Option LogDirective :=
  match old with
  | none => some d
  | some r => if r.isOverriddenBy d then some d else old

/-- The directive that decides on a line. -/
def directiveFor? (filter : LogFilter) (line : LogLine) : Option LogDirective :=
  (filter.directives.filter fun d => d.fits line).foldl better none

/-- **Whether a line is shown.** -/
def shows (filter : LogFilter) (line : LogLine) : Bool :=
  match filter.directiveFor? line with
  | some d => line.level.rank ≤ d.rank
  | none => false

end LogFilter

end HttpLoad
