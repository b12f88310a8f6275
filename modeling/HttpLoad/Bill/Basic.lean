import HttpLoad.Json.Decoder

/-!
# Bills

A bill as it is sent to the service that stores bills, its text, and what is read of the answer.

## Main definitions

* `Date`: a date that exists
* `Date.ofParts?`: a date from year, month and day
* `Date.text`, `Date.parse`: the text of a date, and back
* `BillLine`, `Bill`: a line item, and a bill
* `Bill.encode`: the compact text of a bill
* `Bill.decode`: a bill from the bytes of a text
* `CreatedId.record`: the only part of the answer that is read
* `CreatedId.parse?`: the id in an answer
-/

namespace HttpLoad

/-!
## Dates

A date of the Gregorian calendar, extended to all years that are counted, zero and negative ones
among them.

In a text a year has four digits, or a sign and as many digits as it takes. A reader also accepts
shorter numbers, and blanks around each number.
-/

/-- Whether February has a day more in this year. -/
def isLeapYear (year : Int) : Bool :=
  year % 4 == 0 && (year % 100 != 0 || year % 400 == 0)

/-- The number of days of a month. -/
def daysInMonth (year : Int) (month : Nat) : Nat :=
  if month = 2 then (if isLeapYear year then 29 else 28)
  else if month = 4 ∨ month = 6 ∨ month = 9 ∨ month = 11 then 30
  else 31

/-- **A date** that exists, in a year that is counted. -/
structure Date where
  year : Int
  month : Nat
  day : Nat
  year_mem : -262143 ≤ year ∧ year ≤ 262142
  month_mem : 1 ≤ month ∧ month ≤ 12
  day_mem : 1 ≤ day ∧ day ≤ daysInMonth year month
deriving DecidableEq

namespace Date

/-- The date with these parts, if there is one. -/
def ofParts? (year : Int) (month day : Nat) : Option Date :=
  if hy : -262143 ≤ year ∧ year ≤ 262142 then
    if hm : 1 ≤ month ∧ month ≤ 12 then
      if hd : 1 ≤ day ∧ day ≤ daysInMonth year month then some ⟨year, month, day, hy, hm, hd⟩
      else none
    else none
  else none

/-- The text of a year: four digits, with a sign for negative and for longer ones. -/
def yearText (year : Int) : List Char :=
  if 0 ≤ year ∧ year ≤ 9999 then paddedDecimal 4 year.toNat
  else (if year < 0 then '-' else '+') :: paddedDecimal 4 year.natAbs

/-- The characters of a date. -/
def chars (d : Date) : List Char :=
  yearText d.year ++ '-' :: (paddedDecimal 2 d.month ++ '-' :: paddedDecimal 2 d.day)

/-- The text of a date. -/
def text (d : Date) : String := String.ofList d.chars

/-- A number of at most `width` digits, if there is a limit, at the start of the characters. It has
to fit 63 bits. -/
def readNumber (width : Option Nat) : List Char → Except Json.DateFault (Nat × List Char)
  | [] => .error .tooShort
  | c :: cs =>
    if !c.isDigit then .error .badCharacter
    else
      let limited := match width with
        | some w => (c :: cs).take w
        | none => c :: cs
      let digits := limited.takeWhile Char.isDigit
      let n := digitsValue digits
      if n < Nat.pow 2 63 then .ok (n, (c :: cs).drop digits.length) else .error .outOfRange

/-- A year, with an optional sign. -/
def readYear (cs : List Char) : Except Json.DateFault (Int × List Char) := do
  let (year, rest) ← match Blank.trimStart cs with
    | '-' :: rest => (readNumber none rest).map fun (n, rest) => (-(n : Int), rest)
    | '+' :: rest => (readNumber none rest).map fun (n, rest) => ((n : Int), rest)
    | rest => (readNumber (some 4) rest).map fun (n, rest) => ((n : Int), rest)
  if -0x80000000 ≤ year ∧ year < 0x80000000 then return (year, rest) else throw .outOfRange

/-- A month or day of one or two digits, from one to `max`. -/
def readPart (max : Nat) (cs : List Char) : Except Json.DateFault (Nat × List Char) := do
  let (n, rest) ← readNumber (some 2) (Blank.trimStart cs)
  if 1 ≤ n ∧ n ≤ max then return (n, rest) else throw .outOfRange

/-- The dash between two parts. -/
def readDash (cs : List Char) : Except Json.DateFault (List Char) :=
  match Blank.trimStart cs with
  | [] => .error .tooShort
  | c :: rest => if c = '-' then .ok rest else .error .badCharacter

/-- **A date from its text.** -/
def parse (cs : List Char) : Except Json.DateFault Date := do
  let (year, rest) ← readYear cs
  let rest ← readDash rest
  let (month, rest) ← readPart 12 rest
  let rest ← readDash rest
  let (day, rest) ← readPart 31 rest
  if !(Blank.trimStart rest).isEmpty then throw .tooLong
  match ofParts? year month day with
  | some date => return date
  | none => throw .outOfRange

end Date

/-! ## Bills and their text -/

/-- **A line item** of a bill. -/
structure BillLine where
  concept : String
  quantity : Double
  unitAmount : Double
deriving DecidableEq

/-- **A bill** to be created. -/
structure Bill where
  billNumber : String
  issuedAt : Date
  customerName : String
  currency : String
  tax : Double
  lines : List BillLine
deriving DecidableEq

def BillLine.toJson (line : BillLine) : Json :=
  .object [
    ("concept", .text line.concept),
    ("quantity", .real line.quantity),
    ("unitAmount", .real line.unitAmount)]

namespace Bill

def toJson (bill : Bill) : Json :=
  .object [
    ("billNumber", .text bill.billNumber),
    ("issuedAt", .text bill.issuedAt.text),
    ("customerName", .text bill.customerName),
    ("currency", .text bill.currency),
    ("tax", .real bill.tax),
    ("lines", .list (bill.lines.map BillLine.toJson))]

/-- The compact text of a bill. -/
def encode (bill : Bill) : String := bill.toJson.compact

/-- A date as a text. Complaints about the date itself stand behind the text. -/
def decodeDate : Json.Decoder Date := fun bytes => do
  let (text, rest) ← Json.decodeText "a formatted date string" bytes
  match Date.parse text.toList with
  | .ok date => return (date, rest)
  | .error why => throw (.here (.notADate why) rest)

/-- The fields of a line item that have been read. -/
structure LineDraft where
  concept : Option String := none
  quantity : Option Double := none
  unitAmount : Option Double := none

/-- The line item of a draft, or the first field that it lacks. -/
def LineDraft.finish (d : LineDraft) : Except String BillLine :=
  match d.concept, d.quantity, d.unitAmount with
  | none, _, _ => .error "concept"
  | _, none, _ => .error "quantity"
  | _, _, none => .error "unitAmount"
  | some concept, some quantity, some unitAmount => .ok ⟨concept, quantity, unitAmount⟩

def lineRecord : Json.Record LineDraft BillLine where
  title := "struct CreateBillLine"
  start := {}
  fields := [
    { name := "concept"
      given := fun d => d.concept.isSome
      read := fun d bytes => do
        let (concept, rest) ← Json.decodeText "a string" bytes
        return ({ d with concept := some concept }, rest) },
    { name := "quantity"
      given := fun d => d.quantity.isSome
      read := fun d bytes => do
        let (quantity, rest) ← Json.decodeReal "f64" bytes
        return ({ d with quantity := some quantity }, rest) },
    { name := "unitAmount"
      given := fun d => d.unitAmount.isSome
      read := fun d bytes => do
        let (unitAmount, rest) ← Json.decodeReal "f64" bytes
        return ({ d with unitAmount := some unitAmount }, rest) }]
  finish := LineDraft.finish

/-- The fields of a bill that have been read. -/
structure Draft where
  billNumber : Option String := none
  issuedAt : Option Date := none
  customerName : Option String := none
  currency : Option String := none
  tax : Option Double := none
  lines : Option (List BillLine) := none

/-- The bill of a draft, or the first field that it lacks. -/
def Draft.finish (d : Draft) : Except String Bill :=
  match d.billNumber, d.issuedAt, d.customerName, d.currency, d.tax, d.lines with
  | none, _, _, _, _, _ => .error "billNumber"
  | _, none, _, _, _, _ => .error "issuedAt"
  | _, _, none, _, _, _ => .error "customerName"
  | _, _, _, none, _, _ => .error "currency"
  | _, _, _, _, none, _ => .error "tax"
  | _, _, _, _, _, none => .error "lines"
  | some billNumber, some issuedAt, some customerName, some currency, some tax, some lines =>
    .ok ⟨billNumber, issuedAt, customerName, currency, tax, lines⟩

def record : Json.Record Draft Bill where
  title := "struct CreateBillRequest"
  start := {}
  fields := [
    { name := "billNumber"
      given := fun d => d.billNumber.isSome
      read := fun d bytes => do
        let (billNumber, rest) ← Json.decodeText "a string" bytes
        return ({ d with billNumber := some billNumber }, rest) },
    { name := "issuedAt"
      given := fun d => d.issuedAt.isSome
      read := fun d bytes => do
        let (issuedAt, rest) ← decodeDate bytes
        return ({ d with issuedAt := some issuedAt }, rest) },
    { name := "customerName"
      given := fun d => d.customerName.isSome
      read := fun d bytes => do
        let (customerName, rest) ← Json.decodeText "a string" bytes
        return ({ d with customerName := some customerName }, rest) },
    { name := "currency"
      given := fun d => d.currency.isSome
      read := fun d bytes => do
        let (currency, rest) ← Json.decodeText "a string" bytes
        return ({ d with currency := some currency }, rest) },
    { name := "tax"
      given := fun d => d.tax.isSome
      read := fun d bytes => do
        let (tax, rest) ← Json.decodeReal "f64" bytes
        return ({ d with tax := some tax }, rest) },
    { name := "lines"
      given := fun d => d.lines.isSome
      read := fun d bytes => do
        let (lines, rest) ← Json.decodeList lineRecord.decode "a sequence" bytes
        return ({ d with lines := some lines }, rest) }]
  finish := Draft.finish

/-- **A bill from the bytes of a text.** -/
def decode (bytes : Bytes) : Except Json.Fault Bill := Json.decodeAll record.decode bytes

end Bill

/-!
## The id of a created bill

A service answers a created bill with an object that holds its `id`. Nothing else of the answer
matters, and an answer of any other form simply has no id.
-/

namespace CreatedId

/-- What has been read of an answer: nothing, or the `id`, which may be `null`. -/
abbrev Draft := Option (Option Int)

def record : Json.Record Draft (Option Int) where
  title := "struct CreatedBill"
  start := none
  fields := [
    { name := "id"
      given := fun d => d.isSome
      read := fun _ bytes => do
        let (id, rest) ← Json.decodeOptional (Json.decodeInteger "i64") bytes
        return (some id, rest)
      optional := true }]
  finish := fun d => .ok (d.getD none)

/-- **The id in an answer**: nothing, unless the whole answer can be read and holds one. -/
def parse? (body : Bytes) : Option Int :=
  match Json.decodeAll record.decode body with
  | .ok id => id
  | .error _ => none

end CreatedId

end HttpLoad
