import HttpLoad.Bill.Basic
import HttpLoad.Random.Draw
import HttpLoad.Stats.Basic

/-!
# Generated bills

Bills for a run are drawn from a seeded stream, so that a seed reproduces them. For each line the
quantity is drawn first, then the amount and the concept; the tax is drawn after the last line. Room
for all lines of a bill is reserved before the first one is drawn, which fails for more lines than
an allocation can hold. The bills of a run share a marker, by which they are found again.

## Main definitions

* `Bill.numberFor`, `Bill.customerFor`: the names of the bill with an index
* `Bill.linesMax`: the most lines that room can be reserved for
* `Bill.draw`: one bill with a number of lines
* `Batch`, `Batch.generate`: the bills of a run
-/

namespace HttpLoad

/-- The currency of generated bills. -/
def billCurrency : String := "USD"

/-- The concept of a line if it is the first one drawn. -/
def firstConcept : String := "Cloud Hosting"

/-- The other concepts, in the order in which they are drawn. -/
def otherConcepts : List String := [
  "API Requests",
  "Data Processing",
  "Consulting Hours",
  "Support Plan",
  "Storage Usage",
  "Security Monitoring",
  "Training Session",
  "Integration Fee",
  "Premium Feature"]

/-- **The concepts of generated lines.** -/
def concepts : List String := firstConcept :: otherConcepts

def quantityMin : Double := Double.ofNat 1
def quantityMax : Double := Double.ofNat 5
def amountMin : Double := Double.ofNat 10
def amountMax : Double := Double.ofNat 500

/-- The least share of the subtotal that is tax: five hundredths. -/
def taxMin : Double := Double.ofDecimal false 5 (-2)

/-- The greatest share of the subtotal that is tax: twelve hundredths. -/
def taxMax : Double := Double.ofDecimal false 12 (-2)

/-- The marker of a run that starts at a time, if none is given. -/
def defaultMarker (unixSeconds : Nat) : String :=
  "BENCH-POST-" ++ String.ofList (decimalDigits unixSeconds)

/-- The product of a line, as it enters the subtotal. -/
def BillLine.total (line : BillLine) : Double := twoPlaces (line.quantity * line.unitAmount)

namespace Bill

/-- The index of a bill as it stands in names: three digits or more. -/
def indexText (index : Nat) : String := String.ofList (paddedDecimal 3 index)

/-- **The number of the bill** with an index. -/
def numberFor (marker : String) (index : Nat) : String := marker ++ "-" ++ indexText index

/-- The customer of the bill with an index. -/
def customerFor (marker : String) (index : Nat) : String :=
  marker ++ "-customer-" ++ indexText index

/-- The subtotal of lines, added up from zero in their order. -/
def subtotal (lines : List BillLine) : Double :=
  lines.foldl (fun sum line => sum + line.total) Double.zero

variable {σ : Type} (source : WordSource σ)

/-- **One line**, drawn. -/
def drawLine : Draw σ BillLine := do
  let quantity ← Draw.doubleIn source quantityMin quantityMax
  let amount ← Draw.doubleIn source amountMin amountMax
  let concept ← Draw.oneOf source firstConcept otherConcepts
  return { concept := concept, quantity := twoPlaces quantity, unitAmount := twoPlaces amount }

/-- A number of lines, drawn one after the other. -/
def drawLines : Nat → Draw σ (List BillLine)
  | 0 => return []
  | n + 1 => do
    let line ← drawLine source
    let lines ← drawLines n
    return line :: lines

/-- The bytes of an allocation, at most. -/
def allocationMax : Nat := Nat.pow 2 63 - 1

/-- The bytes of a line: a text is a pointer, a capacity and a length, and there are two doubles. -/
def lineBytes : Nat := 3 * 8 + 2 * 8

/-- **The most lines that room can be reserved for.** -/
def linesMax : Nat := allocationMax / lineBytes

/-- Room reserved for a number of lines. -/
def reserve (lineCount : Nat) : Draw σ Unit :=
  if linesMax < lineCount then throw .capacityOverflow else return ()

/-- **A bill** with a number of lines, drawn. Room for the lines is reserved first. -/
def draw (marker : String) (index lineCount : Nat) (issuedAt : Date) : Draw σ Bill := do
  reserve lineCount
  let lines ← drawLines source lineCount
  let share ← Draw.doubleIn source taxMin taxMax
  return {
    billNumber := numberFor marker index
    issuedAt := issuedAt
    customerName := customerFor marker index
    currency := billCurrency
    tax := twoPlaces (subtotal lines * share)
    lines := lines }

/-- A bill with a drawn number of lines, and that number. -/
def drawSized (marker : String) (issuedAt : Date) (minLines maxLines index : Nat) :
    Draw σ (Nat × Bill) := do
  let lineCount ← Draw.natIn source minLines maxLines
  let bill ← draw source marker index lineCount issuedAt
  return (lineCount, bill)

/-- The bills from an index on, drawn one after the other. -/
def drawFrom (marker : String) (issuedAt : Date) (minLines maxLines : Nat) :
    Nat → Nat → Draw σ (List (Nat × Bill))
  | 0, _ => return []
  | count + 1, index => do
    let bill ← drawSized source marker issuedAt minLines maxLines index
    let bills ← drawFrom marker issuedAt minLines maxLines count (index + 1)
    return bill :: bills

end Bill

/-- **The bills of a run**, and how many lines were drawn for each. -/
structure Batch where
  bills : List Bill
  linesPerBill : List Nat
deriving DecidableEq

namespace Batch

/-- A batch from bills with their numbers of lines. -/
def ofSized (sized : List (Nat × Bill)) : Batch := ⟨sized.map Prod.snd, sized.map Prod.fst⟩

/-- The stream that batches are drawn from. -/
def seeded : WordSource WordStream := ⟨WordStream.next⟩

/-- **The batch of a seed**: bills numbered from one, all drawn from one stream. -/
def generate (marker : String) (count minLines maxLines : Nat) (issuedAt : Date) (seed : UInt64) :
    Except DrawFault Batch := do
  let (sized, _) ← Bill.drawFrom seeded marker issuedAt minLines maxLines count 1
    (WordStream.ofSeed seed)
  return ofSized sized

/-- The bodies of a batch: the text of each bill. -/
def bodies (batch : Batch) : List Bytes := batch.bills.map fun bill => Bytes.ofString bill.encode

end Batch

end HttpLoad
