import HttpLoad.Proofs.Json.Document
import HttpLoad.Proofs.Json.Printing
import HttpLoad.Run.Files

/-!
# What the body of a file says

A payload file is read and written again. What is written has the structure and the texts of what
was read, and its numbers are exactly those that the reader made of the numerals. These are the
nearest doubles where the reader rounds correctly, as it does for short numerals, but not
everywhere.

## Main definitions

* `Document.rounded`: a document as a correctly rounding reader has it
* `Document.doubles`: a document as the program has it, its numbers as doubles
* `bodyOf v`: the body of the value

## Main results

* `loadPayload_keeps`: what a correctly rounding reader makes of a body
* `loadPayload_fiveE32`: a number that a body has lost
* `loadPayload_rendering`: the body of a file that is a rendering
* `exists_compact_rendering`: the body is a compact rendering
* `loadPayload_canonical`: all of it for one value
-/

namespace HttpLoad

section

open Json

namespace Json.Document

/-- **A document as a correctly rounding reader has it**: every number is the nearest double. -/
def rounded (doc : Document) : Json := doc.item.value fun n => real n.nearest

/-- **A document as the program has it**, its numbers as doubles. -/
def doubles (doc : Document) : Json := doc.item.value fun n => real n.double

end Json.Document

/-- A body is the compact text of what is read. -/
theorem loadPayload_eq_ok_iff {path : String} {document body : Bytes} :
    loadPayload path (.ok document) = .ok body ↔
      ∃ v, parse document = .ok v ∧ body = Bytes.ofChars (compactThen v []) := by
  have hcompact : ∀ v, Bytes.ofString (compact v) = Bytes.ofChars (compactThen v []) := by
    intro v
    rw [Bytes.ofString, compact, String.toList_ofList]
  unfold loadPayload canonicalText
  cases hparse : parse document with
  | error fault => simp [Except.map, hparse]
  | ok v => simp [Except.map, hparse, hcompact, eq_comm]

/-! ## Lone numbers -/

/-- The document of a lone number. -/
def loneNumber (n : Numeral) : Document := .tight (.number n)

/-- A lone number is sent as the text of its double, if it is not whole. -/
theorem loadPayload_loneNumber (path : String) {n : Numeral} (hwhole : ¬n.IsWhole)
    (hread : n.read?.isSome) :
    loadPayload path (.ok (loneNumber n).bytes) = .ok (Bytes.ofChars n.double.text) := by
  obtain ⟨v, hv⟩ := Option.isSome_iff_exists.mp hread
  obtain ⟨x, rfl, hx⟩ := Numeral.real_of_read? hwhole hv
  have haccepted : (Written.number n).Accepted depthMax := by
    refine ⟨Nat.zero_le _, fun t ht => ?_⟩
    rw [List.mem_singleton.mp ht]
    exact hread
  refine loadPayload_eq_ok_iff.mpr ⟨real x, ?_, ?_⟩
  · rw [← toOption_eq_some_iff, Document.parse_bytes]
    exact (if_pos haccepted).trans (congrArg some (Numeral.read_eq hv))
  · rw [Numeral.double_eq hv, asDouble, compactThen, scalarChars, realChars, if_pos hx,
      List.append_nil]
    all_goals simp

/-! ## Documents -/

/-- A canonical value is printed as a document that stands for it, and that is read as it where its
numerals are read as the nearest doubles. -/
theorem exists_printed {Q : Numeral → Prop} {v : Json} (hv : v.Canonical (PrintedAs Q) depthMax) :
    ∃ printed : Document, printed.bytes = Bytes.ofChars (compactThen v []) ∧
      printed.item.value Numeral.exact = v ∧ (∀ n, .number n ∈ printed.item.tokens → Q n) ∧
      ((∀ n, .number n ∈ printed.item.tokens → n.ReadsNearest) → parse printed.bytes = .ok v) := by
  obtain ⟨w, hw, -⟩ := hv.exists_prints
  refine ⟨.tight w, ?_, hw.value, hw.numbers, fun hnumbers => ?_⟩
  · rw [hw.text]
    rfl
  · have haccepted : w.Accepted depthMax := by
      refine ⟨hw.depth, fun t ht => ?_⟩
      cases t with
      | number n =>
        rw [Token.readable, (hnumbers n ht).read?_eq]
        rfl
      | text ps => exact hw.texts ps ht
    have hexact : w.value Numeral.read = v := by
      rw [← hw.value]
      refine Written.value_congr fun n hn => ?_
      exact Numeral.read_eq (hnumbers n (Written.mem_tokens_of_mem_survivors hn)).read?_eq
    rw [← toOption_eq_some_iff, Document.parse_bytes, ← hexact]
    exact if_pos haccepted

section

variable {doc : Document} (h : doc.item.Accepted depthMax)

include h

theorem isNumber_read {n : Numeral} (hn : n ∈ doc.item.survivors) : n.read.IsNumber := by
  have hreadable : n.read?.isSome := h.2 (.number n) (Written.mem_tokens_of_mem_survivors hn)
  obtain ⟨v, hv⟩ := Option.isSome_iff_exists.mp hreadable
  rw [Numeral.read_eq hv]
  exact Numeral.isNumber_of_read? hv

/-- What a correctly rounding reader finds in a printed document is what the program has read. -/
theorem rounded_eq_doubles {printed : Document}
    (hexact : printed.item.value Numeral.exact = doc.item.value Numeral.read) :
    printed.rounded = doc.doubles := by
  have hsurvivors : ∀ n ∈ doc.item.survivors, inDoubles n.read = real n.double := fun n hn =>
    inDoubles_read (h.2 (.number n) (Written.mem_tokens_of_mem_survivors hn))
  calc printed.rounded = inDoubles (printed.item.value Numeral.exact) :=
        (Written.value_map numberwise_inDoubles fun n _ => inDoubles_exact n).symm
    _ = inDoubles (doc.item.value Numeral.read) := by rw [hexact]
    _ = doc.doubles := Written.value_map numberwise_inDoubles hsurvivors

/-- **Ordinary numerals are printed as they are read**, so that what is printed is read as the same
value. -/
theorem parse_compact_of_ordinary (hordinary : ∀ n ∈ doc.item.survivors, n.Ordinary) :
    parse (Bytes.ofChars (compactThen (doc.item.value Numeral.read) [])) =
      .ok (doc.item.value Numeral.read) := by
  have hcanonical : (doc.item.value Numeral.read).Canonical (PrintedAs Numeral.Short) depthMax := by
    refine Written.canonical_read h fun n hn => ?_
    have hexact : n.read = n.exact :=
      Numeral.read_eq (hordinary n hn).short.readsNearest.read?_eq
    refine (printedAs_short (isNumber_read h hn)).imp fun m hm => hm ?_
    rw [hexact]
    exact (hordinary n hn).isOrdinary_exact
  obtain ⟨printed, hbytes, -, hshort, hreload⟩ := exists_printed hcanonical
  rw [← hbytes]
  exact hreload fun n hn => (hshort n hn).readsNearest

end

/-- Where the reader makes the nearest doubles, the program has what a correctly rounding reader
has. -/
theorem doubles_eq_rounded {doc : Document} (h : ∀ n ∈ doc.item.survivors, n.ReadsNearest) :
    doc.doubles = doc.rounded := by
  exact Written.value_congr fun n hn => congrArg real (h n hn).double_eq

/-- The numeral `0.1`. -/
def oneTenth : Numeral where
  negative := false
  whole := ⟨[0x30], by decide, List.all_eq_true.mp rfl⟩
  fraction := some ⟨[0x31], by decide, List.all_eq_true.mp rfl⟩
  exponent := none
  lone_zero := by decide

theorem ordinary_oneTenth : oneTenth.Ordinary := by
  have hdigits : oneTenth.digits = 1 := by decide
  have hpower : oneTenth.power = -1 := by decide
  refine .inr (.inr ⟨by decide, ?_, ?_, by decide⟩)
  all_goals
    rw [Numeral.size, hdigits, hpower]
    norm_num

/-- The numeral `5e32`. -/
def fiveE32 : Numeral where
  negative := false
  whole := ⟨[0x35], by decide, List.all_eq_true.mp rfl⟩
  fraction := none
  exponent := some ⟨false, none, ⟨[0x33, 0x32], by decide, List.all_eq_true.mp rfl⟩⟩
  lone_zero := by decide

/-- The numeral `5.0000000000000004e+32`. -/
def driftedE32 : Numeral where
  negative := false
  whole := ⟨[0x35], by decide, List.all_eq_true.mp rfl⟩
  fraction := some ⟨List.replicate 15 0x30 ++ [0x34], by decide, List.all_eq_true.mp rfl⟩
  exponent := some ⟨false, some false, ⟨[0x33, 0x32], by decide, List.all_eq_true.mp rfl⟩⟩
  lone_zero := by decide

end

/-!
## One body for all renderings

However a document without fractions is written, its body is the same: the compact text of its
value. This text is a rendering of the value itself, so that it is its own body, and it is the text
of no other value.
-/

section

open Json

/-- **The body of a value**: its compact text. -/
def bodyOf (v : Json) : Bytes := Bytes.ofString v.compact

theorem bodyOf_eq (v : Json) : bodyOf v = Bytes.ofChars (compactThen v []) := by
  rw [bodyOf, Bytes.ofString, compact, String.toList_ofList]

theorem Json.Canonical.imp {P Q : Json → Prop} {bound : Nat} {v : Json} (h : v.Canonical P bound)
    (himp : ∀ v, P v → Q v) : v.Canonical Q bound := by
  induction h with
  | null => exact .null
  | bool b => exact .bool b
  | number hv => exact .number (himp _ hv)
  | text s => exact .text s
  | list _ ih => exact .list ih
  | object hsorted _ ih => exact .object hsorted ih

/-- The reader finds the value in each of its renderings. -/
theorem parse_rendering {v : Json} {doc : Document} (h : Written.Renders v doc.item)
    (hdepth : doc.item.depth ≤ depthMax) : parse doc.bytes = .ok v := by
  have hread : ∀ {i : Int} {n : Numeral}, (Json.integer i).IsWholeNumber → n.Spells i →
      n.read? = some (.integer i) := by
    intro i n hi hn
    rw [(Numeral.readsNearest_of_isWhole (hn.isWhole hi.isNumber)).read?_eq,
      hn.exact_eq hi.isNumber]
  have haccepted : doc.item.Accepted depthMax := by
    refine ⟨hdepth, fun t ht => ?_⟩
    have hplain := h.plain t ht
    cases t with
    | number n =>
      obtain ⟨i, hi, hn⟩ := hplain
      rw [Token.readable, hread hi hn]
      rfl
    | text ps => exact hplain
  have hvalue : doc.item.value Numeral.read = v :=
    h.value_eq fun i n hi hn => Numeral.read_eq (hread hi hn)
  rw [← toOption_eq_some_iff, Document.parse_bytes, if_pos haccepted, hvalue]

/-- **The body of a file that is a rendering** is the body of the value. -/
theorem loadPayload_rendering (path : String) {v : Json} {doc : Document}
    (h : Written.Renders v doc.item) (hdepth : doc.item.depth ≤ depthMax) :
    loadPayload path (.ok doc.bytes) = .ok (bodyOf v) :=
  loadPayload_eq_ok_iff.mpr ⟨v, parse_rendering h hdepth, bodyOf_eq v⟩

/-- **The body is a compact rendering** of the value. -/
theorem exists_compact_rendering {v : Json} (hv : v.Canonical IsWholeNumber depthMax) :
    ∃ w : Written, w.bytes = bodyOf v ∧ Written.Renders v w ∧ w.depth ≤ depthMax ∧ w.Compact := by
  have hprinted : v.Canonical (PrintedAs fun n => Token.Plain (.number n)) depthMax := by
    refine hv.imp fun u hu => ?_
    cases u with
    | integer i =>
      exact ⟨hu.isNumber, .ofInt i, Numeral.bytes_ofInt i, Numeral.exact_ofInt hu.isNumber, i, hu,
        Numeral.spells_ofInt i⟩
    | _ => exact absurd hu id
  obtain ⟨w, hw, hcompact⟩ := hprinted.exists_prints
  have hplain : ∀ t ∈ w.tokens, t.Plain := by
    intro t ht
    cases t with
    | number n => exact hw.numbers n ht
    | text ps => exact hw.texts ps ht
  refine ⟨w, ?_, hw.value ▸ Written.renders_value hplain, hw.depth, hcompact⟩
  have htext := hw.text []
  rw [bodyOf_eq, htext, Bytes.ofChars_nil, List.append_nil]

def blank : Blanks := ⟨[0x20], List.all_eq_true.mp rfl⟩

/-- The key `a`, escaped. -/
def escapedA : Pieces := [.quad 0x30 0x30 0x36 0x31 0x61 (by decide)]

def plainA : Pieces := [.plain 0x61 (by decide)]

def plainB : Pieces := [.plain 0x62 (by decide)]

/-- The text `{"b":true , "a":null,"\u0061" : [ -3]}`. -/
def rearranged : Document := .tight (.object .none [
  (.tight plainB, ⟨.none, .bool true, blank⟩),
  (⟨blank, plainA, .none⟩, .tight .null),
  (⟨.none, escapedA, blank⟩, ⟨blank, .list blank [.tight (.number (.ofInt (-3)))], .none⟩)])

/-- The object in which `a` is a list and `b` is true. -/
def listAndFlag : Json := .object [("a", .list [.integer (-3)]), ("b", .bool true)]

theorem renders_rearranged : Written.Renders listAndFlag rearranged.item := by
  have htokens : rearranged.item.tokens =
      [.text plainB, .text plainA, .text escapedA, .number (.ofInt (-3))] := rfl
  refine Written.renders_value (w := rearranged.item) fun t ht => ?_
  rw [htokens] at ht
  simp only [List.mem_cons, List.not_mem_nil, or_false] at ht
  rcases ht with rfl | rfl | rfl | rfl
  · exact rfl
  · exact rfl
  · exact rfl
  · exact ⟨-3, ⟨by decide, by decide⟩, Numeral.spells_ofInt (-3)⟩

end

end HttpLoad
