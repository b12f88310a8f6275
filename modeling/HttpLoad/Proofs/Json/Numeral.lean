import Mathlib.Tactic.Common
import HttpLoad.Json.Token

/-!
# Numerals

The number tokens of the grammar of JSON. A numeral has parts, and its bytes are these parts one
after another; it stands for a number whatever the reader makes of it. The reader takes exactly the
numerals, as far as they go, and what it makes of one depends on nothing behind it.

## Main definitions

* `Json.Numeral`: a number token, with `Numeral.bytes`
* `Numeral.digits`, `Numeral.power`: the decimal that it stands for
* `Numeral.nearest`: the double nearest to it
* `Numeral.read?`: what the reader makes of it

## Main results

* `Json.readNumber_numeral`: a numeral is read as such before anything that does not continue it
* `Json.exists_numeral_of_readNumber`: whatever is read as a number is a numeral
-/

namespace HttpLoad

namespace Json

/-! ## Digits -/

/-- The number that bytes stand for as digits behind a number. -/
def digitsFrom (n : Nat) (bytes : Bytes) : Nat := bytes.foldl (fun n d => 10 * n + digitOf d) n

@[simp] theorem digitsFrom_nil (n : Nat) : digitsFrom n [] = n := rfl

@[simp] theorem digitsFrom_cons (n : Nat) (d : UInt8) (ds : Bytes) :
    digitsFrom n (d :: ds) = digitsFrom (10 * n + digitOf d) ds := List.foldl_cons ..

theorem le_digitsFrom (n : Nat) (ds : Bytes) : n ≤ digitsFrom n ds := by
  induction ds generalizing n with
  | nil => exact Nat.le_refl n
  | cons d ds ih =>
    rw [digitsFrom_cons]
    have h := ih (10 * n + digitOf d)
    omega

/-- **A run of digits**, not empty. -/
structure Digits where
  bytes : Bytes
  nonempty : bytes ≠ []
  all_digits : ∀ b ∈ bytes, isDigit b = true

/-- The bytes behind digits do not begin with another one. -/
def NoDigit (rest : Bytes) : Prop := ∀ b ∈ rest.head?, isDigit b = false

theorem noDigit_dropWhile (bytes : Bytes) : NoDigit (bytes.dropWhile isDigit) := by
  intro b hb
  have h := List.head?_dropWhile_not isDigit bytes
  rw [Option.mem_def.mp hb] at h
  simpa using h

theorem NoDigit.takeWhile {rest : Bytes} (h : NoDigit rest) : rest.takeWhile isDigit = [] := by
  cases rest with
  | nil => rfl
  | cons b rest => simp [h b rfl]

theorem NoDigit.dropWhile {rest : Bytes} (h : NoDigit rest) : rest.dropWhile isDigit = rest := by
  cases rest with
  | nil => rfl
  | cons b rest => simp [h b rfl]

theorem NoDigit.any_head? {rest : Bytes} (h : NoDigit rest) : rest.head?.any isDigit = false := by
  cases rest with
  | nil => rfl
  | cons b rest => simp [h b rfl]

section

variable {ds rest : Bytes} (hds : ∀ b ∈ ds, isDigit b = true) (hrest : NoDigit rest)

include hds hrest

theorem takeWhile_digits : (ds ++ rest).takeWhile isDigit = ds := by
  rw [List.takeWhile_append_of_pos hds, hrest.takeWhile, List.append_nil]

theorem dropWhile_digits : (ds ++ rest).dropWhile isDigit = rest := by
  rw [List.dropWhile_append_of_pos hds, hrest.dropWhile]

/-- The digits of an exponent are all read, and give their number while it is not too great. -/
theorem readExponentDigits_digits {n : Nat} (hn : n ≤ exponentMax) :
    ∃ tooFar, readExponentDigits n (ds ++ rest) =
      (if digitsFrom n ds ≤ exponentMax then .ok (digitsFrom n ds) else .error tooFar, rest) := by
  induction ds generalizing n with
  | nil =>
    refine ⟨[], ?_⟩
    rw [List.nil_append, digitsFrom_nil, if_pos hn]
    cases rest with
    | nil => rfl
    | cons b rest => simp [readExponentDigits, hrest b rfl]
  | cons d ds ih =>
    have hd : isDigit d = true := hds d List.mem_cons_self
    have hds' : ∀ b ∈ ds, isDigit b = true := fun b hb => hds b (List.mem_cons_of_mem _ hb)
    rw [List.cons_append, readExponentDigits, if_pos hd, digitsFrom_cons]
    simp only
    split
    next hgreat =>
      have hle := le_digitsFrom (10 * n + digitOf d) ds
      refine ⟨ds ++ rest, ?_⟩
      rw [if_neg (by omega), dropWhile_digits hds' hrest]
    next hsmall => exact ih hds' (by omega)

end

/-! ## The parts of a numeral -/

/-- **The exponent part** of a number. -/
structure Exponent where
  /-- Whether its mark is a capital letter. -/
  capital : Bool
  /-- Whether it has a sign, and whether that one is a minus. -/
  sign : Option Bool
  digits : Digits

namespace Exponent

def signBytes : Option Bool → Bytes
  | none => []
  | some false => [0x2b]
  | some true => [0x2d]

/-- What stands behind the mark. -/
def tail (x : Exponent) : Bytes := signBytes x.sign ++ x.digits.bytes

def bytes (x : Exponent) : Bytes := (if x.capital then 0x45 else 0x65) :: x.tail

/-- Whether the exponent is below zero, if it is not zero. -/
def down (x : Exponent) : Bool := x.sign == some true

/-- The exponent without its sign. -/
def size (x : Exponent) : Nat := digitsFrom 0 x.digits.bytes

def value (x : Exponent) : Int := if x.down then -(x.size : Int) else x.size

end Exponent

/-- The bytes of an exponent part, if there is one. -/
def exponentBytes : Option Exponent → Bytes
  | none => []
  | some x => x.bytes

/-- The digits behind the point, if there are any. -/
def fractionDigits : Option Digits → Bytes
  | none => []
  | some ds => ds.bytes

/-- The point and the digits behind it, if there are any. -/
def fractionBytes : Option Digits → Bytes
  | none => []
  | some ds => 0x2e :: ds.bytes

/-- **A number token.** A zero is not followed by other digits before the point. -/
structure Numeral where
  negative : Bool
  whole : Digits
  fraction : Option Digits
  exponent : Option Exponent
  lone_zero : whole.bytes.head? = some 0x30 → whole.bytes.length = 1

namespace Numeral

/-- The bytes of a numeral behind its sign. -/
def unsigned (n : Numeral) : Bytes :=
  n.whole.bytes ++ (fractionBytes n.fraction ++ exponentBytes n.exponent)

theorem exists_unsigned_eq_cons (n : Numeral) :
    ∃ d tail, n.unsigned = d :: tail ∧ isDigit d = true := by
  obtain ⟨d, ds, hwhole⟩ := List.exists_cons_of_ne_nil n.whole.nonempty
  refine ⟨d, _, by rw [unsigned, hwhole, List.cons_append], n.whole.all_digits d ?_⟩
  rw [hwhole]
  exact List.mem_cons_self

/-- **The bytes of a numeral.** -/
def bytes (n : Numeral) : Bytes := if n.negative then 0x2d :: n.unsigned else n.unsigned

/-- The digits of a numeral as one number. -/
def digits (n : Numeral) : Nat := digitsFrom 0 (n.whole.bytes ++ fractionDigits n.fraction)

/-- The power of ten that belongs to the digits. -/
def power (n : Numeral) : Int :=
  (n.exponent.map Exponent.value).getD 0 - (fractionDigits n.fraction).length

/-- **The double nearest to a numeral.** -/
def nearest (n : Numeral) : Double := Double.ofDecimal n.negative n.digits n.power

/-- **What the reader makes of a numeral**, if it is in range. -/
def read? (n : Numeral) : Option Json :=
  (readNumber n.negative n.unsigned).toOption.map Prod.fst

/-- These bytes do not continue the numeral. -/
def EndsBefore (n : Numeral) (rest : Bytes) : Prop :=
  NoDigit rest ∧ (n.exponent = none → ∀ b ∈ rest.head?, b ≠ 0x65 ∧ b ≠ 0x45 ∧
    (n.fraction = none → b ≠ 0x2e))

end Numeral

/-! ## Reading the parts -/

theorem digitOf_le {b : UInt8} (hb : isDigit b = true) : digitOf b ≤ 9 := by
  simp only [isDigit, Bool.and_eq_true, decide_eq_true_eq] at hb
  have hle : b.toNat ≤ 0x39 := UInt8.le_iff_toNat_le.mp hb.2
  unfold digitOf
  omega

theorem scaledNumber_toOption (negative : Bool) (significand : Nat) (exponent : Int)
    (rest : Bytes) : (scaledNumber negative significand exponent rest).toOption =
      (scaled? significand exponent).map fun x => (real (signed negative x), rest) := by
  unfold scaledNumber
  cases scaled? significand exponent with
  | none => rfl
  | some x => rfl

/-- What the reader makes of a significand and the exponent part behind it. -/
def scaledBy (negative : Bool) (significand : Nat) (start : Int) : Option Exponent → Option Json
  | none => (scaled? significand start).map fun x => real (signed negative x)
  | some x =>
    if x.size ≤ exponentMax then
      (scaled? significand (clampExponent (start + x.value))).map fun x => real (signed negative x)
    else if significand ≠ 0 ∧ !x.down then none
    else some (real (signed negative Double.zero))

/-- A digit is none of the other bytes. -/
theorem ne_of_isDigit {b c : UInt8} (hb : isDigit b = true) (hc : isDigit c = false) : b ≠ c := by
  rintro rfl
  exact absurd (hb.symm.trans hc) (by decide)

section

variable (negative : Bool) (significand : Nat) (start : Int) (x : Exponent) {d : UInt8}
  (hd : isDigit d = true) {bytes rest : Bytes}

include hd

/-- An exponent whose digits give a number. -/
theorem readExponent_of_ok {e : Nat}
    (h : readExponentDigits (digitOf d) bytes = (.ok e, rest)) :
    readExponent negative significand start (Exponent.signBytes x.sign ++ d :: bytes) =
      scaledNumber negative significand
        (clampExponent (start + if x.down then -(e : Int) else e)) rest := by
  have hplus : d ≠ 0x2b := ne_of_isDigit hd (by decide)
  have hminus : d ≠ 0x2d := ne_of_isDigit hd (by decide)
  unfold Exponent.down
  match x.sign with
  | some false => simp [readExponent, Exponent.signBytes, hd, h]
  | some true => simp [readExponent, Exponent.signBytes, hd, h, Int.sub_eq_add_neg]
  | none => simp [readExponent, Exponent.signBytes, hd, hplus, hminus, h]

/-- An exponent whose digits give too great a number. -/
theorem readExponent_of_error {tooFar : Bytes}
    (h : readExponentDigits (digitOf d) bytes = (.error tooFar, rest)) :
    readExponent negative significand start (Exponent.signBytes x.sign ++ d :: bytes) =
      if significand ≠ 0 ∧ !x.down then .error (.here .numberOutOfRange tooFar)
      else .ok (real (signed negative Double.zero), rest) := by
  have hplus : d ≠ 0x2b := ne_of_isDigit hd (by decide)
  have hminus : d ≠ 0x2d := ne_of_isDigit hd (by decide)
  unfold Exponent.down
  match x.sign with
  | some false => simp [readExponent, Exponent.signBytes, hd, h]
  | some true => simp [readExponent, Exponent.signBytes, hd, h]
  | none => simp [readExponent, Exponent.signBytes, hd, hplus, hminus, h]

end

/-- The exponent part behind its mark is read as such. -/
theorem readExponent_tail (negative : Bool) (significand : Nat) (start : Int) (x : Exponent)
    {rest : Bytes} (hrest : NoDigit rest) :
    (readExponent negative significand start (x.tail ++ rest)).toOption =
      (scaledBy negative significand start (some x)).map fun v => (v, rest) := by
  obtain ⟨d, ds, hbytes⟩ := List.exists_cons_of_ne_nil x.digits.nonempty
  have hds := x.digits.all_digits
  rw [hbytes] at hds
  have hd : isDigit d = true := hds d List.mem_cons_self
  have hsize : x.size = digitsFrom (digitOf d) ds := by
    rw [Exponent.size, hbytes, digitsFrom_cons, Nat.mul_zero, Nat.zero_add]
  obtain ⟨tooFar, hdigits⟩ := readExponentDigits_digits (n := digitOf d)
    (fun b hb => hds b (List.mem_cons_of_mem _ hb)) hrest
    (Nat.le_trans (digitOf_le hd) (by decide))
  rw [← hsize] at hdigits
  rw [Exponent.tail, hbytes, List.append_assoc, List.cons_append, scaledBy]
  split at hdigits
  next hle =>
    rw [readExponent_of_ok _ _ _ _ hd hdigits, scaledNumber_toOption, if_pos hle, Option.map_map]
    rfl
  next hgreat =>
    rw [readExponent_of_error _ _ _ _ hd hdigits, if_neg hgreat]
    split <;> rfl

/-- What may follow the digits of a numeral is read as such. -/
theorem readScaled_exponentBytes (negative : Bool) (significand : Nat) (start : Int)
    (x : Option Exponent) {rest : Bytes} (hrest : NoDigit rest)
    (hmark : x = none → ∀ b ∈ rest.head?, b ≠ 0x65 ∧ b ≠ 0x45) :
    (readScaled negative significand start (exponentBytes x ++ rest)).toOption =
      (scaledBy negative significand start x).map fun v => (v, rest) := by
  cases x with
  | some x =>
    rw [← readExponent_tail negative significand start x hrest]
    obtain ⟨capital, sign, ds⟩ := x
    cases capital <;> rfl
  | none =>
    have hscaled : readScaled negative significand start rest =
        scaledNumber negative significand start rest := by
      cases rest with
      | nil => rfl
      | cons b rest =>
        obtain ⟨hsmall, hcapital⟩ := hmark rfl b rfl
        simp [readScaled, hsmall, hcapital]
    rw [exponentBytes, List.nil_append, hscaled, scaledNumber_toOption, scaledBy, Option.map_map]
    rfl

theorem noDigit_exponentBytes (x : Option Exponent) {rest : Bytes} (hrest : NoDigit rest) :
    NoDigit (exponentBytes x ++ rest) := by
  cases x with
  | none => exact hrest
  | some x =>
    intro b hb
    cases hcapital : x.capital <;>
      simp only [exponentBytes, Exponent.bytes, hcapital, List.cons_append, List.head?_cons,
        Option.mem_def, Option.some.injEq] at hb
    all_goals
      subst hb
      decide

/-- The digits behind the point, and the exponent part behind these, are read as such. -/
theorem readFraction_digits (negative : Bool) (significand : Nat) (start : Int) (f : Digits)
    (x : Option Exponent) {rest : Bytes} (hrest : NoDigit rest)
    (hmark : x = none → ∀ b ∈ rest.head?, b ≠ 0x65 ∧ b ≠ 0x45) :
    (readFraction negative significand start (f.bytes ++ (exponentBytes x ++ rest))).toOption =
      (scaledBy negative (gather significand f.bytes).1
        (start - (f.bytes.length - (gather significand f.bytes).2.length : Nat)) x).map
        fun v => (v, rest) := by
  have htail := noDigit_exponentBytes x hrest
  unfold readFraction
  simp only
  rw [takeWhile_digits f.all_digits htail, dropWhile_digits f.all_digits htail,
    if_neg (by simpa using f.nonempty)]
  exact readScaled_exponentBytes _ _ _ x hrest hmark

/-! ## Reading a numeral -/

/-- A zero that no digit follows is not padded. -/
theorem not_padded {d : UInt8} {ds tail : Bytes} (hzero : d = 0x30 → ds = [])
    (htail : NoDigit tail) : ¬(d = 0x30 ∧ (ds ++ tail).head?.any isDigit) := by
  rintro ⟨hd, hnext⟩
  rw [hzero hd, List.nil_append, htail.any_head?] at hnext
  exact absurd hnext (by decide)

section

variable (negative : Bool) {d : UInt8} {ds tail : Bytes} (hd : isDigit d = true)
  (hds : ∀ b ∈ ds, isDigit b = true) (hzero : d = 0x30 → ds = [])

include hd hds hzero

/-- Digits and a point: the digits behind it are read next. -/
theorem readNumber_point : readNumber negative (d :: (ds ++ 0x2e :: tail)) =
    readFraction negative (gather 0 (d :: ds)).1 (gather 0 (d :: ds)).2.length tail := by
  have hpoint : NoDigit (0x2e :: tail) := by
    rintro b ⟨⟩
    decide
  have hlone := not_padded hzero hpoint
  simp only [readNumber, hd, takeWhile_digits hds hpoint, dropWhile_digits hds hpoint]
  rw [if_neg (by decide), if_neg hlone]

/-- Digits without a point. -/
theorem readNumber_plain (htail : NoDigit tail) (hpoint : ∀ b ∈ tail.head?, b ≠ 0x2e) :
    readNumber negative (d :: (ds ++ tail)) =
      if (gather 0 (d :: ds)).2.isEmpty ∧
          !(tail.head?.any fun b => b == 0x65 || b == 0x45) then
        .ok (wholeNumber negative (gather 0 (d :: ds)).1, tail)
      else readScaled negative (gather 0 (d :: ds)).1 (gather 0 (d :: ds)).2.length tail := by
  have hlone := not_padded hzero htail
  simp only [readNumber, hd, takeWhile_digits hds htail, dropWhile_digits hds htail]
  rw [if_neg (by decide), if_neg hlone]
  split
  next fraction => exact absurd rfl (hpoint 0x2e rfl)
  next => rfl

end

/-- What the reader makes of the parts of a numeral. -/
def Numeral.outcome (n : Numeral) : Option Json :=
  let (significand, left) := gather 0 n.whole.bytes
  match n.fraction with
  | some f =>
    let (significand, left') := gather significand f.bytes
    scaledBy n.negative significand (left.length - (f.bytes.length - left'.length : Nat)) n.exponent
  | none =>
    if left.isEmpty ∧ n.exponent.isNone then some (wholeNumber n.negative significand)
    else scaledBy n.negative significand left.length n.exponent

/-- Before what does not continue a numeral, the reader takes its parts. -/
theorem readNumber_numeral_outcome (n : Numeral) {rest : Bytes} (hrest : n.EndsBefore rest) :
    (readNumber n.negative (n.unsigned ++ rest)).toOption = n.outcome.map fun v => (v, rest) := by
  obtain ⟨negative, whole, fraction, x, hlone⟩ := n
  obtain ⟨hdigit, hmark⟩ := hrest
  obtain ⟨d, ds, hwhole⟩ := List.exists_cons_of_ne_nil whole.nonempty
  have hds := whole.all_digits
  rw [hwhole] at hds hlone
  have hd : isDigit d = true := hds d List.mem_cons_self
  have hds' : ∀ b ∈ ds, isDigit b = true := fun b hb => hds b (List.mem_cons_of_mem _ hb)
  have hzero : d = 0x30 → ds = [] := by
    rintro rfl
    simpa using hlone rfl
  have hexponent := noDigit_exponentBytes x hdigit
  simp only [Numeral.unsigned, Numeral.outcome, hwhole]
  cases fraction with
  | some f =>
    simp only [fractionBytes, List.cons_append, List.append_assoc]
    rw [readNumber_point negative hd hds' hzero]
    exact readFraction_digits negative _ _ f x hdigit fun hx b hb =>
      ⟨(hmark hx b hb).1, (hmark hx b hb).2.1⟩
  | none =>
    simp only [fractionBytes, List.cons_append, List.append_assoc, List.nil_append]
    cases x with
    | some x =>
      have hhead : ((exponentBytes (some x) ++ rest).head?.any fun b => b == 0x65 || b == 0x45) =
          true := by
        cases hcapital : x.capital <;> simp [exponentBytes, Exponent.bytes, hcapital]
      have hpoint : ∀ b ∈ (exponentBytes (some x) ++ rest).head?, b ≠ 0x2e := by
        cases hcapital : x.capital <;> simp [exponentBytes, Exponent.bytes, hcapital]
      rw [readNumber_plain negative hd hds' hzero hexponent hpoint,
        if_neg fun h => absurd h.2 (by rw [hhead]; decide), if_neg (by simp)]
      exact readScaled_exponentBytes negative _ _ (some x) hdigit (by simp)
    | none =>
      have hhead : (rest.head?.any fun b => b == 0x65 || b == 0x45) = false := by
        cases rest with
        | nil => rfl
        | cons b rest =>
          obtain ⟨hsmall, hcapital, -⟩ := hmark rfl b rfl
          simp [hsmall, hcapital]
      have hpoint : ∀ b ∈ rest.head?, b ≠ 0x2e := fun b hb => (hmark rfl b hb).2.2 rfl
      simp only [exponentBytes, List.nil_append]
      rw [readNumber_plain negative hd hds' hzero hdigit hpoint]
      by_cases hleft : (gather 0 (d :: ds)).2.isEmpty = true
      · rw [if_pos ⟨hleft, by simp [hhead]⟩, if_pos ⟨hleft, rfl⟩]
        rfl
      · rw [if_neg fun h => hleft h.1, if_neg fun h => hleft h.1]
        exact readScaled_exponentBytes negative _ _ none hdigit fun _ b hb =>
          ⟨(hmark rfl b hb).1, (hmark rfl b hb).2.1⟩

theorem Numeral.endsBefore_nil (n : Numeral) : n.EndsBefore [] :=
  ⟨fun _ h => absurd h (by simp), fun _ _ h => absurd h (by simp)⟩

theorem Numeral.read?_eq_outcome (n : Numeral) : n.read? = n.outcome := by
  have h := readNumber_numeral_outcome n n.endsBefore_nil
  rw [List.append_nil] at h
  rw [Numeral.read?, h, Option.map_map]
  exact Option.map_id'

/-- **A numeral is read as such**, before anything that does not continue it. -/
theorem readNumber_numeral (n : Numeral) {rest : Bytes} (hrest : n.EndsBefore rest) :
    (readNumber n.negative (n.unsigned ++ rest)).toOption = n.read?.map fun v => (v, rest) := by
  rw [n.read?_eq_outcome]
  exact readNumber_numeral_outcome n hrest

/-! ## Whatever is read is a numeral -/

/-- Bytes begin with a sign, or with none. -/
theorem exists_signBytes (bytes : Bytes) : ∃ sign digits,
    bytes = Exponent.signBytes sign ++ digits ∧
      (sign = none → ∀ b ∈ digits.head?, b ≠ 0x2b ∧ b ≠ 0x2d) := by
  cases bytes with
  | nil => exact ⟨none, [], rfl, fun _ b hb => absurd hb (by simp)⟩
  | cons b rest =>
    by_cases hplus : b = 0x2b
    · exact ⟨some false, rest, by rw [hplus]; rfl, fun h => absurd h (by simp)⟩
    · by_cases hminus : b = 0x2d
      · exact ⟨some true, rest, by rw [hminus]; rfl, fun h => absurd h (by simp)⟩
      · refine ⟨none, b :: rest, rfl, ?_⟩
        rintro - c ⟨⟩
        exact ⟨hplus, hminus⟩

/-- Behind the mark of an exponent that is read there are digits, perhaps with a sign. -/
theorem exists_digit_of_readExponent {negative : Bool} {significand : Nat} {start : Int}
    {bytes : Bytes} {result : Json × Bytes}
    (h : readExponent negative significand start bytes = .ok result) :
    ∃ sign d rest, bytes = Exponent.signBytes sign ++ d :: rest ∧ isDigit d = true := by
  obtain ⟨sign, digits, rfl, hnone⟩ := exists_signBytes bytes
  cases digits with
  | nil =>
    cases sign with
    | none => simp [readExponent, Exponent.signBytes] at h
    | some down => cases down <;> simp [readExponent, Exponent.signBytes] at h
  | cons d rest =>
    refine ⟨sign, d, rest, rfl, ?_⟩
    by_contra hnot
    have hd : isDigit d = false := Bool.eq_false_iff.mpr hnot
    cases sign with
    | none =>
      obtain ⟨hplus, hminus⟩ := hnone rfl d rfl
      simp [readExponent, Exponent.signBytes, hd, hplus, hminus] at h
    | some down => cases down <;> simp [readExponent, Exponent.signBytes, hd] at h

/-- A first digit and all that follow it. -/
def Digits.ofHead {d : UInt8} (hd : isDigit d = true) (rest : Bytes) : Digits where
  bytes := d :: rest.takeWhile isDigit
  nonempty := List.cons_ne_nil _ _
  all_digits := by
    intro b hb
    rcases List.mem_cons.mp hb with rfl | hb
    · exact hd
    · exact List.all_eq_true.mp List.all_takeWhile b hb

theorem Digits.ofHead_append {d : UInt8} (hd : isDigit d = true) (rest : Bytes) :
    (Digits.ofHead hd rest).bytes ++ rest.dropWhile isDigit = d :: rest := by
  rw [Digits.ofHead, List.cons_append, List.takeWhile_append_dropWhile]

/-- Behind the digits of a number that is read there is an exponent part, or nothing that could be
one. -/
theorem exists_exponent_of_readScaled {negative : Bool} {significand : Nat} {start : Int}
    {bytes : Bytes} (hdigit : NoDigit bytes) {result : Json × Bytes}
    (h : readScaled negative significand start bytes = .ok result) :
    ∃ x rest, bytes = exponentBytes x ++ rest ∧ NoDigit rest ∧
      (x = none → ∀ b ∈ rest.head?, b ≠ 0x65 ∧ b ≠ 0x45) := by
  cases bytes with
  | nil => exact ⟨none, [], rfl, hdigit, fun _ b hb => absurd hb (by simp)⟩
  | cons b bytes =>
    by_cases hmark : b = 0x65 ∨ b = 0x45
    · rw [readScaled, if_pos hmark] at h
      obtain ⟨sign, d, rest, rfl, hd⟩ := exists_digit_of_readExponent h
      refine ⟨some ⟨b == 0x45, sign, .ofHead hd rest⟩, rest.dropWhile isDigit, ?_,
        noDigit_dropWhile rest, fun h => absurd h (by simp)⟩
      rw [exponentBytes, Exponent.bytes, Exponent.tail, List.cons_append, List.append_assoc,
        Digits.ofHead_append]
      rcases hmark with rfl | rfl <;> rfl
    · refine ⟨none, b :: bytes, rfl, hdigit, ?_⟩
      rintro - c ⟨⟩
      exact not_or.mp hmark

/-- Behind the point of a number that is read there are digits, and perhaps an exponent part. -/
theorem exists_fraction_of_readFraction {negative : Bool} {significand : Nat} {start : Int}
    {bytes : Bytes} {result : Json × Bytes}
    (h : readFraction negative significand start bytes = .ok result) :
    ∃ (f : Digits) (x : Option Exponent) (rest : Bytes),
      bytes = f.bytes ++ (exponentBytes x ++ rest) ∧ NoDigit rest ∧
      (x = none → ∀ b ∈ rest.head?, b ≠ 0x65 ∧ b ≠ 0x45) := by
  unfold readFraction at h
  simp only at h
  split at h
  next => exact absurd h (by simp)
  next hdigits =>
    obtain ⟨x, rest, hrest, hdigit, hmark⟩ :=
      exists_exponent_of_readScaled (noDigit_dropWhile bytes) h
    let f : Digits := ⟨bytes.takeWhile isDigit, by simpa using hdigits,
      fun b hb => List.all_eq_true.mp List.all_takeWhile b hb⟩
    refine ⟨f, x, rest, ?_, hdigit, hmark⟩
    rw [← hrest]
    exact List.takeWhile_append_dropWhile.symm

/-- A number that is read begins with a digit, and with a zero only if no other one follows. -/
theorem exists_digit_of_readNumber {negative : Bool} {bytes : Bytes} {result : Json × Bytes}
    (h : readNumber negative bytes = .ok result) :
    ∃ d tail, bytes = d :: tail ∧ isDigit d = true ∧
      (d = 0x30 → tail.takeWhile isDigit = []) := by
  cases bytes with
  | nil => exact absurd h (by simp [readNumber])
  | cons d tail =>
    have hd : isDigit d = true := by
      by_contra hnot
      have hd : isDigit d = false := Bool.eq_false_iff.mpr hnot
      simp [readNumber, hd] at h
    have hlone : ¬(d = 0x30 ∧ tail.head?.any isDigit) := fun hpadded => by
      rw [readNumber, if_neg (by simp [hd]), if_pos hpadded] at h
      exact absurd h (by simp)
    refine ⟨d, tail, rfl, hd, ?_⟩
    rintro rfl
    cases tail with
    | nil => rfl
    | cons b tail => exact List.takeWhile_cons_of_neg (by simpa using hlone)

/-- A number that is read has the parts of a numeral. -/
theorem exists_parts_of_readNumber {negative : Bool} {bytes : Bytes} {result : Json × Bytes}
    (h : readNumber negative bytes = .ok result) :
    ∃ (n : Numeral) (rest : Bytes), n.negative = negative ∧ bytes = n.unsigned ++ rest ∧
      n.EndsBefore rest := by
  obtain ⟨d, bytes, rfl, hd, hzero⟩ := exists_digit_of_readNumber h
  have hds : ∀ b ∈ bytes.takeWhile isDigit, isDigit b = true :=
    fun b hb => List.all_eq_true.mp List.all_takeWhile b hb
  have hwhole : (Digits.ofHead hd bytes).bytes.head? = some 0x30 →
      (Digits.ofHead hd bytes).bytes.length = 1 := by
    rintro ⟨⟩
    simp [Digits.ofHead, hzero rfl]
  have htail := noDigit_dropWhile bytes
  rw [← List.takeWhile_append_dropWhile (p := isDigit) (l := bytes)] at h
  rw [← Digits.ofHead_append hd bytes]
  by_cases hpoint : ∃ fraction, bytes.dropWhile isDigit = 0x2e :: fraction
  · obtain ⟨fraction, hfraction⟩ := hpoint
    rw [hfraction, readNumber_point negative hd hds hzero] at h
    obtain ⟨f, x, rest, rfl, hdigit, hmark⟩ := exists_fraction_of_readFraction h
    refine ⟨⟨negative, .ofHead hd bytes, some f, x, hwhole⟩, rest, rfl, ?_, hdigit,
      fun hx b hb => ⟨(hmark hx b hb).1, (hmark hx b hb).2, by simp⟩⟩
    simp [hfraction, Numeral.unsigned, fractionBytes]
  · have hpoint : ∀ b ∈ (bytes.dropWhile isDigit).head?, b ≠ 0x2e := by
      rintro b hb rfl
      exact hpoint (List.head?_eq_some_iff.mp hb)
    rw [readNumber_plain negative hd hds hzero htail hpoint] at h
    split at h
    next hplain =>
      have hmark : ∀ b ∈ (bytes.dropWhile isDigit).head?, b ≠ 0x65 ∧ b ≠ 0x45 := by
        intro b hb
        have hnot := hplain.2
        rw [Option.mem_def.mp hb] at hnot
        simpa using hnot
      refine ⟨⟨negative, .ofHead hd bytes, none, none, hwhole⟩, bytes.dropWhile isDigit, rfl, ?_,
        htail, fun _ b hb => ⟨(hmark b hb).1, (hmark b hb).2, fun _ => hpoint b hb⟩⟩
      simp [Numeral.unsigned, fractionBytes, exponentBytes]
    next =>
      obtain ⟨x, rest, hrest, hdigit, hmark⟩ := exists_exponent_of_readScaled htail h
      refine ⟨⟨negative, .ofHead hd bytes, none, x, hwhole⟩, rest, rfl, ?_, hdigit,
        fun hx b hb => ⟨(hmark hx b hb).1, (hmark hx b hb).2, fun _ => ?_⟩⟩
      · simp [hrest, Numeral.unsigned, fractionBytes]
      · have hx : x = none := hx
        subst hx
        exact hpoint b (by rw [hrest]; exact hb)

/-- **Whatever is read as a number is a numeral**, as far as it goes. -/
theorem exists_numeral_of_readNumber {negative : Bool} {bytes rest : Bytes} {v : Json}
    (h : readNumber negative bytes = .ok (v, rest)) :
    ∃ n : Numeral, n.negative = negative ∧ bytes = n.unsigned ++ rest ∧ n.EndsBefore rest ∧
      n.read? = some v := by
  obtain ⟨n, tail, rfl, rfl, htail⟩ := exists_parts_of_readNumber h
  have hread := readNumber_numeral n htail
  rw [h] at hread
  obtain ⟨w, hw, hresult⟩ := Option.map_eq_some_iff.mp hread.symm
  obtain ⟨rfl, rfl⟩ := Prod.mk.inj hresult
  exact ⟨n, rfl, rfl, htail, hw⟩

end Json

end HttpLoad
