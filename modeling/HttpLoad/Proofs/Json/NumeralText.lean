import HttpLoad.Proofs.Basic
import HttpLoad.Proofs.Json.NumeralValue
import HttpLoad.Proofs.Number.Shortest

/-!
# Numbers are written as numerals

The text of a whole number and the text of a finite double are numerals, and a correctly rounding
reader makes of them the number that was written.

## Main definitions

* `Json.Digits.ofChars`: digits as they are written
* `Numeral.ofInt`, `Numeral.pointed`: numerals from the characters of their parts
* `Numeral.Spells`: a numeral is a whole number in plain form
* `Json.PrintedAs`: a number that is written as a numeral that stands for it
* `Numeral.size`: the number that a numeral stands for, without its sign
* `Numeral.Ordinary`: whole numbers of 64 bits, zeros, and few digits for a number of common size

## Main results

* `Json.printedAs_short`: a number is written as a numeral that stands for it
* `Numeral.Ordinary.short`: ordinary numerals are read as the nearest double
* `Numeral.Ordinary.isOrdinary_exact`: what they are read as is printed as a short numeral
-/

namespace HttpLoad

namespace Json

open Double

/-! ## Digits as characters -/

/-- **Characters that are digits**, at least one of them. -/
structure DigitChars (cs : List Char) : Prop where
  nonempty : cs ≠ []
  all_digits : ∀ c ∈ cs, c.isDigit = true

theorem digitChars_decimalDigits (n : Nat) : DigitChars (decimalDigits n) :=
  ⟨decimalDigits_ne_nil n, fun _ h => isDigit_of_mem_decimalDigits h⟩

theorem digitChars_zeros {n : Nat} (hn : n ≠ 0) : DigitChars (List.replicate n '0') :=
  ⟨by simpa using hn, fun c hc => (List.eq_of_mem_replicate hc) ▸ rfl⟩

theorem DigitChars.append {cs ds : List Char} (hcs : DigitChars cs)
    (hds : ∀ c ∈ ds, c.isDigit = true) : DigitChars (cs ++ ds) :=
  ⟨by simp [hcs.nonempty], List.forall_mem_append.mpr ⟨hcs.all_digits, hds⟩⟩

/-- The byte of a decimal digit. -/
theorem utf8EncodeChar_of_isDigit {c : Char} (hc : c.isDigit = true) :
    ∃ b, String.utf8EncodeChar c = [b] ∧ isDigit b = true ∧ digitOf b = c.toNat - '0'.toNat := by
  obtain ⟨hzero, hnine⟩ := Char.isDigit_iff_toNat.mp hc
  have hlower : 0x30 ≤ c.toNat := hzero
  have hupper : c.toNat ≤ 0x39 := hnine
  have hbyte : (UInt8.ofNat c.toNat).toNat = c.toNat :=
    UInt8.toNat_ofNat_of_lt' (Nat.lt_of_le_of_lt hupper (by decide))
  refine ⟨_, Bytes.utf8EncodeChar_of_lt (by omega), ?_, by rw [digitOf, hbyte]; rfl⟩
  rw [isDigit, Bool.and_eq_true, decide_eq_true_eq, decide_eq_true_eq, UInt8.le_iff_toNat_le,
    UInt8.le_iff_toNat_le, hbyte]
  exact ⟨hlower, hupper⟩

theorem isDigit_of_mem_ofChars {cs : List Char} (hcs : ∀ c ∈ cs, c.isDigit = true) :
    ∀ b ∈ Bytes.ofChars cs, isDigit b = true := by
  intro b hb
  obtain ⟨c, hc, hb⟩ := List.mem_flatMap.mp hb
  obtain ⟨d, hd, hdigit, -⟩ := utf8EncodeChar_of_isDigit (hcs c hc)
  rw [hd, List.mem_singleton] at hb
  exact hb ▸ hdigit

theorem digitsFrom_ofChars {cs : List Char} (hcs : ∀ c ∈ cs, c.isDigit = true) (n : Nat) :
    digitsFrom n (Bytes.ofChars cs) = Nat.ofDigitChars 10 cs n := by
  induction cs generalizing n with
  | nil => rfl
  | cons c cs ih =>
    obtain ⟨hc, hcs⟩ := List.forall_mem_cons.mp hcs
    obtain ⟨d, hd, -, hvalue⟩ := utf8EncodeChar_of_isDigit hc
    rw [Bytes.ofChars_cons, hd, List.singleton_append, digitsFrom_cons, hvalue, ih hcs,
      Nat.ofDigitChars_cons]

theorem length_ofChars {cs : List Char} (hcs : ∀ c ∈ cs, c.isDigit = true) :
    (Bytes.ofChars cs).length = cs.length := by
  induction cs with
  | nil => rfl
  | cons c cs ih =>
    obtain ⟨hc, hcs⟩ := List.forall_mem_cons.mp hcs
    obtain ⟨d, hd, -⟩ := utf8EncodeChar_of_isDigit hc
    rw [Bytes.ofChars_cons, hd, List.singleton_append, List.length_cons, ih hcs, List.length_cons]

/-- **Digits as they are written.** -/
def Digits.ofChars (cs : List Char) (hcs : DigitChars cs) : Digits where
  bytes := Bytes.ofChars cs
  nonempty := by
    rw [ne_eq, ← List.length_eq_zero_iff, length_ofChars hcs.all_digits, List.length_eq_zero_iff]
    exact hcs.nonempty
  all_digits := isDigit_of_mem_ofChars hcs.all_digits

@[simp] theorem Digits.bytes_ofChars {cs : List Char} (hcs : DigitChars cs) :
    (ofChars cs hcs).bytes = Bytes.ofChars cs := rfl

/-- Digits that begin with a zero only if there is no other. -/
theorem Digits.lone_zero_ofChars {cs : List Char} (hcs : DigitChars cs)
    (hlone : cs.head? = some '0' → cs = ['0']) (hzero : (ofChars cs hcs).bytes.head? = some 0x30) :
    (ofChars cs hcs).bytes.length = 1 := by
  obtain ⟨c, rest, rfl⟩ := List.exists_cons_of_ne_nil hcs.nonempty
  have hc := hcs.all_digits c List.mem_cons_self
  obtain ⟨d, hd, -, hvalue⟩ := utf8EncodeChar_of_isDigit hc
  have hhead : d = 0x30 := by
    change (String.utf8EncodeChar c ++ Bytes.ofChars rest).head? = some 0x30 at hzero
    rw [hd] at hzero
    exact Option.some.inj hzero
  have hlower : '0'.toNat ≤ c.toNat := (Char.isDigit_iff_toNat.mp hc).1
  have hchar : c = '0' := by
    refine Char.toNat_inj.mp ?_
    have hdigit : digitOf 0x30 = 0 := by decide
    rw [hhead, hdigit] at hvalue
    omega
  rw [hchar] at hlone
  change (Bytes.ofChars (c :: rest)).length = 1
  rw [hchar, hlone rfl]
  rfl

namespace Numeral

/-! ## Whole numbers -/

/-- A whole number as a numeral. -/
def ofInt (i : Int) : Numeral where
  negative := decide (i < 0)
  whole := .ofChars _ (digitChars_decimalDigits i.natAbs)
  fraction := none
  exponent := none
  lone_zero := Digits.lone_zero_ofChars _ fun h => by
    rcases Nat.eq_zero_or_pos i.natAbs with hzero | hpos
    · rw [hzero]
      rfl
    · exact absurd h (head?_decimalDigits_ne hpos)

theorem digits_ofInt (i : Int) : (ofInt i).digits = i.natAbs := by
  rw [digits, ofInt, fractionDigits, List.append_nil, Digits.bytes_ofChars,
    digitsFrom_ofChars (digitChars_decimalDigits _).all_digits]
  exact Nat.ofDigitChars_ten_toDigits

theorem bytes_ofInt (i : Int) : (ofInt i).bytes = Bytes.ofChars (integerText i) := by
  have hunsigned : (ofInt i).unsigned = Bytes.ofChars (decimalDigits i.natAbs) := by
    rw [unsigned, ofInt, fractionBytes, exponentBytes, List.append_nil, List.append_nil,
      Digits.bytes_ofChars]
  rw [bytes, hunsigned]
  cases i with
  | ofNat n => exact if_neg (by simp [ofInt])
  | negSucc n => exact if_pos (decide_eq_true (Int.negSucc_lt_zero n))

/-- **A numeral spells a whole number** in plain form: with neither a point nor an exponent, and
with a minus only below zero. -/
structure Spells (n : Numeral) (i : Int) : Prop where
  fraction : n.fraction = none
  exponent : n.exponent = none
  negative : n.negative = decide (i < 0)
  digits : n.digits = i.natAbs

theorem spells_ofInt (i : Int) : (ofInt i).Spells i := ⟨rfl, rfl, rfl, digits_ofInt i⟩

section

variable {n : Numeral} {i : Int} (h : n.Spells i) (hi : (Json.integer i).IsNumber)
include h hi

theorem Spells.isWhole : n.IsWhole := by
  have hdigits := h.digits
  have hmax : significandMax = 2 ^ 64 - 1 := rfl
  obtain ⟨hlower, hupper⟩ := hi
  exact ⟨by rw [h.fraction]; rfl, by rw [h.exponent]; rfl, by omega⟩

/-- **A whole number that fits is read off its spelling.** -/
theorem Spells.exact_eq : n.exact = integer i := by
  have hbound : Nat.pow 2 63 = 2 ^ 63 := rfl
  rw [exact, if_pos (h.isWhole hi), h.digits, h.negative]
  obtain ⟨hlower, hupper⟩ := hi
  unfold wholeNumber
  by_cases hneg : i < 0
  · rw [if_neg (by simpa using hneg), if_neg (by omega)]
    exact congrArg integer (by omega)
  · rw [if_pos (by simpa using hneg)]
    exact congrArg integer (by omega)

end

theorem isWhole_ofInt {i : Int} (hi : (Json.integer i).IsNumber) : (ofInt i).IsWhole :=
  (spells_ofInt i).isWhole hi

theorem exact_ofInt {i : Int} (hi : (Json.integer i).IsNumber) : (ofInt i).exact = integer i :=
  (spells_ofInt i).exact_eq hi

/-! ## Numbers that are not whole -/

section

variable (negative : Bool) {whole fraction : List Char} (hwhole : DigitChars whole)
  (hlone : whole.head? = some '0' → whole = ['0']) (hfraction : DigitChars fraction)

/-- **A numeral with a point**, from the characters of its parts. -/
def pointed : Numeral where
  negative := negative
  whole := .ofChars whole hwhole
  fraction := some (.ofChars fraction hfraction)
  exponent := none
  lone_zero := Digits.lone_zero_ofChars hwhole hlone

theorem unsigned_pointed : (pointed negative hwhole hlone hfraction).unsigned =
    Bytes.ofChars (whole ++ '.' :: fraction) := by
  rw [Bytes.ofChars_append, Bytes.ofChars_cons, unsigned, pointed, fractionBytes, exponentBytes,
    List.append_nil, Digits.bytes_ofChars, Digits.bytes_ofChars]
  rfl

theorem digits_pointed : (pointed negative hwhole hlone hfraction).digits =
    Nat.ofDigitChars 10 (whole ++ fraction) 0 := by
  rw [digits, pointed, fractionDigits, Digits.bytes_ofChars, Digits.bytes_ofChars,
    ← Bytes.ofChars_append]
  exact digitsFrom_ofChars
    (List.forall_mem_append.mpr ⟨hwhole.all_digits, hfraction.all_digits⟩) 0

theorem power_pointed : (pointed negative hwhole hlone hfraction).power = -fraction.length := by
  rw [power, pointed, fractionDigits, Digits.bytes_ofChars, length_ofChars hfraction.all_digits]
  exact Int.zero_sub _

end

/-- The exponent part of scientific notation, with its sign. -/
def signedExponent (e : Int) : Exponent where
  capital := false
  sign := some (decide (e < 0))
  digits := .ofChars _ (digitChars_decimalDigits e.natAbs)

theorem size_signedExponent (e : Int) : (signedExponent e).size = e.natAbs := by
  rw [Exponent.size, signedExponent, Digits.bytes_ofChars,
    digitsFrom_ofChars (digitChars_decimalDigits _).all_digits]
  exact Nat.ofDigitChars_ten_toDigits

theorem value_signedExponent (e : Int) : (signedExponent e).value = e := by
  have hdown : (signedExponent e).down = decide (e < 0) := by simp [Exponent.down, signedExponent]
  rw [Exponent.value, size_signedExponent, hdown]
  split
  next h => have := of_decide_eq_true h; omega
  next h => have := of_decide_eq_false (Bool.eq_false_iff.mpr h); omega

theorem bytes_signedExponent (e : Int) : (signedExponent e).bytes =
    Bytes.ofChars ('e' :: (if e < 0 then '-' else '+') :: decimalDigits e.natAbs) := by
  rw [Exponent.bytes, Exponent.tail, signedExponent, Digits.bytes_ofChars, Bytes.ofChars_cons,
    Bytes.ofChars_cons]
  by_cases h : e < 0
  · rw [decide_eq_true h, if_pos h]
    rfl
  · rw [decide_eq_false h, if_neg h]
    rfl

/-- **A numeral is written like a decimal**, and has its value. -/
structure Writes (n : Numeral) (d : Decimal) : Prop where
  unsigned : n.unsigned = Bytes.ofChars d.text
  not_whole : ¬n.IsWhole
  value : decimalValue n.digits n.power = decimalValue d.digits d.exponent
  short : d.Ordinary → n.Short

section

variable (negative : Bool) {d : Decimal}

theorem exists_pointed (whole fraction : List Char) (hwhole : DigitChars whole)
    (hlone : whole.head? = some '0' → whole = ['0']) (hfraction : DigitChars fraction)
    (htext : d.text = whole ++ '.' :: fraction)
    (hvalue : decimalValue (Nat.ofDigitChars 10 (whole ++ fraction) 0) (-fraction.length) =
      decimalValue d.digits d.exponent)
    (hshort : d.Ordinary →
      Nat.ofDigitChars 10 (whole ++ fraction) 0 ≤ 10 ^ 15 ∧ fraction.length ≤ 22) :
    ∃ n : Numeral, n.negative = negative ∧ n.Writes d := by
  have hdigits := digits_pointed negative hwhole hlone hfraction
  have hpower := power_pointed negative hwhole hlone hfraction
  refine ⟨pointed negative hwhole hlone hfraction, rfl, ?_, fun h => ?_, ?_, fun hd => ?_⟩
  · rw [unsigned_pointed, htext]
  · exact absurd h.1 (by simp [pointed])
  · rw [hdigits, hpower, hvalue]
  · obtain ⟨hsmall, hfew⟩ := hshort hd
    refine short_of_le ?_ (by omega) (fun x hx => absurd hx (by simp [pointed]))
    rw [hdigits]
    exact hsmall.trans (by norm_num)

/-- **The digits of a decimal** as characters, which do not begin with a zero. -/
structure Shows (ds : List Char) (d : Decimal) : Prop where
  chars : DigitChars ds
  number : Nat.ofDigitChars 10 ds 0 = d.digits
  head : ds.head? ≠ some '0'
  lead : d.lead = d.exponent + ds.length - 1
  size : d.digits < 10 ^ ds.length

theorem shows_decimalDigits (hdigits : d.digits ≠ 0) : Shows (decimalDigits d.digits) d where
  chars := digitChars_decimalDigits d.digits
  number := Nat.ofDigitChars_ten_toDigits
  head := head?_decimalDigits_ne (Nat.pos_of_ne_zero hdigits)
  lead := rfl
  size := (Nat.length_toDigits_le_iff (by decide) Nat.length_toDigits_pos).mp le_rfl

variable {ds : List Char} (hds : Shows ds d)

include hds

/-- All digits stand before the point. -/
theorem exists_writes_whole (hexponent : 0 ≤ d.exponent)
    (htext : d.text = ds ++ List.replicate d.exponent.toNat '0' ++ ['.', '0']) :
    ∃ n : Numeral, n.negative = negative ∧ n.Writes d := by
  have hzeros : List.replicate d.exponent.toNat '0' ++ ['0'] =
      List.replicate (d.exponent.toNat + 1) '0' := List.replicate_succ'.symm
  have hshifted : Nat.ofDigitChars 10 (ds ++ List.replicate d.exponent.toNat '0' ++ ['0']) 0 =
      10 ^ (d.exponent.toNat + 1) * d.digits := by
    rw [List.append_assoc, hzeros, Nat.ofDigitChars_append, hds.number,
      Nat.ofDigitChars_replicate_zero]
  refine exists_pointed negative (ds ++ List.replicate d.exponent.toNat '0') ['0']
    (hds.chars.append fun c hc => List.eq_of_mem_replicate hc ▸ rfl) ?_
    (digitChars_zeros (n := 1) (by decide)) ?_ ?_ ?_
  · intro h
    rw [List.head?_append_of_ne_nil _ hds.chars.nonempty] at h
    exact absurd h hds.head
  · rw [htext, List.append_assoc]
  · rw [hshifted, decimalValue_pow_mul]
    congr 1
    simp only [List.length_singleton]
    omega
  · intro hd
    have hlead := hds.lead
    have hplaces := hd.lead
    rw [hshifted]
    refine ⟨?_, by decide⟩
    calc 10 ^ (d.exponent.toNat + 1) * d.digits
        ≤ 10 ^ (d.exponent.toNat + 1) * 10 ^ ds.length := Nat.mul_le_mul_left _ hds.size.le
      _ = 10 ^ (d.exponent.toNat + 1 + ds.length) := (pow_add _ _ _).symm
      _ ≤ 10 ^ 15 := Nat.pow_le_pow_right (by decide) (by omega)

/-- The point stands among the digits. -/
theorem exists_writes_inside (hexponent : ¬0 ≤ d.exponent) (hinside : 0 ≤ d.lead)
    (htext : d.text = ds.take (d.lead.toNat + 1) ++ '.' :: ds.drop (d.lead.toNat + 1)) :
    ∃ n : Numeral, n.negative = negative ∧ n.Writes d := by
  have hlead := hds.lead
  refine exists_pointed negative (ds.take (d.lead.toNat + 1)) (ds.drop (d.lead.toNat + 1))
    ⟨?_, fun c hc => hds.chars.all_digits c (List.mem_of_mem_take hc)⟩ ?_
    ⟨?_, fun c hc => hds.chars.all_digits c (List.mem_of_mem_drop hc)⟩ htext ?_ ?_
  · simp [hds.chars.nonempty]
  · intro h
    rw [List.head?_take, if_neg (by omega)] at h
    exact absurd h hds.head
  · rw [ne_eq, List.drop_eq_nil_iff]
    omega
  · rw [List.take_append_drop, hds.number, List.length_drop]
    congr 1
    omega
  · intro hd
    have hplaces := hd.exponent
    rw [List.take_append_drop, hds.number, List.length_drop]
    exact ⟨hd.digits, by omega⟩

/-- Zeros stand between the point and the digits. -/
theorem exists_writes_below (hexponent : ¬0 ≤ d.exponent) (hbelow : ¬0 ≤ d.lead)
    (htext : d.text = '0' :: '.' :: List.replicate (-d.lead - 1).toNat '0' ++ ds) :
    ∃ n : Numeral, n.negative = negative ∧ n.Writes d := by
  have hlead := hds.lead
  have hpadded : Nat.ofDigitChars 10 (['0'] ++ (List.replicate (-d.lead - 1).toNat '0' ++ ds)) 0 =
      d.digits := by
    rw [← List.append_assoc, ← List.replicate_one, List.replicate_append_replicate,
      Nat.ofDigitChars_append, Nat.ofDigitChars_replicate_zero, Nat.mul_zero, hds.number]
  refine exists_pointed negative ['0'] (List.replicate (-d.lead - 1).toNat '0' ++ ds)
    (digitChars_zeros (n := 1) (by decide)) (fun _ => rfl) ⟨?_, ?_⟩ htext ?_ ?_
  · simp [hds.chars.nonempty]
  · exact List.forall_mem_append.mpr
      ⟨fun c hc => List.eq_of_mem_replicate hc ▸ rfl, hds.chars.all_digits⟩
  · rw [hpadded, List.length_append, List.length_replicate]
    congr 1
    omega
  · intro hd
    have hplaces := hd.exponent
    rw [hpadded, List.length_append, List.length_replicate]
    exact ⟨hd.digits, by omega⟩

omit hds in
/-- Scientific notation is a numeral with an exponent part. -/
theorem exists_writes_scientific (hds : Shows (decimalDigits d.digits) d)
    (htext : d.text = d.scientificText) : ∃ n : Numeral, n.negative = negative ∧ n.Writes d := by
  unfold Decimal.scientificText at htext
  simp only at htext
  generalize decimalDigits d.digits = ds at hds htext
  obtain ⟨c, rest, rfl⟩ := List.exists_cons_of_ne_nil hds.chars.nonempty
  obtain ⟨hfirst, hrest⟩ := List.forall_mem_cons.mp hds.chars.all_digits
  have hc : DigitChars [c] := ⟨by simp, by simpa using hfirst⟩
  obtain ⟨fraction, hfraction, hbytes⟩ : ∃ fraction : Option Digits,
      fractionDigits fraction = Bytes.ofChars rest ∧ Bytes.ofChars d.text =
        Bytes.ofChars [c] ++ (fractionBytes fraction ++ (signedExponent d.lead).bytes) := by
    rw [htext, bytes_signedExponent]
    cases rest with
    | nil => exact ⟨none, rfl, Bytes.ofChars_append ..⟩
    | cons r rest =>
      refine ⟨some (.ofChars (r :: rest) ⟨by simp, hrest⟩), rfl, ?_⟩
      rw [Bytes.ofChars_append, ← List.append_assoc]
      exact congrArg (· ++ _) (Bytes.ofChars_append [c] ('.' :: r :: rest))
  have hlead := hds.lead
  rw [List.length_cons] at hlead
  obtain ⟨n, hsign, hunsigned, hexponent, hvalue, hpower⟩ : ∃ n : Numeral, n.negative = negative ∧
      n.unsigned = Bytes.ofChars d.text ∧ n.exponent = some (signedExponent d.lead) ∧
      n.digits = d.digits ∧ n.power = d.exponent := by
    refine ⟨⟨negative, .ofChars [c] hc, fraction, some (signedExponent d.lead),
      Digits.lone_zero_ofChars hc fun h => congrArg ([·]) (Option.some.inj h)⟩, rfl, hbytes.symm,
      rfl, ?_, ?_⟩
    · rw [digits]
      simp only [hfraction, Digits.bytes_ofChars]
      rw [← Bytes.ofChars_append, List.singleton_append, digitsFrom_ofChars hds.chars.all_digits,
        hds.number]
    · rw [power]
      simp only [hfraction, Option.map_some, Option.getD_some, value_signedExponent,
        length_ofChars hrest]
      omega
  refine ⟨n, hsign, hunsigned, fun h => ?_, by rw [hvalue, hpower], fun hd => ?_⟩
  · have hplain := h.2.1
    rw [hexponent] at hplain
    exact absurd hplain (by simp)
  · have hlower := hd.exponent
    have hupper := hd.lead
    refine short_of_le (hvalue.le.trans (hd.digits.trans (by norm_num))) (by omega) fun x hx => ?_
    rw [hexponent, Option.mem_some_iff] at hx
    rw [← hx, size_signedExponent]
    exact Nat.le_trans (show d.lead.natAbs ≤ 22 by omega) (by decide)

end

/-- **The text of a decimal is a numeral**, which has the value of the decimal. -/
theorem exists_writes (negative : Bool) (d : Decimal) :
    ∃ n : Numeral, n.negative = negative ∧ n.Writes d := by
  by_cases hdigits : d.digits = 0
  · refine exists_pointed negative ['0'] ['0']
      (digitChars_zeros (n := 1) (by decide)) (fun _ => rfl) (digitChars_zeros (n := 1) (by decide))
      (if_pos hdigits) ?_ fun _ => ⟨Nat.zero_le _, by decide⟩
    have hzero : Nat.ofDigitChars 10 (['0'] ++ ['0']) 0 = 0 := rfl
    simp only [hzero, hdigits, decimalValue, Nat.cast_zero, zero_mul]
  · have hds := shows_decimalDigits hdigits
    by_cases hplain : Decimal.plainFrom ≤ d.lead ∧ d.lead ≤ Decimal.plainTo
    · have htext : d.text = d.plainText := by
        rw [Decimal.text, if_neg hdigits, if_pos hplain]
      unfold Decimal.plainText at htext
      simp only at htext
      split_ifs at htext with hexponent hinside
      · exact exists_writes_whole negative hds hexponent htext
      · exact exists_writes_inside negative hds hexponent hinside htext
      · exact exists_writes_below negative hds hexponent hinside htext
    · refine exists_writes_scientific negative hds ?_
      rw [Decimal.text, if_neg hdigits, if_neg hplain]

end Numeral

/-! ## Numbers -/

/-- **A number that is printed with few digits**, if it is not whole. -/
def IsOrdinary : Json → Prop
  | real x => (Decimal.shortest x.magnitude).Ordinary
  | _ => True

/-- A finite double is written as a numeral that a correctly rounding reader reads as that
double. -/
theorem exists_numeral_doubleText {x : Double} (hx : x.isFinite = true) : ∃ n : Numeral,
    n.bytes = Bytes.ofChars x.text ∧ n.exact = real x ∧ ((real x).IsOrdinary → n.Short) := by
  obtain ⟨n, hsign, hn⟩ := Numeral.exists_writes x.negative (Decimal.shortest x.magnitude)
  refine ⟨n, ?_, ?_, hn.short⟩
  · rw [Numeral.bytes, hsign, hn.unsigned, Double.text]
    cases x.negative <;> rfl
  · have hmagnitude := Decimal.magnitude_shortest (isFinite_iff.mp hx).le
    rw [Numeral.exact, if_neg hn.not_whole, Numeral.nearest, hsign, ofDecimal_congr _ hn.value]
    refine congrArg real (ext_iff.mpr ⟨negative_ofDecimal _ _ _, ?_⟩)
    rw [magnitude_ofDecimal]
    exact hmagnitude

/-- **A number that is written as a numeral** with a property, and that a correctly rounding reader
reads as that number. -/
structure PrintedAs (Q : Numeral → Prop) (v : Json) : Prop where
  number : v.IsNumber
  numeral : ∃ n : Numeral, n.bytes = Bytes.ofChars (scalarChars v) ∧ n.exact = v ∧ Q n

/-- **Every number is written as a numeral**, which is short for ordinary numbers. -/
theorem printedAs_short {v : Json} (hv : v.IsNumber) :
    v.PrintedAs fun n => v.IsOrdinary → n.Short := by
  refine ⟨hv, ?_⟩
  cases v with
  | integer i =>
    have hwhole := Numeral.isWhole_ofInt hv
    exact ⟨.ofInt i, Numeral.bytes_ofInt i, Numeral.exact_ofInt hv, fun _ => .inl hwhole⟩
  | real x =>
    have hfinite : x.isFinite = true := hv
    rw [scalarChars, realChars, if_pos hfinite]
    exact exists_numeral_doubleText hfinite
  | _ => exact absurd hv id

theorem PrintedAs.imp {Q R : Numeral → Prop} {v : Json} (h : v.PrintedAs Q)
    (himp : ∀ n, Q n → R n) : v.PrintedAs R := by
  obtain ⟨n, hbytes, hexact, hn⟩ := h.numeral
  exact ⟨h.number, n, hbytes, hexact, himp n hn⟩

end Json

/-!
## Ordinary numerals

Amounts are written with a few digits around the point. Such numerals are read as the nearest
double, and what is printed for that double is such a numeral again.
-/

namespace Json

open Double

namespace Numeral

/-- The number that a numeral stands for, without its sign. -/
def size (n : Numeral) : ℚ := n.digits * 10 ^ n.power

/-- **An ordinary numeral**: a whole number of 64 bits, a zero, or at most fifteen digits for a
number from `10 ^ -7` to `10 ^ 13`. -/
def Ordinary (n : Numeral) : Prop :=
  n.IsWhole ∧ (n.negative → n.digits ≤ 2 ^ 63) ∨ n.digits = 0 ∨
    n.digits < 10 ^ 15 ∧ 10 ^ (-7 : Int) ≤ n.size ∧ n.size ≤ 10 ^ 13 ∧
      ∀ x ∈ n.exponent, x.size ≤ exponentMax

variable {n : Numeral}

theorem decimalValue_eq_size : decimalValue n.digits n.power = n.size * one := rfl

/-- The size of a numeral and a power of ten compare as decimals. -/
theorem powerValue_le_iff {exponent : Int} :
    decimalValue 1 exponent ≤ decimalValue n.digits n.power ↔ 10 ^ exponent ≤ n.size := by
  have hone : (0 : ℚ) < one := Nat.cast_pos.mpr oneUnits_pos
  rw [decimalValue_eq_size, decimalValue, Nat.cast_one, one_mul, mul_le_mul_iff_left₀ hone]

theorem le_powerValue_iff {exponent : Int} :
    decimalValue n.digits n.power ≤ decimalValue 1 exponent ↔ n.size ≤ 10 ^ exponent := by
  have hone : (0 : ℚ) < one := Nat.cast_pos.mpr oneUnits_pos
  rw [decimalValue_eq_size, decimalValue, Nat.cast_one, one_mul, mul_le_mul_iff_left₀ hone]

/-- The power of ten of few digits is not far from the size of the number. -/
theorem power_bounds (hpos : 0 < n.digits) (hdigits : n.digits < 10 ^ 15)
    (hlower : 10 ^ (-7 : Int) ≤ n.size) (hupper : n.size ≤ 10 ^ 13) :
    -22 ≤ n.power ∧ n.power ≤ 13 := by
  have hten : (1 : ℚ) < 10 := by norm_num
  have hpower : (0 : ℚ) ≤ 10 ^ n.power := zpow_nonneg (by norm_num) _
  have hmost : n.size ≤ 10 ^ (15 + n.power) := by
    rw [zpow_add₀ (by norm_num)]
    refine mul_le_mul_of_nonneg_right ?_ hpower
    exact_mod_cast hdigits.le
  have hleast : (10 : ℚ) ^ n.power ≤ n.size := by
    refine le_mul_of_one_le_left hpower ?_
    exact_mod_cast hpos
  have hlow := (zpow_le_zpow_iff_right₀ hten).mp (hlower.trans hmost)
  have hhigh : n.power ≤ (13 : Nat) := by
    rw [← zpow_le_zpow_iff_right₀ hten, zpow_natCast]
    exact hleast.trans hupper
  exact ⟨by omega, hhigh⟩

/-- **Ordinary numerals are short**, so that they are read as the nearest double. -/
theorem Ordinary.short (h : n.Ordinary) : n.Short := by
  rcases h with ⟨hwhole, -⟩ | hzero | ⟨hdigits, hlower, hupper, hsize⟩
  · exact .inl hwhole
  · exact .inr (.inl hzero)
  · rcases Nat.eq_zero_or_pos n.digits with hzero | hpos
    · exact .inr (.inl hzero)
    · obtain ⟨hlow, hhigh⟩ := power_bounds hpos hdigits hlower hupper
      refine short_of_le ?_ (by omega) hsize
      exact hdigits.le.trans (by norm_num)

theorem isOrdinary_real_zero {x : Double} (hx : x.magnitude = 0) : (real x).IsOrdinary := by
  change (Decimal.shortest x.magnitude).Ordinary
  rw [hx]
  exact ⟨Nat.zero_le _, by decide, by decide⟩

/-- A whole number of 64 bits is kept as one, and the negative zero is a short double. -/
theorem isOrdinary_wholeNumber {negative : Bool} {significand : Nat}
    (h : negative → significand ≤ 2 ^ 63) : (wholeNumber negative significand).IsOrdinary := by
  unfold wholeNumber
  split
  next => trivial
  next hneg =>
    have hle := h (by simpa using hneg)
    split
    next hreal =>
      have hbound : Nat.pow 2 63 = 2 ^ 63 := rfl
      obtain rfl : significand = 0 := by omega
      exact isOrdinary_real_zero (by decide +kernel)
    next => trivial

/-- **What an ordinary numeral is read as is printed as a short one.** -/
theorem Ordinary.isOrdinary_exact (h : n.Ordinary) : n.exact.IsOrdinary := by
  unfold exact
  split
  next hwhole =>
    refine isOrdinary_wholeNumber fun hneg => ?_
    rcases h with ⟨-, hle⟩ | hzero | ⟨hdigits, -⟩
    · exact hle hneg
    · omega
    · exact hdigits.le.trans (by norm_num)
  next hwhole =>
    have hmagnitude : n.nearest.magnitude = (⟨n.digits, n.power⟩ : Decimal).magnitude :=
      magnitude_ofDecimal _ _ _
    rcases h with ⟨h, -⟩ | hzero | ⟨hdigits, hlower, hupper, -⟩
    · exact absurd h hwhole
    · refine isOrdinary_real_zero ?_
      rw [hmagnitude, hzero]
      rfl
    · rcases Nat.eq_zero_or_pos n.digits with hzero | hpos
      · refine isOrdinary_real_zero ?_
        rw [hmagnitude, hzero]
        rfl
      · change (Decimal.shortest n.nearest.magnitude).Ordinary
        rw [hmagnitude]
        refine Decimal.ordinary_shortest hpos hdigits (powerValue_le_iff.mpr hlower) ?_
        exact le_powerValue_iff.mpr hupper

end Numeral

end Json

end HttpLoad
