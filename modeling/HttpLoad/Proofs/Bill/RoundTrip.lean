import HttpLoad.Bill.Batch
import HttpLoad.Proofs.Json.Undoing
import HttpLoad.Proofs.Number.Order

/-!
# Bills are read back

A bill is sent as the compact text of its fields. Decoding that text gives the bill again: the texts
with all their characters, the date in any year, the lines in their order, and each amount to the
last bit. The last holds for amounts in hundredths, where the reader's single division is exact
enough; other doubles it may miss by a bit.

## Main definitions

* `Bill.InHundredths`: all amounts of a bill are hundredths

## Main results

* `Date.readNumber_digits`: digits up to the limit are read as their number
* `Date.readYear_yearText`: every year that is counted is read back
* `Date.parse_chars`: every date is read back
* `Bill.undoes_record`: the decoder undoes a bill, wherever it stands
* `Batch.decode_bodies`: the bodies of a batch are read as its bills
-/

namespace HttpLoad

/-!
## Dates

The reader of dates takes more than is written: shorter numbers, and blanks around each of them.
What is written is read without loss all the same. A year of four digits stands without a sign and
is cut off behind the fourth; any other year has a sign, and its digits run to the dash.
-/

namespace Date

theorem takeWhile_of_all {p : Char → Bool} {cs : List Char} (h : ∀ c ∈ cs, p c = true) :
    cs.takeWhile p = cs := by
  have htaken := @List.takeWhile_append_of_pos _ p cs [] h
  rwa [List.append_nil, List.takeWhile_nil, List.append_nil] at htaken

theorem not_isBlank_of_isDigit {c : Char} (hc : c.isDigit = true) : Blank.isBlank c = false := by
  obtain ⟨hzero, hnine⟩ := Char.isDigit_iff_toNat.mp hc
  have hlower : 0x30 ≤ c.toNat := hzero
  have hupper : c.toNat ≤ 0x39 := hnine
  simp only [Blank.isBlank, Bool.or_eq_false_iff, Bool.and_eq_false_iff, decide_eq_false_iff_not,
    beq_eq_false_iff_ne]
  omega

theorem trimStart_cons {c : Char} (hc : Blank.isBlank c = false) (cs : List Char) :
    Blank.trimStart (c :: cs) = c :: cs := by
  rw [Blank.trimStart, List.dropWhile_cons_of_neg (by rw [hc]; simp)]

/-- No blanks stand before digits. -/
theorem trimStart_digits {ds : List Char} (hne : ds ≠ []) (hds : ∀ c ∈ ds, c.isDigit = true)
    (rest : List Char) : Blank.trimStart (ds ++ rest) = ds ++ rest := by
  obtain ⟨c, cs, rfl⟩ := List.exists_cons_of_ne_nil hne
  exact trimStart_cons (not_isBlank_of_isDigit (hds c List.mem_cons_self)) _

/-- **Digits are read as their number**, if they reach the limit or, without one, are followed by
something else. -/
theorem readNumber_digits (width : Option Nat) {ds : List Char} (rest : List Char) (hne : ds ≠ [])
    (hds : ∀ c ∈ ds, c.isDigit = true) (hlimit : ∀ w ∈ width, ds.length = w)
    (hrest : width = none → ∀ c ∈ rest.head?, c.isDigit = false)
    (hfits : digitsValue ds < Nat.pow 2 63) :
    readNumber width (ds ++ rest) = .ok (digitsValue ds, rest) := by
  obtain ⟨c, cs, rfl⟩ := List.exists_cons_of_ne_nil hne
  have hc : c.isDigit = true := hds c List.mem_cons_self
  have hgiven : ∀ digits, digits = c :: cs →
      (if digitsValue digits < Nat.pow 2 63 then
          Except.ok (digitsValue digits, (c :: cs ++ rest).drop digits.length)
        else .error Json.DateFault.outOfRange) = .ok (digitsValue (c :: cs), rest) := by
    rintro _ rfl
    rw [if_pos hfits, List.drop_left]
  rw [List.cons_append] at hgiven ⊢
  unfold readNumber
  simp only [hc, Bool.not_true, Bool.false_eq_true, if_false]
  apply hgiven
  cases width with
  | some w =>
    have hw : (c :: cs).length = w := hlimit w rfl
    change ((c :: cs ++ rest).take w).takeWhile Char.isDigit = c :: cs
    rw [List.take_left' hw]
    exact takeWhile_of_all hds
  | none =>
    change (c :: cs ++ rest).takeWhile Char.isDigit = c :: cs
    rw [List.takeWhile_append_of_pos hds]
    cases rest with
    | nil => simp
    | cons r rest => simp [hrest rfl r rfl]

/-- A padded number is read back where its width is the limit. -/
theorem readNumber_paddedDecimal (width : Nat) {n : Nat} (hwidth : 0 < width)
    (hn : n < Nat.pow 10 width) (hfits : n < Nat.pow 2 63) (rest : List Char) :
    readNumber (some width) (paddedDecimal width n ++ rest) = .ok (n, rest) := by
  have hread := readNumber_digits (some width) rest (paddedDecimal_ne_nil width n)
    (fun _ => isDigit_of_mem_paddedDecimal)
    (fun w hw => (length_paddedDecimal hwidth hn).trans (Option.some.inj hw))
    (fun h => absurd h (by simp)) (by rw [digitsValue_paddedDecimal]; exact hfits)
  rwa [digitsValue_paddedDecimal] at hread

/-- A padded number is read back without a limit, before a dash. -/
theorem readNumber_paddedDecimal_dash (width : Nat) {n : Nat} (hfits : n < Nat.pow 2 63)
    (rest : List Char) :
    readNumber none (paddedDecimal width n ++ '-' :: rest) = .ok (n, '-' :: rest) := by
  have hread := readNumber_digits none ('-' :: rest) (paddedDecimal_ne_nil width n)
    (fun _ => isDigit_of_mem_paddedDecimal)
    (fun w hw => absurd hw (by simp))
    (fun _ c hc => Option.some.inj hc ▸ rfl) (by rw [digitsValue_paddedDecimal]; exact hfits)
  rwa [digitsValue_paddedDecimal] at hread

/-- A padded number does not begin with anything but a digit. -/
theorem paddedDecimal_append_ne {c : Char} (hc : c.isDigit = false) (width n : Nat)
    (rest tail : List Char) : paddedDecimal width n ++ rest ≠ c :: tail := by
  intro h
  obtain ⟨d, ds, hds⟩ := List.exists_cons_of_ne_nil (paddedDecimal_ne_nil width n)
  have hd : d.isDigit = true := isDigit_of_mem_paddedDecimal (hds ▸ List.mem_cons_self)
  rw [hds, List.cons_append] at h
  rw [(List.cons.inj h).1, hc] at hd
  exact absurd hd (by decide)

/-- **Every year that is counted is read back**, up to the dash behind it. -/
theorem readYear_yearText {year : Int} (hlower : -262143 ≤ year) (hupper : year ≤ 262142)
    (rest : List Char) : readYear (yearText year ++ '-' :: rest) = .ok (year, '-' :: rest) := by
  have hsize : year.natAbs < Nat.pow 2 63 := Nat.lt_of_le_of_lt (m := 262143) (by omega) (by decide)
  have hrange : -0x80000000 ≤ year ∧ year < 0x80000000 := by omega
  have hread := readNumber_paddedDecimal_dash 4 hsize rest
  unfold yearText readYear
  split_ifs with hplain hnegative
  · have hfour := readNumber_paddedDecimal 4 (n := year.toNat) (by decide)
      (Nat.lt_of_le_of_lt (m := 9999) (by omega) (by decide)) (by omega) ('-' :: rest)
    rw [trimStart_digits (paddedDecimal_ne_nil _ _) fun _ => isDigit_of_mem_paddedDecimal]
    split
    next h => exact absurd h (paddedDecimal_append_ne (c := '-') rfl _ _ _ _)
    next h => exact absurd h (paddedDecimal_append_ne (c := '+') rfl _ _ _ _)
    next =>
      have hyear : ((year.toNat : Nat) : Int) = year := by omega
      simp only [hfour, Except.map, bind, Except.bind, hyear, if_pos hrange]
      rfl
  · have hyear : -((year.natAbs : Nat) : Int) = year := by omega
    rw [List.cons_append, trimStart_cons (by decide)]
    simp only [hread, Except.map, bind, Except.bind, hyear, if_pos hrange]
    rfl
  · have hyear : ((year.natAbs : Nat) : Int) = year := by omega
    rw [List.cons_append, trimStart_cons (by decide)]
    simp only [hread, Except.map, bind, Except.bind, hyear, if_pos hrange]
    rfl

theorem readPart_paddedDecimal (max : Nat) {n : Nat} (hmax : max < 100) (hn : 1 ≤ n ∧ n ≤ max)
    (rest : List Char) : readPart max (paddedDecimal 2 n ++ rest) = .ok (n, rest) := by
  have hsmall : n < 100 := Nat.lt_of_le_of_lt hn.2 hmax
  have htwo := readNumber_paddedDecimal 2 (by decide) hsmall
    (Nat.lt_of_lt_of_le hsmall (by decide)) rest
  rw [readPart, trimStart_digits (paddedDecimal_ne_nil _ _) fun _ => isDigit_of_mem_paddedDecimal]
  simp only [htwo, bind, Except.bind, if_pos hn]
  rfl

theorem readDash_dash (rest : List Char) : readDash ('-' :: rest) = .ok rest := by
  rw [readDash, trimStart_cons (by decide)]
  rfl

theorem daysInMonth_le (year : Int) (month : Nat) : daysInMonth year month ≤ 31 := by
  unfold daysInMonth
  split_ifs <;> omega

theorem ofParts?_parts (d : Date) : ofParts? d.year d.month d.day = some d := by
  rw [ofParts?, dif_pos d.year_mem, dif_pos d.month_mem, dif_pos d.day_mem]

/-- **Every date is read back from its text.** -/
theorem parse_chars (d : Date) : parse d.chars = .ok d := by
  have hyear := readYear_yearText d.year_mem.1 d.year_mem.2
    (paddedDecimal 2 d.month ++ '-' :: paddedDecimal 2 d.day)
  have hmonth := readPart_paddedDecimal 12 (by decide) d.month_mem ('-' :: paddedDecimal 2 d.day)
  have hday := readPart_paddedDecimal 31 (by decide)
    ⟨d.day_mem.1, Nat.le_trans d.day_mem.2 (daysInMonth_le _ _)⟩ []
  rw [List.append_nil] at hday
  unfold parse chars
  simp only [hyear, readDash_dash, hmonth, hday, bind, Except.bind]
  rw [ofParts?_parts]
  rfl

end Date

/-! ## Bills -/

/-- The amounts of a line are hundredths. -/
structure BillLine.InHundredths (line : BillLine) : Prop where
  quantity : line.quantity.IsHundredths
  unitAmount : line.unitAmount.IsHundredths

/-- **All amounts of a bill are hundredths.** -/
structure Bill.InHundredths (bill : Bill) : Prop where
  tax : bill.tax.IsHundredths
  lines : ∀ line ∈ bill.lines, line.InHundredths

namespace Json

theorem undoes_hundredths (expected : String) {x : Double} (h : x.IsHundredths) :
    Undoes (decodeReal expected) (.real x) x :=
  undoes_real expected h.isFinite h.ordinary_shortest

end Json

namespace Bill

open Json Json.Record

/-- A date is undone, in any year. -/
theorem undoes_decodeDate (d : Date) : Undoes decodeDate (.text d.text) d := by
  intro rest hrest
  have htext := undoes_text "a formatted date string" d.text rest hrest
  rw [decodeDate, htext]
  simp only [bind, Except.bind, Date.text, String.toList_ofList, Date.parse_chars]
  rfl

/-- A line is undone: each member is put into the draft of those before it. -/
theorem undoes_lineRecord {line : BillLine} (h : line.InHundredths) :
    Undoes lineRecord.decode line.toJson line := by
  refine Record.undoes ⟨some _, some _, some _⟩ ?_ rfl
  apply Fills.store (undoes_text "a string" line.concept) _
    (fun d s => { d with concept := some s }) (fun _ => rfl) rfl rfl
  apply Fills.store (undoes_hundredths "f64" h.quantity) _
    (fun d x => { d with quantity := some x }) (fun _ => rfl) rfl rfl
  apply Fills.store (undoes_hundredths "f64" h.unitAmount) _
    (fun d x => { d with unitAmount := some x }) (fun _ => rfl) rfl rfl
  exact .nil _

/-- **The decoder undoes a bill**, wherever it stands. -/
theorem undoes_record {bill : Bill} (h : bill.InHundredths) :
    Undoes record.decode bill.toJson bill := by
  have hlines : Undoes (decodeList lineRecord.decode "a sequence")
      (.list (bill.lines.map BillLine.toJson)) bill.lines :=
    undoes_list (fun line hline => undoes_lineRecord (h.lines line hline)) "a sequence"
  refine Record.undoes ⟨some _, some _, some _, some _, some _, some _⟩ ?_ rfl
  apply Fills.store (undoes_text "a string" bill.billNumber) _
    (fun d s => { d with billNumber := some s }) (fun _ => rfl) rfl rfl
  apply Fills.store (undoes_decodeDate bill.issuedAt) _
    (fun d date => { d with issuedAt := some date }) (fun _ => rfl) rfl rfl
  apply Fills.store (undoes_text "a string" bill.customerName) _
    (fun d s => { d with customerName := some s }) (fun _ => rfl) rfl rfl
  apply Fills.store (undoes_text "a string" bill.currency) _
    (fun d s => { d with currency := some s }) (fun _ => rfl) rfl rfl
  apply Fills.store (undoes_hundredths "f64" h.tax) _ (fun d x => { d with tax := some x })
    (fun _ => rfl) rfl rfl
  apply Fills.store hlines _ (fun d lines => { d with lines := some lines }) (fun _ => rfl) rfl rfl
  exact .nil _

/-- **A bill is read back from its text.** -/
theorem decode_encode {bill : Bill} (h : bill.InHundredths) :
    decode (Bytes.ofString bill.encode) = .ok bill :=
  (undoes_record h).decodeAll_eq

end Bill

/-- **The bodies of a batch are read as its bills**, one for one and each to the last bit. -/
theorem Batch.decode_bodies (batch : Batch) (h : ∀ bill ∈ batch.bills, bill.InHundredths) :
    batch.bodies.map Bill.decode = batch.bills.map .ok := by
  rw [bodies, List.map_map]
  exact List.map_congr_left fun bill hbill => Bill.decode_encode (h bill hbill)

/-- A bill of a year before the first one, with texts that need escapes, a negative zero and the
greatest amount. -/
def ancientBill : Bill where
  billNumber := "IDES-\"44\"\n\t\u0001"
  issuedAt := ⟨-44, 3, 15, by decide, by decide, by decide⟩
  customerName := "Gaius \\ 𐍈"
  currency := ""
  tax := Double.ofDecimal true 0 (-2)
  lines := [⟨"Toga", Double.ofDecimal false 7 (-2), Double.ofDecimal true (10 ^ 15) (-2)⟩]

theorem decode_bodies_ancientBill :
    (∀ bill ∈ [ancientBill], bill.InHundredths) ∧
      (Batch.bodies ⟨[ancientBill], [1]⟩).map Bill.decode = [.ok ancientBill] := by
  have htax : ancientBill.tax.IsHundredths := Double.isHundredths_ofDecimal true (Nat.zero_le _)
  have hline : ∀ line ∈ ancientBill.lines, line.InHundredths := List.forall_mem_singleton.mpr
    ⟨Double.isHundredths_ofDecimal false (m := 7) (by decide),
      Double.isHundredths_ofDecimal true le_rfl⟩
  have hamounts : ∀ bill ∈ [ancientBill], bill.InHundredths :=
    List.forall_mem_singleton.mpr ⟨htax, hline⟩
  exact ⟨hamounts, Batch.decode_bodies ⟨[ancientBill], [1]⟩ hamounts⟩

end HttpLoad
