import HttpLoad.Proofs.Json.Document

/-!
# What is passed over

Values that nobody asks for are passed over. The grammar is the same as for values that are read: it
is checked byte by byte, and so exactly the written values are passed over. But nothing is made of
the tokens. A text may have surrogates without a partner and bytes that are no UTF-8, a number may
be out of range, and values may nest to any depth.

The open brackets are kept on a list. What the remaining bytes still have to hold for them is
`Closes`: further items and a bracket for a list, further members and a brace for an object, and so
on outwards.

## Main definitions

* `Json.Closes`: bytes close all open brackets

## Main results

* `Json.skipValue_written`: every written value is passed over
* `Json.exists_written_of_skipValue`: whatever is passed over is written
-/

namespace HttpLoad

namespace Json

/-! ## Texts -/

/-- Pieces are passed over up to the closing quote, whether they stand for a text or not. -/
theorem skipChars_pieces (ps : Pieces) (rest : Bytes) :
    skipChars (ps.bytes ++ 0x22 :: rest) = .ok rest := by
  induction ps with
  | nil =>
    change skipChars (0x22 :: rest) = .ok rest
    rw [skipChars]
  | cons p ps ih =>
    rw [Pieces.bytes_cons]
    cases p with
    | plain b hb =>
      obtain ⟨hspace, hquote, hbackslash⟩ := hb
      rw [Piece.bytes, List.singleton_append, skipChars]
      · rw [if_neg (UInt8.not_lt.mpr hspace), ih]
      all_goals simp_all
    | short e b he =>
      have hu := ne_u_of_escaped he
      simp only [Piece.bytes, List.cons_append, List.nil_append]
      rw [skipChars]
      all_goals simp_all
    | quad a b c d n hn =>
      simp only [Piece.bytes, List.cons_append, List.nil_append]
      rw [skipChars]
      simp only [hn, ih]

/-- Whatever is passed over as a text is pieces and a quote. -/
theorem exists_pieces_of_skipChars {bytes rest : Bytes} (h : skipChars bytes = .ok rest) :
    ∃ ps : Pieces, bytes = ps.bytes ++ 0x22 :: rest := by
  fun_induction skipChars bytes
  case case2 rest =>
    obtain rfl := Except.ok.inj h
    exact ⟨[], rfl⟩
  case case4 a b c d tail n hn ih =>
    obtain ⟨ps, rfl⟩ := ih h
    exact ⟨.quad a b c d n hn :: ps, rfl⟩
  case case6 e tail _ _ b he ih =>
    obtain ⟨ps, rfl⟩ := ih h
    exact ⟨.short e b he :: ps, rfl⟩
  case case10 b tail hquote _ _ hescape hlast hcontrol ih =>
    obtain ⟨ps, rfl⟩ := ih h
    have hbackslash : b ≠ 0x5c := by
      intro hb
      rcases ps with _ | ⟨p, ps⟩
      · exact hescape _ _ hb rfl
      · cases p <;> exact hescape _ _ hb rfl
    exact ⟨.plain b ⟨UInt8.not_lt.mp hcontrol, hquote, hbackslash⟩ :: ps, rfl⟩
  all_goals exact absurd h (by simp)

/-! ## Numbers -/

/-- The digits of an exponent are all passed over. -/
theorem skipExponent_digit (sign : Option Bool) {d : UInt8} (hd : isDigit d = true) (tail : Bytes) :
    skipExponent (Exponent.signBytes sign ++ d :: tail) = .ok (tail.dropWhile isDigit) := by
  have hplus : d ≠ 0x2b := ne_of_isDigit hd (by decide)
  have hminus : d ≠ 0x2d := ne_of_isDigit hd (by decide)
  cases sign with
  | none => simp [skipExponent, Exponent.signBytes, hplus, hminus, hd]
  | some down => cases down <;> simp [skipExponent, Exponent.signBytes, hd]

theorem skipExponent_tail (x : Exponent) {rest : Bytes} (hrest : NoDigit rest) :
    skipExponent (x.tail ++ rest) = .ok rest := by
  obtain ⟨d, ds, hbytes⟩ := List.exists_cons_of_ne_nil x.digits.nonempty
  obtain ⟨hd, hds⟩ := List.forall_mem_cons.mp (hbytes ▸ x.digits.all_digits)
  rw [Exponent.tail, hbytes, List.append_assoc, List.cons_append, skipExponent_digit x.sign hd,
    dropWhile_digits hds hrest]

theorem skipScaled_exponentBytes (x : Option Exponent) {rest : Bytes} (hrest : NoDigit rest)
    (hmark : x = none → ∀ b ∈ rest.head?, b ≠ 0x65 ∧ b ≠ 0x45) :
    skipScaled (exponentBytes x ++ rest) = .ok rest := by
  cases x with
  | some x =>
    rw [exponentBytes, Exponent.bytes, List.cons_append, skipScaled]
    rw [if_pos (by cases x.capital <;> decide), skipExponent_tail x hrest]
  | none =>
    rw [exponentBytes, List.nil_append]
    cases rest with
    | nil => rfl
    | cons b rest =>
      obtain ⟨hsmall, hcapital⟩ := hmark rfl b rfl
      rw [skipScaled, if_neg (by simp [hsmall, hcapital])]

section

variable {d : UInt8} {ds tail : Bytes} (hd : isDigit d = true) (hds : ∀ b ∈ ds, isDigit b = true)
  (hzero : d = 0x30 → ds = [])

include hd hds hzero

/-- Digits and a point: there is a digit behind it. -/
theorem skipNumber_point : skipNumber (d :: (ds ++ 0x2e :: tail)) =
    if tail.head?.any isDigit then skipScaled (tail.dropWhile isDigit)
    else .error (.atNext .badNumber tail) := by
  have hpoint : NoDigit (0x2e :: tail) := by
    rintro b ⟨⟩
    decide
  simp only [skipNumber, hd, dropWhile_digits hds hpoint]
  rw [if_neg (by decide), if_neg (not_padded hzero hpoint)]

/-- Digits without a point. -/
theorem skipNumber_plain (htail : NoDigit tail) (hpoint : ∀ b ∈ tail.head?, b ≠ 0x2e) :
    skipNumber (d :: (ds ++ tail)) = skipScaled tail := by
  simp only [skipNumber, hd, dropWhile_digits hds htail]
  rw [if_neg (by decide), if_neg (not_padded hzero htail)]
  split
  next => exact absurd rfl (hpoint 0x2e rfl)
  next => rfl

end

/-- **A numeral is passed over**, before anything that does not continue it. -/
theorem skipNumber_numeral (n : Numeral) {rest : Bytes} (hrest : n.EndsBefore rest) :
    skipNumber (n.unsigned ++ rest) = .ok rest := by
  obtain ⟨negative, whole, fraction, x, hlone⟩ := n
  obtain ⟨hdigit, hmark⟩ := hrest
  obtain ⟨d, ds, hwhole⟩ := List.exists_cons_of_ne_nil whole.nonempty
  obtain ⟨hd, hds⟩ := List.forall_mem_cons.mp (hwhole ▸ whole.all_digits)
  rw [hwhole] at hlone
  have hzero : d = 0x30 → ds = [] := by
    rintro rfl
    simpa using hlone rfl
  have hexponent := noDigit_exponentBytes x hdigit
  simp only [Numeral.unsigned, hwhole]
  cases fraction with
  | some f =>
    simp only [fractionBytes, List.cons_append, List.append_assoc]
    have hnext : (f.bytes ++ (exponentBytes x ++ rest)).head?.any isDigit = true := by
      obtain ⟨e, es, hfraction⟩ := List.exists_cons_of_ne_nil f.nonempty
      rw [hfraction]
      exact f.all_digits e (hfraction ▸ List.mem_cons_self)
    rw [skipNumber_point hd hds hzero, if_pos hnext, dropWhile_digits f.all_digits hexponent]
    exact skipScaled_exponentBytes x hdigit fun hx b hb =>
      ⟨(hmark hx b hb).1, (hmark hx b hb).2.1⟩
  | none =>
    simp only [fractionBytes, List.cons_append, List.append_assoc, List.nil_append]
    have hpoint : ∀ b ∈ (exponentBytes x ++ rest).head?, b ≠ 0x2e := by
      cases x with
      | some x => cases hcapital : x.capital <;> simp [exponentBytes, Exponent.bytes, hcapital]
      | none => exact fun b hb => (hmark rfl b hb).2.2 rfl
    rw [skipNumber_plain hd hds hzero hexponent hpoint]
    exact skipScaled_exponentBytes x hdigit fun hx b hb =>
      ⟨(hmark hx b hb).1, (hmark hx b hb).2.1⟩

/-- Behind the mark of an exponent that is passed over there are digits, perhaps with a sign. -/
theorem exists_exponent_of_skipExponent {bytes rest : Bytes} (h : skipExponent bytes = .ok rest)
    (capital : Bool) : ∃ x : Exponent, x.capital = capital ∧ bytes = x.tail ++ rest := by
  obtain ⟨sign, digits, rfl, hnone⟩ := exists_signBytes bytes
  cases digits with
  | nil =>
    cases sign with
    | none => simp [skipExponent, Exponent.signBytes] at h
    | some down => cases down <;> simp [skipExponent, Exponent.signBytes] at h
  | cons d tail =>
    by_cases hd : isDigit d = true
    · rw [skipExponent_digit sign hd] at h
      refine ⟨⟨capital, sign, .ofHead hd tail⟩, rfl, ?_⟩
      rw [Exponent.tail, List.append_assoc, ← Except.ok.inj h, Digits.ofHead_append]
    · cases sign with
      | none =>
        obtain ⟨hplus, hminus⟩ := hnone rfl d rfl
        simp [skipExponent, Exponent.signBytes, hd, hplus, hminus] at h
      | some down => cases down <;> simp [skipExponent, Exponent.signBytes, hd] at h

/-- Behind the digits of a number that is passed over there is an exponent part or none. -/
theorem exists_exponent_of_skipScaled {bytes rest : Bytes} (h : skipScaled bytes = .ok rest) :
    ∃ x : Option Exponent, bytes = exponentBytes x ++ rest := by
  cases bytes with
  | nil => exact ⟨none, Except.ok.inj h⟩
  | cons b bytes =>
    rw [skipScaled] at h
    split_ifs at h with hmark
    · obtain ⟨x, hcapital, rfl⟩ := exists_exponent_of_skipExponent h (b == 0x45)
      refine ⟨some x, ?_⟩
      rw [exponentBytes, Exponent.bytes, hcapital, List.cons_append]
      rcases hmark with rfl | rfl <;> rfl
    · exact ⟨none, Except.ok.inj h⟩

/-- A number that is passed over begins with a digit, and with a zero only if no other one
follows. -/
theorem exists_digit_of_skipNumber {bytes rest : Bytes} (h : skipNumber bytes = .ok rest) :
    ∃ d tail, bytes = d :: tail ∧ isDigit d = true ∧ (d = 0x30 → tail.takeWhile isDigit = []) := by
  cases bytes with
  | nil => exact absurd h (by simp [skipNumber])
  | cons d tail =>
    rw [skipNumber] at h
    split_ifs at h with hd hpadded
    refine ⟨d, tail, rfl, by simpa using hd, ?_⟩
    rintro rfl
    cases tail with
    | nil => rfl
    | cons b tail => exact List.takeWhile_cons_of_neg (by simpa using hpadded)

/-- **Whatever is passed over as a number is a numeral**, with any sign before it. -/
theorem exists_numeral_of_skipNumber {bytes rest : Bytes} (h : skipNumber bytes = .ok rest)
    (negative : Bool) : ∃ n : Numeral, n.negative = negative ∧ bytes = n.unsigned ++ rest := by
  obtain ⟨d, bytes, rfl, hd, hzero⟩ := exists_digit_of_skipNumber h
  have hds : ∀ b ∈ bytes.takeWhile isDigit, isDigit b = true :=
    fun b hb => List.all_eq_true.mp List.all_takeWhile b hb
  have hwhole : (Digits.ofHead hd bytes).bytes.head? = some 0x30 →
      (Digits.ofHead hd bytes).bytes.length = 1 := by
    rintro ⟨⟩
    simp [Digits.ofHead, hzero rfl]
  rw [← List.takeWhile_append_dropWhile (p := isDigit) (l := bytes)] at h
  rw [← Digits.ofHead_append hd bytes]
  by_cases hpoint : ∃ fraction, bytes.dropWhile isDigit = 0x2e :: fraction
  · obtain ⟨fraction, hfraction⟩ := hpoint
    rw [hfraction, skipNumber_point hd hds hzero] at h
    split_ifs at h with hnext
    cases fraction with
    | nil => exact absurd hnext (by simp)
    | cons e es =>
      have he : isDigit e = true := by simpa using hnext
      rw [List.dropWhile_cons_of_pos he] at h
      obtain ⟨x, hrest⟩ := exists_exponent_of_skipScaled h
      refine ⟨⟨negative, .ofHead hd bytes, some (.ofHead he es), x, hwhole⟩, rfl, ?_⟩
      rw [hfraction, ← Digits.ofHead_append he es, hrest]
      simp [Numeral.unsigned, fractionBytes]
  · have hpoint : ∀ b ∈ (bytes.dropWhile isDigit).head?, b ≠ 0x2e := by
      rintro b hb rfl
      exact hpoint (List.head?_eq_some_iff.mp hb)
    rw [skipNumber_plain hd hds hzero (noDigit_dropWhile bytes) hpoint] at h
    obtain ⟨x, hrest⟩ := exists_exponent_of_skipScaled h
    refine ⟨⟨negative, .ofHead hd bytes, none, x, hwhole⟩, rfl, ?_⟩
    simp [hrest, Numeral.unsigned, fractionBytes]

/-! ## Scalars and keys -/

/-- A value that holds no other: what is read as such, or not at all. -/
def Written.IsScalar : Written → Prop
  | .list .. => False
  | .object .. => False
  | _ => True

/-- Such a value begins with no bracket. -/
theorem Written.IsScalar.exists_eq_cons {w : Written} (hw : w.IsScalar) :
    ∃ b tail, w.bytes = b :: tail ∧ b ≠ 0x5b ∧ b ≠ 0x7b := by
  cases w with
  | null => exact ⟨_, _, rfl, by decide⟩
  | bool b => cases b <;> exact ⟨_, _, rfl, by decide⟩
  | number n =>
    obtain ⟨d, tail, hunsigned, hd⟩ := n.exists_unsigned_eq_cons
    rw [Written.bytes, Numeral.bytes, hunsigned]
    cases n.negative with
    | true => exact ⟨_, _, rfl, by decide⟩
    | false => exact ⟨d, tail, rfl, ne_of_isDigit hd (by decide), ne_of_isDigit hd (by decide)⟩
  | text ps => exact ⟨_, _, rfl, by decide⟩
  | list gap items => exact absurd hw id
  | object gap members => exact absurd hw id

/-- **A value that holds no other is passed over**, before anything that continues no numeral. -/
theorem skipScalar_written {w : Written} (hw : w.IsScalar) {rest : Bytes} (hrest : Ends rest) :
    skipScalar (w.bytes ++ rest) = .ok rest := by
  cases w with
  | null => exact readWord_append (Bytes.ofString "ull") rest
  | bool b =>
    cases b with
    | true => exact readWord_append (Bytes.ofString "rue") rest
    | false => exact readWord_append (Bytes.ofString "alse") rest
  | number n =>
    have hskip := skipNumber_numeral n (hrest.endsBefore n)
    obtain ⟨d, tail, hunsigned, hd⟩ := n.exists_unsigned_eq_cons
    rw [Written.bytes, Numeral.bytes]
    cases n.negative with
    | true => exact hskip
    | false =>
      have hne := @ne_of_isDigit d
      rw [hunsigned] at hskip ⊢
      change skipScalar (d :: (tail ++ rest)) = _
      rw [skipScalar, if_neg (hne hd (by decide)), if_neg (hne hd (by decide)),
        if_neg (hne hd (by decide)), if_neg (hne hd (by decide)), if_pos hd]
      exact hskip
  | text ps =>
    have hskip := skipChars_pieces ps rest
    rw [Written.bytes, Pieces.quoted, List.cons_append, List.append_assoc, List.singleton_append]
    exact hskip
  | list gap items => exact absurd hw id
  | object gap members => exact absurd hw id

/-- Whatever is passed over and holds no other value is written. -/
theorem exists_written_of_skipScalar {bytes rest : Bytes} (h : skipScalar bytes = .ok rest) :
    ∃ w : Written, bytes = w.bytes ++ rest := by
  cases bytes with
  | nil => exact absurd h (by simp [skipScalar, throw, throwThe, MonadExceptOf.throw])
  | cons b bytes =>
    rw [skipScalar] at h
    split_ifs at h with hnull htrue hfalse hminus hdigit hquote
    · exact ⟨.null, by rw [hnull, eq_append_of_readWord h]; rfl⟩
    · exact ⟨.bool true, by rw [htrue, eq_append_of_readWord h]; rfl⟩
    · exact ⟨.bool false, by rw [hfalse, eq_append_of_readWord h]; rfl⟩
    · obtain ⟨n, hnegative, hbytes⟩ := exists_numeral_of_skipNumber h true
      refine ⟨.number n, ?_⟩
      rw [Written.bytes, Numeral.bytes, if_pos hnegative, hminus, hbytes]
      rfl
    · obtain ⟨n, hnegative, hbytes⟩ := exists_numeral_of_skipNumber h false
      refine ⟨.number n, ?_⟩
      rw [Written.bytes, Numeral.bytes, if_neg (by simp [hnegative]), hbytes]
    · obtain ⟨ps, hbytes⟩ := exists_pieces_of_skipChars h
      refine ⟨.text ps, ?_⟩
      rw [Written.bytes, Pieces.quoted, hquote, hbytes]
      simp

theorem firstMember_quoted (gap before : Blanks) (ps : Pieces) (rest : Bytes) :
    firstMember (gap.bytes ++ (before.bytes ++ (ps.quoted ++ rest))) =
      .ok (.inl (ps.quoted ++ rest)) :=
  firstMember_member gap before _

theorem skipBlanks_quoted (gap : Blanks) (ps : Pieces) (rest : Bytes) :
    skipBlanks (gap.bytes ++ (ps.quoted ++ rest)) = ps.quoted ++ rest :=
  (skipBlanks_blanks gap _).trans (skipBlanks_cons (by decide) _)

theorem skipKey_quoted (ps : Pieces) (gap : Blanks) (rest : Bytes) :
    skipKey (ps.quoted ++ (gap.bytes ++ 0x3a :: rest)) = .ok rest := by
  rw [Pieces.quoted, List.cons_append, List.append_assoc, List.singleton_append, skipKey,
    skipChars_pieces]
  exact readColon_blanks gap rest

/-- A key that is passed over with its colon is a text token. -/
theorem exists_of_skipKey {bytes rest : Bytes} (h : skipKey bytes = .ok rest) :
    ∃ (ps : Pieces) (gap : Blanks), bytes = ps.quoted ++ (gap.bytes ++ 0x3a :: rest) := by
  unfold skipKey at h
  split at h
  next tail =>
    obtain ⟨next, hchars, hcolon⟩ := bind_eq_ok_iff.mp h
    obtain ⟨ps, rfl⟩ := exists_pieces_of_skipChars hchars
    obtain ⟨gap, rfl⟩ := exists_of_readColon hcolon
    exact ⟨ps, gap, by simp [Pieces.quoted]⟩
  all_goals exact absurd h (by simp [throw, throwThe, MonadExceptOf.throw])

/-! ## Open brackets -/

open Written

/-- **Bytes close all open brackets**, the innermost first: with further items and a bracket for a
list, and with further members and a brace for an object. -/
def Closes : List Bracket → Bytes → Bytes → Prop
  | [], bytes, rest => bytes = rest
  | .list :: opened, bytes, rest => ∃ (gap : Blanks) (items : List (Spaced Written)) (tail : Bytes),
      bytes = gap.bytes ++ (itemsBytes false items ++ 0x5d :: tail) ∧ Closes opened tail rest
  | .object :: opened, bytes, rest =>
    ∃ (gap : Blanks) (members : List (Spaced Pieces × Spaced Written)) (tail : Bytes),
      bytes = gap.bytes ++ (membersBytes false members ++ 0x7d :: tail) ∧ Closes opened tail rest

theorem ends_itemsBytes (items : List (Spaced Written)) (tail : Bytes) :
    Ends (itemsBytes false items ++ 0x5d :: tail) := by
  cases items with
  | nil => exact ends_cons (by decide) _
  | cons x items => exact ends_cons (by decide) _

theorem ends_membersBytes (members : List (Spaced Pieces × Spaced Written)) (tail : Bytes) :
    Ends (membersBytes false members ++ 0x7d :: tail) := by
  cases members with
  | nil => exact ends_cons (by decide) _
  | cons m members => exact ends_cons (by decide) _

/-- What closes brackets continues no numeral. -/
theorem Closes.ends {opened : List Bracket} {bytes rest : Bytes} (h : Closes opened bytes rest)
    (hrest : Ends rest) : Ends bytes := by
  cases opened with
  | nil => exact (show bytes = rest from h) ▸ hrest
  | cons bracket opened =>
    cases bracket with
    | list =>
      obtain ⟨gap, items, tail, rfl, -⟩ := h
      exact ends_blanks gap (ends_itemsBytes items tail)
    | object =>
      obtain ⟨gap, members, tail, rfl, -⟩ := h
      exact ends_blanks gap (ends_membersBytes members tail)

/-! ## Written values are passed over -/

/-- A written value is passed over with some fuel, together with what closes the open brackets. -/
def SkipsOpen (fuel : Nat) : Prop :=
  ∀ {opened : List Bracket} (gap : Blanks) (w : Written) {tail rest : Bytes},
    Closes opened tail rest → Ends rest → w.bytes.length + tail.length < fuel →
      skipOpen fuel opened (gap.bytes ++ (w.bytes ++ tail)) = .ok rest

/-- What closes the open brackets is passed over with some fuel. -/
def SkipsClose (fuel : Nat) : Prop :=
  ∀ {opened : List Bracket} {bytes rest : Bytes}, Closes opened bytes rest → Ends rest →
    bytes.length < fuel → skipClose fuel opened bytes = .ok rest

theorem skipOpen_scalar {w : Written} (hw : w.IsScalar) (fuel : Nat) (opened : List Bracket)
    (gap : Blanks) {tail : Bytes} (htail : Ends tail) :
    skipOpen (fuel + 1) opened (gap.bytes ++ (w.bytes ++ tail)) = skipClose fuel opened tail := by
  have hskip := skipScalar_written hw htail
  obtain ⟨b, bytes, hbytes, hlist, hobject⟩ := hw.exists_eq_cons
  rw [skipOpen, skipBlanks_written]
  rw [hbytes, List.cons_append] at hskip ⊢
  split
  next h => exact absurd (List.cons.inj h).1 hlist
  next h => exact absurd (List.cons.inj h).1 hobject
  next => rw [hskip]

theorem Written.bytes_pos (w : Written) : 0 < w.bytes.length := by
  obtain ⟨b, tail, hbytes, -⟩ := exists_bytes_eq_cons w
  rw [hbytes]
  exact Nat.zero_lt_succ _

section

variable {fuel : Nat} (hopen : SkipsOpen fuel) (hclose : SkipsClose fuel)

include hopen hclose

theorem SkipsOpen.succ : SkipsOpen (fuel + 1) := by
  intro opened gap w tail rest hcloses hrest hfuel
  -- every move takes a byte at least, so what is left of the fuel is enough for what is left
  have hscalar (hw : w.IsScalar) :
      skipOpen (fuel + 1) opened (gap.bytes ++ (w.bytes ++ tail)) = .ok rest := by
    rw [skipOpen_scalar hw fuel opened gap (hcloses.ends hrest)]
    exact hclose hcloses hrest (by have := w.bytes_pos; omega)
  cases w with
  | list inner items =>
    simp only [Written.bytes, List.length_cons, List.length_append, List.append_assoc,
      List.cons_append, List.nil_append] at hfuel ⊢
    rw [skipOpen, skipBlanks_blanks, skipBlanks_cons (by decide)]
    simp only
    cases items with
    | nil =>
      simp only [itemsBytes, List.nil_append, firstItem_end]
      exact hclose hcloses hrest (by omega)
    | cons x items =>
      simp only [itemsBytes_cons, comma, if_true, List.nil_append, List.append_assoc,
        List.length_append, firstItem_item] at hfuel ⊢
      refine hopen .none x.item ⟨x.after, items, tail, rfl, hcloses⟩ hrest ?_
      simp only [List.length_append, List.length_cons]
      omega
  | object inner members =>
    simp only [Written.bytes, List.length_cons, List.length_append, List.append_assoc,
      List.cons_append, List.nil_append] at hfuel ⊢
    rw [skipOpen, skipBlanks_blanks, skipBlanks_cons (by decide)]
    simp only
    cases members with
    | nil =>
      simp only [membersBytes, List.nil_append, firstMember_end]
      exact hclose hcloses hrest (by omega)
    | cons m members =>
      obtain ⟨key, x⟩ := m
      simp only [membersBytes_cons, comma, keyBytes, if_true, List.nil_append, List.append_assoc,
        List.length_append, List.cons_append, List.length_cons, firstMember_quoted,
        skipKey_quoted] at hfuel ⊢
      refine hopen x.before x.item ⟨x.after, members, tail, rfl, hcloses⟩ hrest ?_
      simp only [List.length_append, List.length_cons]
      omega
  | null => exact hscalar trivial
  | bool b => exact hscalar trivial
  | number n => exact hscalar trivial
  | text ps => exact hscalar trivial

theorem SkipsClose.succ : SkipsClose (fuel + 1) := by
  intro opened bytes rest hcloses hrest hfuel
  cases opened with
  | nil =>
    obtain rfl : bytes = rest := hcloses
    rw [skipClose]
  | cons bracket opened =>
    cases bracket with
    | list =>
      obtain ⟨gap, items, tail, rfl, hcloses⟩ := hcloses
      cases items with
      | nil =>
        rw [skipClose, skipBlanks_blanks, itemsBytes, List.nil_append, skipBlanks_cons (by decide)]
        simp only [List.length_append, itemsBytes, List.length_cons] at hfuel ⊢
        exact hclose hcloses hrest (by omega)
      | cons x items =>
        simp only [itemsBytes_cons, comma, Bool.false_eq_true, if_false, List.nil_append,
          List.cons_append, List.append_assoc, List.length_append, List.length_cons] at hfuel ⊢
        rw [skipClose, skipBlanks_blanks, skipBlanks_cons (by decide)]
        refine hopen x.before x.item ⟨x.after, items, tail, rfl, hcloses⟩ hrest ?_
        simp only [List.length_append, List.length_cons]
        omega
    | object =>
      obtain ⟨gap, members, tail, rfl, hcloses⟩ := hcloses
      cases members with
      | nil =>
        rw [skipClose, skipBlanks_blanks, membersBytes, List.nil_append,
          skipBlanks_cons (by decide)]
        simp only [List.length_append, membersBytes, List.length_cons] at hfuel ⊢
        exact hclose hcloses hrest (by omega)
      | cons m members =>
        obtain ⟨key, x⟩ := m
        simp only [membersBytes_cons, comma, keyBytes, Bool.false_eq_true, if_false,
          List.nil_append, List.cons_append, List.append_assoc, List.length_append,
          List.length_cons] at hfuel ⊢
        rw [skipClose, skipBlanks_blanks, skipBlanks_cons (by decide)]
        simp only
        rw [skipBlanks_quoted, skipKey_quoted]
        refine hopen x.before x.item ⟨x.after, members, tail, rfl, hcloses⟩ hrest ?_
        simp only [List.length_append, List.length_cons]
        omega

end

theorem skips_of_fuel (fuel : Nat) : SkipsOpen fuel ∧ SkipsClose fuel := by
  -- the two halves call one another with one step of fuel less, so they go together
  induction fuel with
  | zero =>
    constructor
    · intro opened gap w tail rest _ _ hfuel
      exact absurd hfuel (Nat.not_lt_zero _)
    · intro opened bytes rest _ _ hfuel
      exact absurd hfuel (Nat.not_lt_zero _)
  | succ fuel ih => exact ⟨SkipsOpen.succ ih.1 ih.2, SkipsClose.succ ih.1 ih.2⟩

/-- **Every written value is passed over**, before anything that continues no numeral. -/
theorem skipValue_written (gap : Blanks) (w : Written) {rest : Bytes} (hrest : Ends rest) :
    skipValue (gap.bytes ++ (w.bytes ++ rest)) = .ok rest := by
  have hclosed : Closes [] rest rest := rfl
  refine (skips_of_fuel _).1 gap w hclosed hrest ?_
  simp only [List.length_append]
  omega

/-! ## Whatever is passed over is written -/

/-- Whatever is passed over with some fuel is a written value and what closes the brackets. -/
def OpenWritten (fuel : Nat) : Prop :=
  ∀ {opened : List Bracket} {bytes rest : Bytes}, skipOpen fuel opened bytes = .ok rest →
    ∃ (gap : Blanks) (w : Written) (tail : Bytes),
      bytes = gap.bytes ++ (w.bytes ++ tail) ∧ Closes opened tail rest

/-- Whatever is passed over up to the last open bracket closes them all. -/
def CloseWritten (fuel : Nat) : Prop :=
  ∀ {opened : List Bracket} {bytes rest : Bytes}, skipClose fuel opened bytes = .ok rest →
    Closes opened bytes rest

section

variable {fuel : Nat} (hopen : OpenWritten fuel) (hclose : CloseWritten fuel)

include hopen hclose

theorem OpenWritten.succ : OpenWritten (fuel + 1) := by
  intro opened bytes rest h
  obtain ⟨gap, tail, rfl, htail⟩ := exists_blanks bytes
  rw [skipOpen, htail] at h
  clear htail
  split at h
  next tail =>
    split at h
    next => exact absurd h (by simp)
    next hfirst =>
      obtain ⟨inner, rfl⟩ := exists_of_firstItem_end hfirst
      exact ⟨gap, .list inner [], _, by simp [Written.bytes, itemsBytes], hclose h⟩
    next hfirst =>
      obtain ⟨inner, rfl⟩ := exists_of_firstItem_item hfirst
      obtain ⟨before, w, _, rfl, after, items, tail, rfl, hcloses⟩ := hopen h
      refine ⟨gap, .list inner (⟨before, w, after⟩ :: items), tail, ?_, hcloses⟩
      simp [Written.bytes, comma]
  next tail =>
    split at h
    next => exact absurd h (by simp)
    next hfirst =>
      obtain ⟨inner, rfl⟩ := exists_of_firstMember_end hfirst
      exact ⟨gap, .object inner [], _, by simp [Written.bytes, membersBytes], hclose h⟩
    next hfirst =>
      obtain ⟨inner, rfl⟩ := exists_of_firstMember_member hfirst
      split at h
      next => exact absurd h (by simp)
      next hkey =>
        obtain ⟨ps, colon, rfl⟩ := exists_of_skipKey hkey
        obtain ⟨before, w, _, rfl, after, members, tail, rfl, hcloses⟩ := hopen h
        refine ⟨gap, .object inner ((⟨.none, ps, colon⟩, ⟨before, w, after⟩) :: members), tail, ?_,
          hcloses⟩
        simp [Written.bytes, comma, keyBytes, Blanks.none]
  next =>
    split at h
    next => exact absurd h (by simp)
    next hscalar =>
      obtain ⟨w, rfl⟩ := exists_written_of_skipScalar hscalar
      exact ⟨gap, w, _, rfl, hclose h⟩

theorem CloseWritten.succ : CloseWritten (fuel + 1) := by
  intro opened bytes rest h
  cases opened with
  | nil =>
    rw [skipClose] at h
    exact Except.ok.inj h
  | cons bracket opened =>
    obtain ⟨gap, tail, rfl, htail⟩ := exists_blanks bytes
    cases bracket with
    | list =>
      rw [skipClose, htail] at h
      clear htail
      split at h
      next =>
        obtain ⟨before, w, _, rfl, after, items, tail, rfl, hcloses⟩ := hopen h
        refine ⟨gap, ⟨before, w, after⟩ :: items, tail, ?_, hcloses⟩
        simp [comma]
      next => exact ⟨gap, [], _, by simp [itemsBytes], hclose h⟩
      all_goals exact absurd h (by simp)
    | object =>
      rw [skipClose, htail] at h
      clear htail
      split at h
      next tail =>
        obtain ⟨next, tail, rfl, htail⟩ := exists_blanks tail
        rw [htail] at h
        split at h
        next => exact absurd h (by simp)
        next hkey =>
          obtain ⟨ps, colon, rfl⟩ := exists_of_skipKey hkey
          obtain ⟨before, w, _, rfl, after, members, tail, rfl, hcloses⟩ := hopen h
          refine ⟨gap, (⟨next, ps, colon⟩, ⟨before, w, after⟩) :: members, tail, ?_, hcloses⟩
          simp [comma, keyBytes]
      next => exact ⟨gap, [], _, by simp [membersBytes], hclose h⟩
      all_goals exact absurd h (by simp)

end

theorem skipped_of_fuel (fuel : Nat) : OpenWritten fuel ∧ CloseWritten fuel := by
  induction fuel with
  | zero =>
    refine ⟨fun h => ?_, fun h => ?_⟩
    · exact absurd h (by simp [skipOpen])
    · exact absurd h (by simp [skipClose])
  | succ fuel ih => exact ⟨OpenWritten.succ ih.1 ih.2, CloseWritten.succ ih.1 ih.2⟩

/-- **Whatever is passed over is a written value** behind blanks. -/
theorem exists_written_of_skipValue {bytes rest : Bytes} (h : skipValue bytes = .ok rest) :
    ∃ (gap : Blanks) (w : Written), bytes = gap.bytes ++ (w.bytes ++ rest) := by
  obtain ⟨gap, w, tail, rfl, hcloses⟩ := (skipped_of_fuel _).1 h
  obtain rfl : tail = rest := hcloses
  exact ⟨gap, w, rfl⟩

end Json

end HttpLoad
