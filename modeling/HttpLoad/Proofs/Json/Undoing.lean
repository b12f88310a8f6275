import HttpLoad.Proofs.Json.Document
import HttpLoad.Proofs.Json.Printing

/-!
# Decoders undo the printing

A decoder undoes a value if it reads the compact text of that value as what was printed, and stops
right behind it. What follows may be anything that does not continue a number, so values stand in
lists and objects as they stand alone.

A record is undone field by field: the members are printed in some order, each is a field that the
state does not hold yet, and the state that the last one leads to has all that the record needs.

## Main definitions

* `Json.Written.IsSigned`: a written value is a whole number of 64 bits
* `Json.TakesWritten`: a decoder takes nothing but written values
* `Json.Undoes`: a decoder reads the compact text of a value as what was printed
* `Json.Record.Fills`: members lead from a state to another one, field by field

## Main results

* `Json.decodeInteger_written`, `Json.decodeOptional_written`: what is decoded from a written value
* `Json.Written.signed?_eq_some_iff`: that is a whole number exactly if the value is one
* `Json.undoes_text`, `Json.undoes_real`, `Json.undoes_list`: decoders of simple kinds
* `Json.Record.undoes`: a record is undone if its members fill the fields
* `Json.Undoes.decodeAll_eq`: a whole text is read as what was printed
-/

namespace HttpLoad

/-!
## Whole numbers are decoded

The decoder of whole numbers of 64 bits takes those numerals that have neither a point nor an
exponent, that are in range, and that are not the negative zero, which is read as a double. Where
`null` may stand for nothing, it is taken as well.
-/

namespace Json

/-- A whole number that fits 64 bits with a sign, if a written value is one. -/
def Written.signed? : Written → Option Int
  | .number n =>
    match n.read? with
    | some (integer i) => if fitsSigned i then some i else none
    | _ => none
  | _ => none

/-- What a written value gives where `null` stands for nothing. -/
def Written.optional? (read : Written → Option α) : Written → Option (Option α)
  | .null => some none
  | w => (read w).map some

/-- A numeral begins with its sign or a digit. -/
theorem exists_numeral_eq_cons (n : Numeral) : ∃ b tail, n.bytes = b :: tail ∧
    startsNumber b = true ∧ isBlank b = false ∧ b ≠ 0x6e := by
  obtain ⟨d, tail, hunsigned, hd⟩ := n.exists_unsigned_eq_cons
  rw [Numeral.bytes, hunsigned]
  cases n.negative with
  | true => exact ⟨_, _, rfl, by decide⟩
  | false => exact ⟨d, tail, rfl, by simp [startsNumber, hd], not_isBlank_of_isDigit hd,
      ne_of_isDigit hd (by decide)⟩

section

variable (gap : Blanks) (w : Written) {rest : Bytes}

/-- **A whole number is decoded** from a written value if that is one. -/
theorem decodeInteger_written (expected : String) (hrest : Ends rest) :
    (decodeInteger expected (gap.bytes ++ (w.bytes ++ rest))).toOption =
      w.signed?.map fun i => (i, rest) := by
  rw [decodeInteger, skipBlanks_written]
  cases w with
  | number n =>
    obtain ⟨b, tail, hbytes, hstarts, -⟩ := exists_numeral_eq_cons n
    have hscalar := readScalar_number n hrest
    rw [Written.bytes]
    rw [hbytes, List.cons_append] at hscalar ⊢
    simp only [hstarts, if_true, Written.signed?]
    cases hread : n.read? with
    | none =>
      rw [hread] at hscalar
      obtain ⟨fault, hfault⟩ := toOption_eq_none_iff.mp hscalar
      rw [hfault]
      rfl
    | some v =>
      rw [if_pos (by rw [hread]; rfl), toOption_eq_some_iff, Numeral.read_eq hread] at hscalar
      rw [hscalar]
      cases v with
      | integer i => cases hfits : fitsSigned i <;> simp [hfits, Except.toOption]
      | _ => rfl
  | bool b => cases b <;> rfl
  | _ => rfl

/-- What may be `null` is decoded if nothing else would be. -/
theorem decodeOptional_written {decode : Decoder α} {read : Written → Option α}
    (hdecode : ∀ w : Written,
      (decode (w.bytes ++ rest)).toOption = (read w).map fun a => (a, rest)) :
    (decodeOptional decode (gap.bytes ++ (w.bytes ++ rest))).toOption =
      (w.optional? read).map fun a => (a, rest) := by
  have hother (h : decodeOptional decode (gap.bytes ++ (w.bytes ++ rest)) =
      decode (w.bytes ++ rest) >>= fun read => .ok (some read.1, read.2)) :
      (decodeOptional decode (gap.bytes ++ (w.bytes ++ rest))).toOption =
        ((read w).map some).map fun a => (a, rest) := by
    have hread := hdecode w
    rw [h]
    cases hresult : decode (w.bytes ++ rest) with
    | error fault =>
      rw [hresult] at hread
      rw [Option.map_eq_none_iff.mp hread.symm]
      rfl
    | ok result =>
      rw [hresult] at hread
      obtain ⟨a, ha, rfl⟩ := Option.map_eq_some_iff.mp hread.symm
      rw [ha]
      rfl
  rw [decodeOptional, skipBlanks_written] at hother ⊢
  cases w with
  | null =>
    change (readWord (Bytes.ofString "ull") (Bytes.ofString "ull" ++ rest) >>= fun rest =>
      .ok (none, rest)).toOption = some (none, rest)
    rw [readWord_append]
    rfl
  | number n =>
    refine hother ?_
    obtain ⟨b, tail, hbytes, -, -, hnull⟩ := exists_numeral_eq_cons n
    rw [Written.bytes, hbytes, List.cons_append]
    split
    next h => exact absurd (List.cons.inj h).1 hnull
    next => rfl
  | bool b => cases b <;> exact hother rfl
  | _ => exact hother rfl

end

namespace Written

/-- **A written value is a whole number of 64 bits**: it has neither a point nor an exponent, and it
is not the negative zero. -/
def IsSigned (w : Written) (n : Int) : Prop :=
  ∃ m : Numeral, w = .number m ∧ m.Spells n ∧ -2 ^ 63 ≤ n ∧ n < 2 ^ 63

theorem fitsSigned_iff {n : Int} : fitsSigned n = true ↔ -2 ^ 63 ≤ n ∧ n < 2 ^ 63 := by
  simp [fitsSigned]

theorem spells_of_wholeNumber {m : Numeral} {n : Int} (hwhole : m.IsWhole)
    (h : wholeNumber m.negative m.digits = .integer n) : m.Spells n := by
  obtain ⟨hfraction, hexponent, -⟩ := hwhole
  obtain ⟨hnegative, hdigits⟩ : m.negative = decide (n < 0) ∧ m.digits = n.natAbs := by
    unfold wholeNumber at h
    cases hsign : m.negative with
    | false =>
      obtain rfl := Json.integer.inj ((if_pos (by rw [hsign]; rfl)).symm.trans h)
      simp
    | true =>
      rw [if_neg (by simp [hsign])] at h
      split_ifs at h with hreal
      obtain rfl := Json.integer.inj h
      have hpos : 0 < m.digits := by omega
      simpa using hpos
  exact ⟨Option.isNone_iff_eq_none.mp hfraction, Option.isNone_iff_eq_none.mp hexponent, hnegative,
    hdigits⟩

theorem signed?_eq_some_iff {w : Written} {n : Int} : w.signed? = some n ↔ IsSigned w n := by
  constructor
  · intro h
    cases w with
    | number m =>
      rw [signed?] at h
      split at h
      next i hread =>
        split_ifs at h with hfits
        obtain rfl := Option.some.inj h
        have hwhole : m.IsWhole := by
          by_contra hnot
          obtain ⟨x, hx, -⟩ := Numeral.real_of_read? hnot hread
          exact absurd hx (by simp)
        rw [Numeral.read?_of_isWhole hwhole, Option.some.injEq] at hread
        exact ⟨m, rfl, spells_of_wholeNumber hwhole hread, fitsSigned_iff.mp hfits⟩
      next => exact absurd h (by simp)
    | _ => exact absurd h (by simp [signed?])
  · rintro ⟨m, rfl, hspells, hlower, hupper⟩
    have hmax : significandMax = 2 ^ 64 - 1 := rfl
    have hnumber : (Json.integer n).IsNumber := ⟨hlower, by omega⟩
    have hread : m.read? = some (.integer n) := by
      have hwhole := hspells.isWhole hnumber
      rw [← hspells.exact_eq hnumber, Numeral.exact, if_pos hwhole]
      exact Numeral.read?_of_isWhole hwhole
    rw [signed?, hread]
    exact if_pos (fitsSigned_iff.mpr ⟨hlower, hupper⟩)

end Written

/-! ### Whatever is decoded is written -/

/-- A decoder takes nothing but written values, each behind blanks. -/
def TakesWritten (decode : Decoder α) : Prop :=
  ∀ {bytes rest : Bytes} {a : α}, decode bytes = .ok (a, rest) →
    ∃ (gap : Blanks) (w : Written), bytes = gap.bytes ++ (w.bytes ++ rest)

theorem takesWritten_decodeInteger (expected : String) : TakesWritten (decodeInteger expected) := by
  intro bytes rest i h
  obtain ⟨gap, tail, rfl, htail⟩ := exists_blanks bytes
  rw [decodeInteger, htail] at h
  cases tail with
  | nil => exact absurd h (by simp)
  | cons b tail =>
    simp only at h
    split at h
    next =>
      cases hresult : readScalar (b :: tail) with
      | error fault => exact absurd h (by rw [hresult]; simp)
      | ok result =>
        obtain ⟨v, next⟩ := result
        obtain ⟨w, hw⟩ := exists_written_of_readScalar hresult
        rw [hresult] at h
        cases v with
        | integer j =>
          simp only at h
          split_ifs at h
          obtain ⟨-, rfl⟩ := Prod.mk.inj (Except.ok.inj h)
          exact ⟨gap, w, by rw [hw]⟩
        | _ => exact absurd h (by simp)
    next => exact absurd h (by simp)

theorem TakesWritten.optional {decode : Decoder α} (hdecode : TakesWritten decode) :
    TakesWritten (decodeOptional decode) := by
  intro bytes rest a h
  obtain ⟨gap, tail, rfl, htail⟩ := exists_blanks bytes
  rw [decodeOptional, htail] at h
  split at h
  next tail =>
    obtain ⟨next, hword, hresult⟩ := bind_eq_ok_iff.mp h
    obtain ⟨-, rfl⟩ := Prod.mk.inj (Except.ok.inj hresult)
    refine ⟨gap, .null, ?_⟩
    rw [eq_append_of_readWord hword]
    rfl
  next tail _ =>
    obtain ⟨⟨b, next⟩, hread, hresult⟩ := bind_eq_ok_iff.mp h
    obtain ⟨-, rfl⟩ := Prod.mk.inj (Except.ok.inj hresult)
    obtain ⟨inner, w, rfl⟩ := hdecode hread
    exact ⟨gap.append inner, w, by simp [Blanks.append]⟩

end Json

/-! ## Undoing -/

namespace Json

/-- **A decoder undoes a value**: its compact text is read as `a`, whatever follows that does not
continue a number. -/
def Undoes (decode : Decoder α) (v : Json) (a : α) : Prop :=
  ∀ rest, Ends (Bytes.ofChars rest) →
    decode (Bytes.ofChars (compactThen v rest)) = .ok (a, Bytes.ofChars rest)

theorem Undoes.decodeAll_eq {decode : Decoder α} {v : Json} {a : α} (h : Undoes decode v a) :
    decodeAll decode (Bytes.ofString v.compact) = .ok a := by
  have hread := h [] ends_nil
  rw [decodeAll, compact, Bytes.ofString, String.toList_ofList, hread]
  rfl

/-! ### Where values begin -/

/-- The compact text of a value begins with a byte that is neither blank nor closes a list. -/
theorem exists_compactThen_eq_cons (v : Json) (rest : List Char) :
    ∃ b tail, Bytes.ofChars (compactThen v rest) = b :: tail ∧ isBlank b = false ∧ b ≠ 0x5d := by
  have hnumeral : ∀ n : Numeral, n.bytes = Bytes.ofChars (scalarChars v) →
      ∃ b tail, Bytes.ofChars (scalarChars v ++ rest) = b :: tail ∧ isBlank b = false ∧
        b ≠ 0x5d := by
    intro n hn
    obtain ⟨b, tail, hbytes, hblank, hlist, -⟩ := exists_bytes_eq_cons (.number n)
    rw [Written.bytes, hn] at hbytes
    exact ⟨b, tail ++ Bytes.ofChars rest, by rw [Bytes.ofChars_append, hbytes]; rfl, hblank, hlist⟩
  cases v with
  | null => exact ⟨_, _, rfl, by decide⟩
  | bool b => cases b <;> exact ⟨_, _, rfl, by decide⟩
  | integer i => exact hnumeral (.ofInt i) (Numeral.bytes_ofInt i)
  | real x =>
    by_cases hfinite : x.isFinite = true
    · obtain ⟨n, hn, -⟩ := exists_numeral_doubleText hfinite
      refine hnumeral n ?_
      rw [hn, scalarChars, realChars, if_pos hfinite]
    · rw [compactThen, scalarChars, realChars, if_neg hfinite]
      · exact ⟨_, _, rfl, by decide⟩
      all_goals simp
  | text s => exact ⟨_, _, rfl, by decide⟩
  | list items => exact ⟨_, _, rfl, by decide⟩
  | object members => exact ⟨_, _, rfl, by decide⟩

mutual

theorem compactThen_append (v : Json) (rest more : List Char) :
    compactThen v (rest ++ more) = compactThen v rest ++ more := by
  cases v with
  | list items => exact congrArg ('[' :: ·) (compactItems_append true items (']' :: rest) more)
  | object members =>
    exact congrArg ('\x7b' :: ·) (compactMembers_append true members ('\x7d' :: rest) more)
  | _ => exact (List.append_assoc ..).symm

theorem compactItems_append (first : Bool) (items : List Json) (rest more : List Char) :
    compactItems first items (rest ++ more) = compactItems first items rest ++ more := by
  cases items with
  | nil => rfl
  | cons v items =>
    rw [compactItems, compactItems, compactItems_append false items, compactThen_append v]
    cases first <;> rfl

theorem compactMembers_append (first : Bool) (members : List (String × Json))
    (rest more : List Char) :
    compactMembers first members (rest ++ more) = compactMembers first members rest ++ more := by
  cases members with
  | nil => rfl
  | cons m members =>
    obtain ⟨key, v⟩ := m
    rw [compactMembers, compactMembers, compactMembers_append false members, compactThen_append v]
    cases first <;> simp

end

/-- The compact text of a value is not empty. -/
theorem length_lt_compactThen (v : Json) (rest : List Char) :
    (Bytes.ofChars rest).length < (Bytes.ofChars (compactThen v rest)).length := by
  obtain ⟨b, tail, hcons, -⟩ := exists_compactThen_eq_cons v []
  have hsplit := compactThen_append v [] rest
  rw [List.nil_append] at hsplit
  rw [hsplit, Bytes.ofChars_append, hcons, List.length_append, List.length_cons]
  omega

/-! ### Texts and numbers -/

theorem readText_quoted (s : String) (rest : List Char) :
    ∃ tail, Bytes.ofChars (quotedChars s ++ rest) = 0x22 :: tail ∧
      readText tail = .ok (s, Bytes.ofChars rest) := by
  obtain ⟨ps, hquoted, hstring⟩ := exists_pieces_quotedChars s
  refine ⟨ps.bytes ++ 0x22 :: Bytes.ofChars rest, ?_, ?_⟩
  · rw [Bytes.ofChars_append, ← hquoted]
    simp [Pieces.quoted]
  · rw [← toOption_eq_some_iff, readText_pieces, hstring]
    rfl

theorem undoes_text (expected s : String) : Undoes (decodeText expected) (.text s) s := by
  intro rest _
  obtain ⟨tail, hquoted, hread⟩ := readText_quoted s rest
  change decodeText expected (Bytes.ofChars (quotedChars s ++ rest)) = _
  rw [hquoted, decodeText, skipBlanks_cons (by decide)]
  exact hread

/-- **A finite double is undone** if it is printed with few digits. -/
theorem undoes_real (expected : String) {x : Double} (hfinite : x.isFinite = true)
    (hordinary : (real x).IsOrdinary) : Undoes (decodeReal expected) (.real x) x := by
  intro rest hrest
  obtain ⟨n, hbytes, hexact, hshort⟩ := exists_numeral_doubleText hfinite
  have hread : n.read? = some (real x) := hexact ▸ (hshort hordinary).readsNearest.read?_eq
  have hscalar : readScalar (n.bytes ++ Bytes.ofChars rest) = .ok (real x, Bytes.ofChars rest) := by
    rw [← toOption_eq_some_iff, readScalar_number n hrest, if_pos (by rw [hread]; rfl),
      Numeral.read_eq hread]
  have htext : Bytes.ofChars (compactThen (.real x) rest) = n.bytes ++ Bytes.ofChars rest := by
    change Bytes.ofChars (realChars x ++ rest) = _
    rw [realChars, if_pos hfinite, Bytes.ofChars_append, hbytes]
  obtain ⟨b, tail, hcons, hstarts, hblank, -⟩ := exists_numeral_eq_cons n
  rw [htext]
  rw [hcons, List.cons_append] at hscalar ⊢
  rw [decodeReal, skipBlanks_cons hblank]
  simp only [hstarts, if_true, hscalar]

/-! ### Lists -/

section

variable {item : Decoder α} {f : α → Json} {as : List α} (h : ∀ a ∈ as, Undoes item (f a) a)

theorem ends_compactItems (items : List Json) (rest : List Char) :
    Ends (Bytes.ofChars (compactItems false items (']' :: rest))) := by
  cases items with
  | nil => exact ends_cons (b := 0x5d) (by decide) _
  | cons v items => exact ends_cons (b := 0x2c) (by decide) _

theorem firstItem_compactItems (v : Json) (items : List Json) (rest : List Char) :
    firstItem (Bytes.ofChars (compactItems true (v :: items) rest)) =
      .ok (.inl (Bytes.ofChars (compactItems true (v :: items) rest))) := by
  obtain ⟨b, tail, hcons, hblank, hlist⟩ :=
    exists_compactThen_eq_cons v (compactItems false items rest)
  change firstItem (Bytes.ofChars (compactThen v (compactItems false items rest))) =
    .ok (.inl (Bytes.ofChars (compactThen v (compactItems false items rest))))
  rw [hcons, firstItem, skipBlanks_cons hblank]
  simp [hlist]

theorem betweenItems_compactItems (v : Json) (items : List Json) (rest : List Char) :
    betweenItems (Bytes.ofChars (compactItems false (v :: items) rest)) =
      .ok (.inl (Bytes.ofChars (compactItems true (v :: items) rest))) := by
  obtain ⟨b, tail, hcons, hblank, hlist⟩ :=
    exists_compactThen_eq_cons v (compactItems false items rest)
  change betweenItems (0x2c :: Bytes.ofChars (compactThen v (compactItems false items rest))) =
    .ok (.inl (Bytes.ofChars (compactThen v (compactItems false items rest))))
  rw [hcons, betweenItems, skipBlanks_cons (by decide)]
  simp only
  rw [skipBlanks_cons hblank]
  simp [hlist]

theorem length_le_compactItems (first : Bool) (items : List Json) (rest : List Char) :
    items.length ≤ (Bytes.ofChars (compactItems first items rest)).length := by
  induction items generalizing first with
  | nil => exact Nat.zero_le _
  | cons v items ih =>
    have hrest := ih false
    have hlt := length_lt_compactThen v (compactItems false items rest)
    rw [compactItems, List.length_cons]
    cases first with
    | true => exact Nat.lt_of_le_of_lt hrest hlt
    | false =>
      refine Nat.le_trans (Nat.lt_of_le_of_lt hrest hlt) ?_
      simp

include h

/-- The items of a list are undone one after the other. -/
theorem decodeItems_compactItems {a : α} (ha : Undoes item (f a) a) {fuel : Nat}
    (hfuel : as.length < fuel) (read : List α) (rest : List Char) :
    decodeItems item fuel read (Bytes.ofChars (compactItems true (f a :: as.map f) (']' :: rest))) =
      .ok (read.reverse ++ a :: as, Bytes.ofChars rest) := by
  -- the first item is kept apart, since a comma stands before all others
  induction as generalizing a fuel read with
  | nil =>
    obtain ⟨fuel, rfl⟩ := Nat.exists_eq_succ_of_ne_zero (Nat.ne_of_gt hfuel)
    have hbetween : betweenItems (Bytes.ofChars (']' :: rest)) = .ok (.inr (Bytes.ofChars rest)) :=
      betweenItems_end .none _
    have hitem := ha _ (ends_compactItems [] rest)
    change decodeItems item (fuel + 1) read (Bytes.ofChars (compactThen (f a) (']' :: rest))) = _
    rw [compactItems] at hitem
    rw [decodeItems, hitem]
    simp only [hbetween, List.reverse_cons]
  | cons b as ih =>
    obtain ⟨fuel, rfl⟩ := Nat.exists_eq_succ_of_ne_zero (Nat.ne_of_gt (Nat.zero_lt_of_lt hfuel))
    obtain ⟨hb, has⟩ := List.forall_mem_cons.mp h
    have hitem := ha _ (ends_compactItems (f b :: as.map f) rest)
    have hrest := ih has hb (Nat.lt_of_succ_lt_succ hfuel) (a :: read)
    rw [List.map_cons, compactItems]
    change decodeItems item (fuel + 1) read
      (Bytes.ofChars (compactThen (f a) (compactItems false (f b :: as.map f) (']' :: rest)))) = _
    rw [decodeItems, hitem]
    simp only [betweenItems_compactItems, hrest, List.reverse_cons, List.append_assoc,
      List.singleton_append]

/-- **A list is undone** if its items are. -/
theorem undoes_list (expected : String) :
    Undoes (decodeList item expected) (.list (as.map f)) as := by
  intro rest _
  change decodeList item expected
    (0x5b :: Bytes.ofChars (compactItems true (as.map f) (']' :: rest))) = _
  rw [decodeList, skipBlanks_cons (by decide)]
  simp only
  cases as with
  | nil =>
    have hfirst : firstItem (Bytes.ofChars (']' :: rest)) = .ok (.inr (Bytes.ofChars rest)) :=
      firstItem_end .none _
    simp only [List.map_nil, compactItems, hfirst]
  | cons a as =>
    obtain ⟨ha, has⟩ := List.forall_mem_cons.mp h
    have hlength := length_le_compactItems true (f a :: as.map f) (']' :: rest)
    rw [List.length_cons, List.length_map] at hlength
    rw [List.map_cons, firstItem_compactItems]
    exact decodeItems_compactItems has ha (by omega) [] rest

end

/-! ### Records -/

theorem ends_compactMembers (members : List (String × Json)) (rest : List Char) :
    Ends (Bytes.ofChars (compactMembers false members ('\x7d' :: rest))) := by
  cases members with
  | nil => exact ends_cons (b := 0x7d) (by decide) _
  | cons m members => exact ends_cons (b := 0x2c) (by decide) _

theorem length_le_compactMembers (first : Bool) (members : List (String × Json))
    (rest : List Char) :
    members.length ≤ (Bytes.ofChars (compactMembers first members rest)).length := by
  induction members generalizing first with
  | nil => exact Nat.zero_le _
  | cons m members ih =>
    obtain ⟨key, v⟩ := m
    have hrest := ih false
    have hlt := length_lt_compactThen v (compactMembers false members rest)
    have hlast : members.length <
        (Bytes.ofChars (compactThen v (compactMembers false members rest))).length :=
      Nat.lt_of_le_of_lt hrest hlt
    rw [compactMembers, List.length_cons]
    cases first <;> simp <;> omega

theorem firstMember_compactMembers (m : String × Json) (members : List (String × Json))
    (rest : List Char) :
    firstMember (Bytes.ofChars (compactMembers true (m :: members) rest)) =
      .ok (.inl (Bytes.ofChars (compactMembers true (m :: members) rest))) :=
  firstMember_member .none .none _

theorem betweenMembers_compactMembers (m : String × Json) (members : List (String × Json))
    (rest : List Char) :
    betweenMembers (Bytes.ofChars (compactMembers false (m :: members) rest)) =
      .ok (.inl (Bytes.ofChars (compactMembers true (m :: members) rest))) :=
  betweenMembers_member .none .none _

namespace Record

/-- **Members fill the fields of a state** one after the other: each is a field that the state does
not hold yet, and undoing it leads to the next state. -/
inductive Fills (r : Record σ α) : σ → List (String × Json) → σ → Prop
  | nil (state : σ) : Fills r state [] state
  | cons {state next last : σ} {key : String} {v : Json} {members : List (String × Json)}
    (field : Field σ) (hfield : (r.fields.find? fun field => field.name == key) = some field)
    (hfree : field.given state = false) (hread : Undoes (field.read state) v next)
    (hmembers : Fills r next members last) : Fills r state ((key, v) :: members) last

variable {r : Record σ α} {state next last : σ} {members : List (String × Json)} {a : α}

/-- A member fills a field whose reading step puts what it reads into the state. -/
theorem Fills.store {decode : Decoder β} {v : Json} {b : β} (h : Undoes decode v b) {key : String}
    (field : Field σ) (put : σ → β → σ)
    (hread : ∀ d, field.read d =
      fun bytes => decode bytes >>= fun read => .ok (put d read.1, read.2))
    (hfield : (r.fields.find? fun field => field.name == key) = some field)
    (hfree : field.given state = false) (hmembers : r.Fills (put state b) members last) :
    r.Fills state ((key, v) :: members) last := by
  refine .cons field hfield hfree (fun rest hrest => ?_) hmembers
  rw [hread]
  simp only [h rest hrest, bind, Except.bind]

/-- A member that is a free field is read into the state. -/
theorem readMember_eq {key : String} {v : Json} {field : Field σ}
    (hfield : (r.fields.find? fun field => field.name == key) = some field)
    (hfree : field.given state = false) (hread : Undoes (field.read state) v next)
    {rest : List Char} (hrest : Ends (Bytes.ofChars rest)) :
    r.readMember state key (Bytes.ofChars (':' :: compactThen v rest)) =
      .ok (next, Bytes.ofChars rest) := by
  have hcolon : readColon (Bytes.ofChars (':' :: compactThen v rest)) =
      .ok (Bytes.ofChars (compactThen v rest)) := readColon_blanks .none _
  rw [readMember, hfield]
  simp only [hfree, Bool.false_eq_true, if_false, hcolon, bind, Except.bind]
  exact hread rest hrest

/-- **One member** that is a free field is read, and then what stands behind it. -/
theorem decodeMembers_member {key : String} {v : Json} {field : Field σ}
    (hfield : (r.fields.find? fun field => field.name == key) = some field)
    (hfree : field.given state = false) (hread : Undoes (field.read state) v next) (fuel : Nat)
    {rest : List Char} (hrest : Ends (Bytes.ofChars rest)) {between : Bytes ⊕ Bytes}
    (hbetween : betweenMembers (Bytes.ofChars rest) = .ok between) :
    r.decodeMembers (fuel + 1) state
        (Bytes.ofChars (quotedChars key ++ ':' :: compactThen v rest)) =
      between.elim (r.decodeMembers fuel next) (r.ended next) := by
  obtain ⟨tail, hquoted, htext⟩ := readText_quoted key (':' :: compactThen v rest)
  rw [hquoted, decodeMembers, htext]
  simp only [readMember_eq hfield hfree hread hrest, hbetween]
  cases between <;> rfl

/-- **Members that fill the fields** are read up to the brace. -/
theorem decodeMembers_compactMembers {m : String × Json} (h : r.Fills state (m :: members) last)
    (hlast : r.finish last = .ok a) {fuel : Nat} (hfuel : members.length < fuel)
    (rest : List Char) :
    r.decodeMembers fuel state
        (Bytes.ofChars (compactMembers true (m :: members) ('\x7d' :: rest))) =
      .ok (a, Bytes.ofChars rest) := by
  induction members generalizing m state fuel with
  | nil =>
    obtain ⟨fuel, rfl⟩ := Nat.exists_eq_succ_of_ne_zero (Nat.ne_of_gt hfuel)
    cases h with
    | cons field hfield hfree hread hmembers =>
      cases hmembers
      have hbetween : betweenMembers (Bytes.ofChars ('\x7d' :: rest)) =
          .ok (.inr (Bytes.ofChars rest)) := betweenMembers_end .none _
      refine (decodeMembers_member hfield hfree hread fuel (ends_compactMembers [] rest)
        hbetween).trans ?_
      rw [Sum.elim_inr, ended, hlast]
  | cons m' members ih =>
    obtain ⟨fuel, rfl⟩ := Nat.exists_eq_succ_of_ne_zero (Nat.ne_of_gt (Nat.zero_lt_of_lt hfuel))
    cases h with
    | cons field hfield hfree hread hmembers =>
      refine (decodeMembers_member hfield hfree hread fuel
        (ends_compactMembers (m' :: members) rest)
        (betweenMembers_compactMembers m' members _)).trans ?_
      rw [Sum.elim_inl]
      exact ih hmembers (Nat.lt_of_succ_lt_succ hfuel)

/-- **A record is undone** if its members fill the fields, and the last state has all of them. -/
theorem undoes (last : σ) (h : r.Fills r.start members last) (hlast : r.finish last = .ok a) :
    Undoes r.decode (.object members) a := by
  intro rest _
  change r.decode (0x7b :: Bytes.ofChars (compactMembers true members ('\x7d' :: rest))) = _
  rw [decode, skipBlanks_cons (by decide)]
  simp only
  cases members with
  | nil =>
    have hfirst : firstMember (Bytes.ofChars ('\x7d' :: rest)) = .ok (.inr (Bytes.ofChars rest)) :=
      firstMember_end .none _
    cases h
    simp only [compactMembers, hfirst, ended, hlast]
  | cons m members =>
    have hlength := length_le_compactMembers true (m :: members) ('\x7d' :: rest)
    rw [List.length_cons] at hlength
    rw [firstMember_compactMembers]
    exact decodeMembers_compactMembers h hlast (by omega) rest

end Record

end Json

end HttpLoad
