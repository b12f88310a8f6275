import HttpLoad.Proofs.Json.Written

/-!
# Written values are read

The reader makes of a written value what the tree stands for, or refuses it, if it nests too deep or
holds a token that is not readable. The induction is on the tree: a list or an object is read if
what it holds is, with two steps of fuel to a byte.

## Main definitions

* `Json.Ends`: bytes that continue no numeral
* `Json.Reads`: a written value is read as what it stands for

## Main results

* `Json.readItems_written`, `Json.readMembers_written`: items and members are read one by one
* `Json.readWithin_written`: every written value is read as what it stands for
-/

namespace HttpLoad

namespace Json

/-- The number that the reader makes of a numeral, if it makes any. -/
def Numeral.read (n : Numeral) : Json := n.read?.getD .null

theorem Numeral.read_eq {n : Numeral} {v : Json} (h : n.read? = some v) : n.read = v := by
  rw [Numeral.read, h, Option.getD_some]

/-! ## Blanks and what follows -/

/-- These bytes continue no numeral. -/
def Ends (rest : Bytes) : Prop :=
  ∀ b ∈ rest.head?, isDigit b = false ∧ b ≠ 0x2e ∧ b ≠ 0x65 ∧ b ≠ 0x45

theorem Ends.endsBefore {rest : Bytes} (h : Ends rest) (n : Numeral) : n.EndsBefore rest :=
  ⟨fun b hb => (h b hb).1, fun _ b hb => ⟨(h b hb).2.2.1, (h b hb).2.2.2, fun _ => (h b hb).2.1⟩⟩

theorem ends_nil : Ends [] := fun _ h => absurd h (by simp)

theorem ends_cons {b : UInt8} (hb : isDigit b = false ∧ b ≠ 0x2e ∧ b ≠ 0x65 ∧ b ≠ 0x45)
    (rest : Bytes) : Ends (b :: rest) := by
  rintro c ⟨⟩
  exact hb

theorem ends_blanks (gap : Blanks) {rest : Bytes} (h : Ends rest) : Ends (gap.bytes ++ rest) := by
  obtain ⟨bytes, hblank⟩ := gap
  cases bytes with
  | nil => exact h
  | cons b bytes =>
    have hb : isBlank b = true := hblank b List.mem_cons_self
    refine ends_cons ?_ _
    simp only [isBlank, Bool.or_eq_true, beq_iff_eq] at hb
    rcases hb with ((rfl | rfl) | rfl) | rfl <;> decide

theorem skipBlanks_blanks (gap : Blanks) (rest : Bytes) :
    skipBlanks (gap.bytes ++ rest) = skipBlanks rest :=
  List.dropWhile_append_of_pos gap.all_blank

theorem skipBlanks_cons {b : UInt8} (hb : isBlank b = false) (rest : Bytes) :
    skipBlanks (b :: rest) = b :: rest := by
  simp [skipBlanks, hb]

theorem not_isBlank_of_isDigit {b : UInt8} (hb : isDigit b = true) : isBlank b = false := by
  have hne := @ne_of_isDigit b
  simp only [isBlank, Bool.or_eq_false_iff, beq_eq_false_iff_ne]
  exact ⟨⟨⟨hne hb (by decide), hne hb (by decide)⟩, hne hb (by decide)⟩, hne hb (by decide)⟩

/-- A written value begins with a byte that is neither blank nor closes a bracket. -/
theorem exists_bytes_eq_cons (w : Written) :
    ∃ b tail, w.bytes = b :: tail ∧ isBlank b = false ∧ b ≠ 0x5d ∧ b ≠ 0x7d := by
  cases w with
  | null => exact ⟨_, _, rfl, by decide⟩
  | bool b => cases b <;> exact ⟨_, _, rfl, by decide⟩
  | number n =>
    obtain ⟨d, tail, hunsigned, hd⟩ := n.exists_unsigned_eq_cons
    rw [Written.bytes, Numeral.bytes, hunsigned]
    cases n.negative with
    | true => exact ⟨_, _, rfl, by decide⟩
    | false => exact ⟨d, tail, rfl, not_isBlank_of_isDigit hd, ne_of_isDigit hd (by decide),
        ne_of_isDigit hd (by decide)⟩
  | text ps => exact ⟨_, _, rfl, by decide⟩
  | list gap items => exact ⟨_, _, rfl, by decide⟩
  | object gap members => exact ⟨_, _, rfl, by decide⟩

/-! ## Tokens -/

theorem readWord_append (ws rest : Bytes) : readWord ws (ws ++ rest) = .ok rest := by
  induction ws with
  | nil => rfl
  | cons w ws ih => rw [List.cons_append, readWord, if_pos rfl, ih]

/-- A word is read as the value it stands for. -/
theorem readName_append (name : String) (v : Json) (rest : Bytes) :
    readName name v (Bytes.ofString name ++ rest) = .ok (v, rest) := by
  rw [readName, readWord_append]
  rfl

theorem map_eq_ite {α β : Type} (x : Option α) (f : α → β) (a : α) :
    x.map f = if x.isSome then some (f (x.getD a)) else none := by
  cases x <;> rfl

theorem readScalar_number (n : Numeral) {rest : Bytes} (hrest : Ends rest) :
    (readScalar (n.bytes ++ rest)).toOption =
      if n.read?.isSome then some (n.read, rest) else none := by
  have hscalar : readScalar (n.bytes ++ rest) = readNumber n.negative (n.unsigned ++ rest) := by
    obtain ⟨d, tail, hunsigned, hd⟩ := n.exists_unsigned_eq_cons
    rw [Numeral.bytes, hunsigned]
    cases n.negative with
    | true => rfl
    | false =>
      have hne := @ne_of_isDigit d
      change readScalar (d :: (tail ++ rest)) = readNumber false (d :: (tail ++ rest))
      rw [readScalar, if_neg (hne hd (by decide)), if_neg (hne hd (by decide)),
        if_neg (hne hd (by decide)), if_neg (hne hd (by decide)), if_pos hd]
  rw [hscalar, readNumber_numeral n (hrest.endsBefore n)]
  exact map_eq_ite n.read? _ .null

theorem readScalar_text (ps : Pieces) (rest : Bytes) :
    (readScalar (ps.quoted ++ rest)).toOption =
      if ps.string?.isSome then some (.text ps.string, rest) else none := by
  have hscalar : (readScalar (ps.quoted ++ rest)).toOption =
      (readText (ps.bytes ++ 0x22 :: rest)).toOption.map fun p => (Json.text p.1, p.2) := by
    rw [Pieces.quoted, List.cons_append, List.append_assoc, List.singleton_append]
    change (readText (ps.bytes ++ 0x22 :: rest) >>= fun p =>
      (.ok (text p.1, p.2) : Except Fault (Json × Bytes))).toOption = _
    cases readText (ps.bytes ++ 0x22 :: rest) <;> rfl
  rw [hscalar, readText_pieces, Option.map_map]
  exact map_eq_ite ps.string? _ ""

/-! ## Between items and members -/

section

variable (gap before : Blanks) (w : Written) (rest : Bytes)

theorem skipBlanks_written :
    skipBlanks (gap.bytes ++ (w.bytes ++ rest)) = w.bytes ++ rest := by
  obtain ⟨b, tail, hbytes, hblank, -⟩ := exists_bytes_eq_cons w
  rw [skipBlanks_blanks, hbytes, List.cons_append, skipBlanks_cons hblank]

theorem firstItem_end : firstItem (gap.bytes ++ 0x5d :: rest) = .ok (.inr rest) := by
  rw [firstItem, skipBlanks_blanks, skipBlanks_cons (by decide)]
  rfl

theorem firstItem_item : firstItem (gap.bytes ++ (before.bytes ++ (w.bytes ++ rest))) =
    .ok (.inl (w.bytes ++ rest)) := by
  rw [firstItem, skipBlanks_blanks, skipBlanks_written]
  obtain ⟨b, tail, hbytes, -, hlist, -⟩ := exists_bytes_eq_cons w
  rw [hbytes]
  simp [hlist]

theorem betweenItems_end : betweenItems (gap.bytes ++ 0x5d :: rest) = .ok (.inr rest) := by
  rw [betweenItems, skipBlanks_blanks, skipBlanks_cons (by decide)]
  rfl

theorem betweenItems_item :
    betweenItems (gap.bytes ++ 0x2c :: (before.bytes ++ (w.bytes ++ rest))) =
      .ok (.inl (w.bytes ++ rest)) := by
  rw [betweenItems, skipBlanks_blanks, skipBlanks_cons (by decide)]
  simp only
  rw [skipBlanks_written]
  obtain ⟨b, tail, hbytes, -, hlist, -⟩ := exists_bytes_eq_cons w
  rw [hbytes]
  simp [hlist]

theorem firstMember_end : firstMember (gap.bytes ++ 0x7d :: rest) = .ok (.inr rest) := by
  rw [firstMember, skipBlanks_blanks, skipBlanks_cons (by decide)]
  rfl

theorem firstMember_member : firstMember (gap.bytes ++ (before.bytes ++ 0x22 :: rest)) =
    .ok (.inl (0x22 :: rest)) := by
  rw [firstMember, skipBlanks_blanks, skipBlanks_blanks, skipBlanks_cons (by decide)]
  simp

theorem betweenMembers_end : betweenMembers (gap.bytes ++ 0x7d :: rest) = .ok (.inr rest) := by
  rw [betweenMembers, skipBlanks_blanks, skipBlanks_cons (by decide)]
  rfl

theorem betweenMembers_member :
    betweenMembers (gap.bytes ++ 0x2c :: (before.bytes ++ 0x22 :: rest)) =
      .ok (.inl (0x22 :: rest)) := by
  rw [betweenMembers, skipBlanks_blanks, skipBlanks_cons (by decide)]
  simp only
  rw [skipBlanks_blanks, skipBlanks_cons (by decide)]
  simp

theorem readColon_blanks : readColon (gap.bytes ++ 0x3a :: rest) = .ok rest := by
  rw [readColon, skipBlanks_blanks, skipBlanks_cons (by decide)]
  rfl

/-- A key and its colon are read as the text that the key stands for. -/
theorem readKey_quoted (ps : Pieces) :
    (readKey (ps.quoted ++ (gap.bytes ++ 0x3a :: rest))).toOption =
      ps.string?.map fun key => (key, rest) := by
  have htext := readText_pieces ps (gap.bytes ++ 0x3a :: rest)
  rw [Pieces.quoted, List.cons_append, List.append_assoc, List.singleton_append]
  cases hread : readText (ps.bytes ++ 0x22 :: (gap.bytes ++ 0x3a :: rest)) with
  | error fault =>
    rw [hread] at htext
    rw [Option.map_eq_none_iff.mp htext.symm, readKey, hread]
    rfl
  | ok result =>
    rw [hread] at htext
    obtain ⟨key, hkey, rfl⟩ := Option.map_eq_some_iff.mp htext.symm
    rw [hkey, readKey, hread]
    simp only [bind, Except.bind]
    rw [readColon_blanks]
    rfl

end

/-! ## Reading values -/

section

variable (fuel bound : Nat) (gap : Blanks)

theorem readWithin_scalar {b : UInt8} (hblank : isBlank b = false) (hlist : b ≠ 0x5b)
    (hobject : b ≠ 0x7b) (tail : Bytes) :
    readWithin (fuel + 1) bound (gap.bytes ++ b :: tail) = readScalar (b :: tail) := by
  rw [readWithin, skipBlanks_blanks, skipBlanks_cons hblank]
  simp [hlist, hobject]

theorem readWithin_list_zero (tail : Bytes) :
    (readWithin (fuel + 1) 0 (gap.bytes ++ 0x5b :: tail)).toOption = none := by
  rw [readWithin, skipBlanks_blanks, skipBlanks_cons (by decide)]
  rfl

theorem readWithin_list_end {tail rest : Bytes} (h : firstItem tail = .ok (.inr rest)) :
    readWithin (fuel + 1) (bound + 1) (gap.bytes ++ 0x5b :: tail) = .ok (.list [], rest) := by
  rw [readWithin, skipBlanks_blanks, skipBlanks_cons (by decide)]
  simp [h]

theorem readWithin_list_item {tail rest : Bytes} (h : firstItem tail = .ok (.inl rest)) :
    readWithin (fuel + 1) (bound + 1) (gap.bytes ++ 0x5b :: tail) =
      readItems fuel bound [] rest := by
  rw [readWithin, skipBlanks_blanks, skipBlanks_cons (by decide)]
  simp [h]

theorem readWithin_object_zero (tail : Bytes) :
    (readWithin (fuel + 1) 0 (gap.bytes ++ 0x7b :: tail)).toOption = none := by
  rw [readWithin, skipBlanks_blanks, skipBlanks_cons (by decide)]
  rfl

theorem readWithin_object_end {tail rest : Bytes} (h : firstMember tail = .ok (.inr rest)) :
    readWithin (fuel + 1) (bound + 1) (gap.bytes ++ 0x7b :: tail) = .ok (.object [], rest) := by
  rw [readWithin, skipBlanks_blanks, skipBlanks_cons (by decide)]
  simp [h]

theorem readWithin_object_member {tail rest : Bytes} (h : firstMember tail = .ok (.inl rest)) :
    readWithin (fuel + 1) (bound + 1) (gap.bytes ++ 0x7b :: tail) =
      readMembers fuel bound [] rest := by
  rw [readWithin, skipBlanks_blanks, skipBlanks_cons (by decide)]
  simp [h]

variable {fuel bound} {bytes : Bytes}

theorem readItems_none (read : List Json) (h : (readWithin fuel bound bytes).toOption = none) :
    (readItems (fuel + 1) bound read bytes).toOption = none := by
  rw [readItems]
  cases hread : readWithin fuel bound bytes with
  | error fault => rfl
  | ok result => exact absurd h (by rw [hread]; simp [Except.toOption])

theorem readMembers_key_none (read : List (String × Json)) (h : (readKey bytes).toOption = none) :
    (readMembers (fuel + 1) bound read bytes).toOption = none := by
  rw [readMembers]
  cases hkey : readKey bytes with
  | error fault => rfl
  | ok result => exact absurd h (by rw [hkey]; simp [Except.toOption])

variable {key : String} {tail : Bytes}

theorem readMembers_value_none (read : List (String × Json))
    (hkey : readKey bytes = .ok (key, tail)) (h : (readWithin fuel bound tail).toOption = none) :
    (readMembers (fuel + 1) bound read bytes).toOption = none := by
  rw [readMembers, hkey]
  simp only
  cases hread : readWithin fuel bound tail with
  | error fault => rfl
  | ok result => exact absurd h (by rw [hread]; simp [Except.toOption])

end

/-- A written value is read as what it stands for, before anything that continues no numeral. -/
def Reads (w : Written) : Prop :=
  ∀ (fuel bound : Nat) (gap : Blanks) (rest : Bytes), 2 * w.bytes.length ≤ fuel → Ends rest →
    (readWithin fuel bound (gap.bytes ++ (w.bytes ++ rest))).toOption =
      if w.Accepted bound then some (w.value Numeral.read, rest) else none

section

variable {fuel bound : Nat} {x : Spaced Written} (hx : Reads x.item) {tail : Bytes}
  (htail : Ends tail) {between : Bytes ⊕ Bytes}

/-- What the items so far become with what stands behind them: the next item, or the end. -/
def afterItem (fuel bound : Nat) (read : List Json) : Bytes ⊕ Bytes → Option (Json × Bytes)
  | .inl next => (readItems fuel bound read next).toOption
  | .inr rest => some (.list read.reverse, rest)

/-- What the members so far become with what stands behind them: the next member, or the end. -/
def afterMember (fuel bound : Nat) (read : List (String × Json)) :
    Bytes ⊕ Bytes → Option (Json × Bytes)
  | .inl next => (readMembers fuel bound read next).toOption
  | .inr rest => some (.object read, rest)

include hx htail

/-- **One item** is read as what it stands for, and then what stands behind it. -/
theorem readItems_item (hfuel : 2 * x.item.bytes.length ≤ fuel) (read : List Json)
    (hbetween : betweenItems tail = .ok between) :
    (readItems (fuel + 1) bound read (x.item.bytes ++ tail)).toOption =
      if x.item.Accepted bound then
        afterItem fuel bound (x.item.value Numeral.read :: read) between
      else none := by
  have hread := hx fuel bound .none tail hfuel htail
  change (readWithin fuel bound (x.item.bytes ++ tail)).toOption = _ at hread
  by_cases haccepted : x.item.Accepted bound
  · rw [if_pos haccepted, toOption_eq_some_iff] at hread
    rw [if_pos haccepted, readItems, hread]
    simp only [hbetween]
    cases between <;> rfl
  · rw [if_neg haccepted] at hread
    rw [if_neg haccepted]
    exact readItems_none read hread

/-- **One member** is read as what it stands for, and then what stands behind it. -/
theorem readMembers_member (hfuel : 2 * x.item.bytes.length ≤ fuel) (read : List (String × Json))
    (key : Spaced Pieces) (hbetween : betweenMembers tail = .ok between) :
    (readMembers (fuel + 1) bound read (key.item.quoted ++ (key.after.bytes ++ 0x3a ::
        (x.before.bytes ++ (x.item.bytes ++ tail))))).toOption =
      if key.item.string?.isSome ∧ x.item.Accepted bound then
        afterMember fuel bound
          (putMember key.item.string (x.item.value Numeral.read) read) between
      else none := by
  have hkey := readKey_quoted key.after (x.before.bytes ++ (x.item.bytes ++ tail)) key.item
  have hread := hx fuel bound x.before tail hfuel htail
  cases hstring : key.item.string? with
  | none =>
    rw [hstring] at hkey
    rw [if_neg (by simp)]
    exact readMembers_key_none read hkey
  | some name =>
    have hname : key.item.string = name := by rw [Pieces.string, hstring, Option.getD_some]
    rw [hstring, Option.map_some, toOption_eq_some_iff] at hkey
    by_cases haccepted : x.item.Accepted bound
    · rw [if_pos haccepted, toOption_eq_some_iff] at hread
      rw [if_pos ⟨rfl, haccepted⟩, readMembers, hkey, hname]
      simp only [hread, hbetween]
      cases between <;> rfl
    · rw [if_neg haccepted] at hread
      rw [if_neg fun h => haccepted h.2]
      exact readMembers_value_none read hkey hread

end

open Written in
/-- The items of a list are read, if each of them is. -/
theorem readItems_written (fuel bound : Nat) (read : List Json) (x : Spaced Written)
    (items : List (Spaced Written)) (rest : Bytes) (hreads : ∀ i ∈ x :: items, Reads i.item)
    (hfuel : 2 * (x.item.bytes ++ (x.after.bytes ++ itemsBytes false items)).length + 1 ≤ fuel) :
    (readItems fuel bound read
        (x.item.bytes ++ (x.after.bytes ++ (itemsBytes false items ++ 0x5d :: rest)))).toOption =
      if ∀ i ∈ x :: items, i.item.Accepted bound then
        some (.list (read.reverse ++ itemsValue Numeral.read (x :: items)), rest)
      else none := by
  induction items generalizing fuel read x with
  | nil =>
    obtain ⟨fuel, rfl⟩ := Nat.exists_eq_succ_of_ne_zero (show fuel ≠ 0 by omega)
    simp only [List.length_append] at hfuel
    refine (readItems_item (hreads x List.mem_cons_self) (ends_blanks _ (ends_cons (by decide) _))
      (by omega) read (betweenItems_end _ _)).trans ?_
    exact if_congr (by simp) (by simp [afterItem, itemsValue]) rfl
  | cons y items ih =>
    obtain ⟨fuel, rfl⟩ := Nat.exists_eq_succ_of_ne_zero (show fuel ≠ 0 by omega)
    rw [itemsBytes_cons] at hfuel ⊢
    simp only [comma, Bool.false_eq_true, if_false, List.length_append, List.append_assoc,
      List.cons_append, List.nil_append, List.length_cons] at hfuel ⊢
    have hnext := ih fuel (x.item.value Numeral.read :: read) y
      (fun i hi => hreads i (List.mem_cons_of_mem _ hi)) (by simp only [List.length_append]; omega)
    refine (readItems_item (hreads x List.mem_cons_self) (ends_blanks _ (ends_cons (by decide) _))
      (by omega) read (betweenItems_item _ _ _ _)).trans ?_
    by_cases haccepted : x.item.Accepted bound
    · rw [if_pos haccepted]
      refine hnext.trans (if_congr (by simp [haccepted]) ?_ rfl)
      rw [itemsValue_cons _ (x := x), List.reverse_cons, List.append_assoc, List.singleton_append]
    · rw [if_neg haccepted, if_neg fun h => haccepted (h x List.mem_cons_self)]

open Written in
/-- The members of an object are read, if the value of each of them is. -/
theorem readMembers_written (fuel bound : Nat) (read : List (String × Json)) (key : Spaced Pieces)
    (x : Spaced Written) (members : List (Spaced Pieces × Spaced Written)) (rest : Bytes)
    (hreads : ∀ m ∈ (key, x) :: members, Reads m.2.item)
    (hfuel :
      2 * (x.item.bytes ++ (x.after.bytes ++ membersBytes false members)).length + 1 ≤ fuel) :
    (readMembers fuel bound read
        (key.item.quoted ++ (key.after.bytes ++ 0x3a :: (x.before.bytes ++ (x.item.bytes ++
          (x.after.bytes ++ (membersBytes false members ++ 0x7d :: rest))))))).toOption =
      if ∀ m ∈ (key, x) :: members, m.1.item.string?.isSome ∧ m.2.item.Accepted bound then
        some (.object (membersValue Numeral.read read ((key, x) :: members)), rest)
      else none := by
  induction members generalizing fuel read key x with
  | nil =>
    obtain ⟨fuel, rfl⟩ := Nat.exists_eq_succ_of_ne_zero (show fuel ≠ 0 by omega)
    simp only [List.length_append] at hfuel
    refine (readMembers_member (hreads _ List.mem_cons_self)
      (ends_blanks _ (ends_cons (by decide) _)) (by simp only; omega) read key
      (betweenMembers_end _ _)).trans ?_
    exact if_congr (by simp) rfl rfl
  | cons m members ih =>
    obtain ⟨key', y⟩ := m
    obtain ⟨fuel, rfl⟩ := Nat.exists_eq_succ_of_ne_zero (show fuel ≠ 0 by omega)
    rw [membersBytes_cons] at hfuel ⊢
    simp only [comma, keyBytes, Bool.false_eq_true, if_false, List.length_append, List.append_assoc,
      List.cons_append, List.nil_append, List.length_cons] at hfuel ⊢
    have hnext := ih fuel (putMember key.item.string (x.item.value Numeral.read) read) key' y
      (fun m hm => hreads m (List.mem_cons_of_mem _ hm)) (by simp only [List.length_append]; omega)
    refine (readMembers_member (hreads _ List.mem_cons_self)
      (ends_blanks _ (ends_cons (by decide) _)) (by simp only; omega) read key
      (betweenMembers_member _ _ _)).trans ?_
    by_cases haccepted : key.item.string?.isSome ∧ x.item.Accepted bound
    · rw [if_pos haccepted]
      exact hnext.trans (if_congr (by simp [haccepted]) rfl rfl)
    · rw [if_neg haccepted, if_neg fun h => haccepted (h _ List.mem_cons_self)]

theorem Reads.of_readScalar {w : Written} (hhead : ∀ b ∈ w.bytes.head?, b ≠ 0x5b ∧ b ≠ 0x7b)
    (h : ∀ bound rest, Ends rest → (readScalar (w.bytes ++ rest)).toOption =
      if w.Accepted bound then some (w.value Numeral.read, rest) else none) : Reads w := by
  intro fuel bound gap rest hfuel hrest
  have hscalar := h bound rest hrest
  obtain ⟨b, tail, hbytes, hblank, -⟩ := exists_bytes_eq_cons w
  obtain ⟨hlist, hobject⟩ := hhead b (by rw [hbytes]; rfl)
  rw [hbytes] at hfuel hscalar ⊢
  obtain ⟨fuel, rfl⟩ := Nat.exists_eq_succ_of_ne_zero (n := fuel) fun hzero => by
    rw [hzero] at hfuel
    exact absurd hfuel (by simp)
  exact (congrArg _ (readWithin_scalar fuel bound gap hblank hlist hobject _)).trans hscalar

open Written in
theorem reads_list (gap : Blanks) {items : List (Spaced Written)}
    (hitems : ∀ i ∈ items, Reads i.item) : Reads (.list gap items) := by
  intro fuel bound before rest hfuel hrest
  rw [Written.bytes] at hfuel ⊢
  simp only [List.length_cons, List.length_append, List.append_assoc, List.cons_append,
    List.nil_append] at hfuel ⊢
  obtain ⟨fuel, rfl⟩ := Nat.exists_eq_succ_of_ne_zero (show fuel ≠ 0 by omega)
  cases bound with
  | zero =>
    rw [if_neg not_accepted_list_zero]
    exact readWithin_list_zero fuel before _
  | succ bound =>
    rw [if_congr accepted_list rfl rfl]
    cases items with
    | nil =>
      rw [if_pos (by simp)]
      exact congrArg _ (readWithin_list_end fuel bound before (firstItem_end gap rest))
    | cons x items =>
      rw [itemsBytes_cons] at hfuel ⊢
      simp only [comma, if_true, List.nil_append, List.append_assoc, List.length_append]
        at hfuel ⊢
      refine (congrArg _ (readWithin_list_item fuel bound before
        (firstItem_item gap x.before x.item _))).trans ?_
      exact readItems_written fuel bound [] x items rest hitems
        (by simp only [List.length_append]; omega)

open Written in
theorem reads_object (gap : Blanks) {members : List (Spaced Pieces × Spaced Written)}
    (hmembers : ∀ m ∈ members, Reads m.2.item) : Reads (.object gap members) := by
  intro fuel bound before rest hfuel hrest
  rw [Written.bytes] at hfuel ⊢
  simp only [List.length_cons, List.length_append, List.append_assoc, List.cons_append,
    List.nil_append] at hfuel ⊢
  obtain ⟨fuel, rfl⟩ := Nat.exists_eq_succ_of_ne_zero (show fuel ≠ 0 by omega)
  cases bound with
  | zero =>
    rw [if_neg not_accepted_object_zero]
    exact readWithin_object_zero fuel before _
  | succ bound =>
    rw [if_congr accepted_object rfl rfl]
    cases members with
    | nil =>
      rw [if_pos (by simp)]
      exact congrArg _ (readWithin_object_end fuel bound before (firstMember_end gap rest))
    | cons m members =>
      obtain ⟨key, x⟩ := m
      rw [membersBytes_cons] at hfuel ⊢
      simp only [comma, keyBytes, if_true, List.nil_append, List.append_assoc, List.cons_append,
        List.length_append, List.length_cons] at hfuel ⊢
      refine (congrArg _ (readWithin_object_member fuel bound before
        (firstMember_member gap key.before _))).trans ?_
      exact readMembers_written fuel bound [] key x members rest hmembers
        (by simp only [List.length_append]; omega)

/-- **A written value is read as what it stands for**, or refused if it is not accepted. -/
theorem readWithin_written (w : Written) : Reads w := by
  induction w using Written.induction with
  | null =>
    refine .of_readScalar (by rintro b ⟨⟩; decide) fun bound rest _ => ?_
    rw [if_pos (by simp [Written.Accepted, Written.depth, Written.tokens])]
    exact congrArg Except.toOption (readName_append "ull" .null rest)
  | bool b =>
    cases b with
    | true =>
      refine .of_readScalar (by rintro b ⟨⟩; decide) fun bound rest _ => ?_
      rw [if_pos (by simp [Written.Accepted, Written.depth, Written.tokens])]
      exact congrArg Except.toOption (readName_append "rue" (.bool true) rest)
    | false =>
      refine .of_readScalar (by rintro b ⟨⟩; decide) fun bound rest _ => ?_
      rw [if_pos (by simp [Written.Accepted, Written.depth, Written.tokens])]
      exact congrArg Except.toOption (readName_append "alse" (.bool false) rest)
  | number n =>
    refine .of_readScalar ?_ fun bound rest hrest => ?_
    · obtain ⟨d, tail, hunsigned, hd⟩ := n.exists_unsigned_eq_cons
      rw [Written.bytes, Numeral.bytes, hunsigned]
      cases n.negative with
      | true => rintro b ⟨⟩; decide
      | false =>
        rintro b ⟨⟩
        exact ⟨ne_of_isDigit hd (by decide), ne_of_isDigit hd (by decide)⟩
    · rw [Written.bytes, readScalar_number n hrest]
      exact if_congr (by simp [Written.Accepted, Written.depth, Written.tokens, Token.readable])
        rfl rfl
  | text ps =>
    refine .of_readScalar (by rintro b ⟨⟩; decide) fun bound rest _ => ?_
    rw [Written.bytes, readScalar_text]
    exact if_congr (by simp [Written.Accepted, Written.depth, Written.tokens, Token.readable])
      rfl rfl
  | list gap items ih => exact reads_list gap ih
  | object gap members ih => exact reads_object gap ih

end Json

end HttpLoad
