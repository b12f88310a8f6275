import HttpLoad.Proofs.Json.Reading

/-!
# Whole texts

Whatever the reader takes is a written value. So the texts that are read are exactly the written
values between blanks that are accepted, and each is read as what it stands for.

## Main definitions

* `Json.Document`: a written value between blanks, with `Document.bytes`

## Main results

* `Json.written_of_fuel`: whatever is read is written
* `Json.exists_document_of_parse`: whatever is read as a whole text is one
* `Json.Document.parse_bytes`: a whole text is read as what it stands for
-/

namespace HttpLoad

namespace Json

/-! ## Tokens and what stands between them -/

/-- Bytes are blanks and what is left without them. -/
theorem exists_blanks (bytes : Bytes) :
    ∃ (gap : Blanks) (tail : Bytes), bytes = gap.bytes ++ tail ∧ skipBlanks bytes = tail :=
  ⟨⟨bytes.takeWhile isBlank, fun b hb => List.all_eq_true.mp List.all_takeWhile b hb⟩,
    skipBlanks bytes, List.takeWhile_append_dropWhile.symm, rfl⟩

theorem eq_append_of_readWord {ws bytes rest : Bytes} (h : readWord ws bytes = .ok rest) :
    bytes = ws ++ rest := by
  induction ws generalizing bytes with
  | nil => exact Except.ok.inj h
  | cons w ws ih =>
    cases bytes with
    | nil => exact absurd h (by simp [readWord])
    | cons b bytes =>
      rw [readWord] at h
      split at h
      next hb => rw [hb, List.cons_append, ih h]
      next => exact absurd h (by simp)

theorem eq_append_of_readName {name : String} {v : Json} {bytes : Bytes} {result : Json × Bytes}
    (h : readName name v bytes = .ok result) : bytes = Bytes.ofString name ++ result.2 := by
  obtain ⟨rest, hword, hresult⟩ := bind_eq_ok_iff.mp h
  rw [eq_append_of_readWord hword, ← Except.ok.inj hresult]

/-- A value that is read and holds no other is a written one. -/
theorem exists_written_of_readScalar {bytes rest : Bytes} {v : Json}
    (h : readScalar bytes = .ok (v, rest)) : ∃ w : Written, bytes = w.bytes ++ rest := by
  cases bytes with
  | nil => exact absurd h (by simp [readScalar, throw, throwThe, MonadExceptOf.throw])
  | cons b bytes =>
    rw [readScalar] at h
    split_ifs at h with hnull htrue hfalse hminus hdigit hquote
    · exact ⟨.null, by rw [hnull, eq_append_of_readName h]; rfl⟩
    · exact ⟨.bool true, by rw [htrue, eq_append_of_readName h]; rfl⟩
    · exact ⟨.bool false, by rw [hfalse, eq_append_of_readName h]; rfl⟩
    · obtain ⟨n, hnegative, hbytes, -⟩ := exists_numeral_of_readNumber h
      refine ⟨.number n, ?_⟩
      rw [Written.bytes, Numeral.bytes, if_pos hnegative, hminus, hbytes]
      rfl
    · obtain ⟨n, hnegative, hbytes, -⟩ := exists_numeral_of_readNumber h
      refine ⟨.number n, ?_⟩
      rw [Written.bytes, Numeral.bytes, if_neg (by simp [hnegative]), hbytes]
    · obtain ⟨⟨s, tail⟩, htext, hresult⟩ := bind_eq_ok_iff.mp h
      obtain ⟨ps, hbytes, -⟩ := exists_pieces_of_readText htext
      obtain ⟨-, rfl⟩ := Prod.mk.inj (Except.ok.inj hresult)
      refine ⟨.text ps, ?_⟩
      rw [Written.bytes, Pieces.quoted, hquote, hbytes]
      simp

section

variable {bytes rest : Bytes}

theorem exists_of_firstItem_end (h : firstItem bytes = .ok (.inr rest)) :
    ∃ gap : Blanks, bytes = gap.bytes ++ 0x5d :: rest := by
  obtain ⟨gap, tail, rfl, htail⟩ := exists_blanks bytes
  rw [firstItem, htail] at h
  refine ⟨gap, congrArg _ ?_⟩
  split at h <;> simp_all only [Except.ok.injEq, Sum.inr.injEq, reduceCtorEq]

theorem exists_of_firstItem_item (h : firstItem bytes = .ok (.inl rest)) :
    ∃ gap : Blanks, bytes = gap.bytes ++ rest := by
  obtain ⟨gap, tail, rfl, htail⟩ := exists_blanks bytes
  rw [firstItem, htail] at h
  refine ⟨gap, congrArg _ ?_⟩
  split at h <;> simp_all only [Except.ok.injEq, Sum.inl.injEq, reduceCtorEq]

theorem exists_of_firstMember_end (h : firstMember bytes = .ok (.inr rest)) :
    ∃ gap : Blanks, bytes = gap.bytes ++ 0x7d :: rest := by
  obtain ⟨gap, tail, rfl, htail⟩ := exists_blanks bytes
  rw [firstMember, htail] at h
  refine ⟨gap, congrArg _ ?_⟩
  split at h <;> simp_all only [Except.ok.injEq, Sum.inr.injEq, reduceCtorEq]

theorem exists_of_firstMember_member (h : firstMember bytes = .ok (.inl rest)) :
    ∃ gap : Blanks, bytes = gap.bytes ++ rest := by
  obtain ⟨gap, tail, rfl, htail⟩ := exists_blanks bytes
  rw [firstMember, htail] at h
  refine ⟨gap, congrArg _ ?_⟩
  split at h <;> simp_all only [Except.ok.injEq, Sum.inl.injEq, reduceCtorEq]

theorem exists_of_betweenItems_end (h : betweenItems bytes = .ok (.inr rest)) :
    ∃ gap : Blanks, bytes = gap.bytes ++ 0x5d :: rest := by
  obtain ⟨gap, tail, rfl, htail⟩ := exists_blanks bytes
  rw [betweenItems, htail] at h
  refine ⟨gap, congrArg _ ?_⟩
  split at h
  next => split at h <;> exact absurd h (by simp)
  all_goals simp_all only [Except.ok.injEq, Sum.inr.injEq, reduceCtorEq]

theorem exists_of_betweenItems_item (h : betweenItems bytes = .ok (.inl rest)) :
    ∃ gap before : Blanks, bytes = gap.bytes ++ 0x2c :: (before.bytes ++ rest) := by
  obtain ⟨gap, tail, rfl, htail⟩ := exists_blanks bytes
  rw [betweenItems, htail] at h
  clear htail
  split at h
  next tail =>
    obtain ⟨before, tail, rfl, htail⟩ := exists_blanks tail
    rw [htail] at h
    refine ⟨gap, before, congrArg _ (congrArg _ (congrArg _ ?_))⟩
    split at h <;> simp_all only [Except.ok.injEq, Sum.inl.injEq, reduceCtorEq]
  all_goals exact absurd h (by simp)

theorem exists_of_betweenMembers_end (h : betweenMembers bytes = .ok (.inr rest)) :
    ∃ gap : Blanks, bytes = gap.bytes ++ 0x7d :: rest := by
  obtain ⟨gap, tail, rfl, htail⟩ := exists_blanks bytes
  rw [betweenMembers, htail] at h
  refine ⟨gap, congrArg _ ?_⟩
  split at h
  next => split at h <;> exact absurd h (by simp)
  all_goals simp_all only [Except.ok.injEq, Sum.inr.injEq, reduceCtorEq]

theorem exists_of_betweenMembers_member (h : betweenMembers bytes = .ok (.inl rest)) :
    ∃ gap before : Blanks, bytes = gap.bytes ++ 0x2c :: (before.bytes ++ rest) := by
  obtain ⟨gap, tail, rfl, htail⟩ := exists_blanks bytes
  rw [betweenMembers, htail] at h
  clear htail
  split at h
  next tail =>
    obtain ⟨before, tail, rfl, htail⟩ := exists_blanks tail
    rw [htail] at h
    refine ⟨gap, before, congrArg _ (congrArg _ (congrArg _ ?_))⟩
    split at h <;> simp_all only [Except.ok.injEq, Sum.inl.injEq, reduceCtorEq]
  all_goals exact absurd h (by simp)

theorem exists_of_readColon (h : readColon bytes = .ok rest) :
    ∃ gap : Blanks, bytes = gap.bytes ++ 0x3a :: rest := by
  obtain ⟨gap, tail, rfl, htail⟩ := exists_blanks bytes
  rw [readColon, htail] at h
  refine ⟨gap, congrArg _ ?_⟩
  split at h <;> simp_all only [Except.ok.injEq, reduceCtorEq]

/-- A key that is read with its colon is a text token. -/
theorem exists_of_readKey {key : String} (h : readKey bytes = .ok (key, rest)) :
    ∃ (ps : Pieces) (gap : Blanks), bytes = ps.quoted ++ (gap.bytes ++ 0x3a :: rest) := by
  unfold readKey at h
  split at h
  next tail =>
    obtain ⟨⟨s, next⟩, htext, hrest⟩ := bind_eq_ok_iff.mp h
    obtain ⟨ps, rfl, -⟩ := exists_pieces_of_readText htext
    obtain ⟨tail, hcolon, hresult⟩ := bind_eq_ok_iff.mp hrest
    obtain ⟨gap, rfl⟩ := exists_of_readColon hcolon
    obtain ⟨-, rfl⟩ := Prod.mk.inj (Except.ok.inj hresult)
    exact ⟨ps, gap, by simp [Pieces.quoted]⟩
  all_goals exact absurd h (by simp [throw, throwThe, MonadExceptOf.throw])

end

/-! ## Values, items and members -/

/-- Blanks one after another. -/
def Blanks.append (a b : Blanks) : Blanks where
  bytes := a.bytes ++ b.bytes
  all_blank c hc := (List.mem_append.mp hc).elim (a.all_blank c) (b.all_blank c)

open Written

/-- Whatever is read with some fuel is a written value behind blanks. -/
def ValuesWritten (fuel : Nat) : Prop :=
  ∀ {bound : Nat} {bytes rest : Bytes} {v : Json}, readWithin fuel bound bytes = .ok (v, rest) →
    ∃ (gap : Blanks) (w : Written), bytes = gap.bytes ++ (w.bytes ++ rest)

/-- Whatever is read as the items of a list is written items and a bracket. -/
def ItemsWritten (fuel : Nat) : Prop :=
  ∀ {bound : Nat} {read : List Json} {bytes rest : Bytes} {v : Json},
    readItems fuel bound read bytes = .ok (v, rest) →
    ∃ (x : Spaced Written) (items : List (Spaced Written)),
      bytes = itemsBytes true (x :: items) ++ 0x5d :: rest

/-- Whatever is read as the members of an object is written members and a brace. -/
def MembersWritten (fuel : Nat) : Prop :=
  ∀ {bound : Nat} {read : List (String × Json)} {bytes rest : Bytes} {v : Json},
    readMembers fuel bound read bytes = .ok (v, rest) →
    ∃ (key : Spaced Pieces) (x : Spaced Written)
        (members : List (Spaced Pieces × Spaced Written)),
      bytes = membersBytes true ((key, x) :: members) ++ 0x7d :: rest

section

variable {fuel : Nat}

theorem ValuesWritten.succ (hitems : ItemsWritten fuel) (hmembers : MembersWritten fuel) :
    ValuesWritten (fuel + 1) := by
  intro bound bytes rest v h
  obtain ⟨gap, tail, rfl, htail⟩ := exists_blanks bytes
  rw [readWithin, htail] at h
  clear htail
  split at h
  next tail =>
    cases bound with
    | zero => exact absurd h (by simp)
    | succ bound =>
      simp only at h
      split at h
      next => exact absurd h (by simp)
      next hfirst =>
        obtain ⟨-, rfl⟩ := Prod.mk.inj (Except.ok.inj h)
        obtain ⟨inner, rfl⟩ := exists_of_firstItem_end hfirst
        exact ⟨gap, .list inner [], by simp [Written.bytes, itemsBytes]⟩
      next hfirst =>
        obtain ⟨inner, rfl⟩ := exists_of_firstItem_item hfirst
        obtain ⟨x, items, rfl⟩ := hitems h
        exact ⟨gap, .list inner (x :: items), by simp [Written.bytes]⟩
  next tail =>
    cases bound with
    | zero => exact absurd h (by simp)
    | succ bound =>
      simp only at h
      split at h
      next => exact absurd h (by simp)
      next hfirst =>
        obtain ⟨-, rfl⟩ := Prod.mk.inj (Except.ok.inj h)
        obtain ⟨inner, rfl⟩ := exists_of_firstMember_end hfirst
        exact ⟨gap, .object inner [], by simp [Written.bytes, membersBytes]⟩
      next hfirst =>
        obtain ⟨inner, rfl⟩ := exists_of_firstMember_member hfirst
        obtain ⟨key, x, members, rfl⟩ := hmembers h
        exact ⟨gap, .object inner ((key, x) :: members), by simp [Written.bytes]⟩
  next =>
    obtain ⟨w, rfl⟩ := exists_written_of_readScalar h
    exact ⟨gap, w, rfl⟩

theorem ItemsWritten.succ (hvalues : ValuesWritten fuel) (hitems : ItemsWritten fuel) :
    ItemsWritten (fuel + 1) := by
  intro bound read bytes rest v h
  rw [readItems] at h
  split at h
  next => exact absurd h (by simp)
  next item tail hvalue =>
    obtain ⟨before, w, rfl⟩ := hvalues hvalue
    split at h
    next => exact absurd h (by simp)
    next hbetween =>
      obtain ⟨-, rfl⟩ := Prod.mk.inj (Except.ok.inj h)
      obtain ⟨after, rfl⟩ := exists_of_betweenItems_end hbetween
      exact ⟨⟨before, w, after⟩, [], by simp [itemsBytes, comma]⟩
    next hbetween =>
      obtain ⟨after, before', rfl⟩ := exists_of_betweenItems_item hbetween
      obtain ⟨x, items, rfl⟩ := hitems h
      refine ⟨⟨before, w, after⟩, ⟨before'.append x.before, x.item, x.after⟩ :: items, ?_⟩
      simp [comma, Blanks.append]

theorem MembersWritten.succ (hvalues : ValuesWritten fuel) (hmembers : MembersWritten fuel) :
    MembersWritten (fuel + 1) := by
  intro bound read bytes rest v h
  rw [readMembers] at h
  split at h
  next => exact absurd h (by simp)
  next key tail hkey =>
    obtain ⟨ps, gap, rfl⟩ := exists_of_readKey hkey
    split at h
    next => exact absurd h (by simp)
    next hvalue =>
      obtain ⟨before, w, rfl⟩ := hvalues hvalue
      split at h
      next => exact absurd h (by simp)
      next hbetween =>
        obtain ⟨-, rfl⟩ := Prod.mk.inj (Except.ok.inj h)
        obtain ⟨after, rfl⟩ := exists_of_betweenMembers_end hbetween
        exact ⟨⟨.none, ps, gap⟩, ⟨before, w, after⟩, [],
          by simp [membersBytes, comma, keyBytes, Blanks.none]⟩
      next hbetween =>
        obtain ⟨after, before', rfl⟩ := exists_of_betweenMembers_member hbetween
        obtain ⟨key', x, members, rfl⟩ := hmembers h
        refine ⟨⟨.none, ps, gap⟩, ⟨before, w, after⟩,
          (⟨before'.append key'.before, key'.item, key'.after⟩, x) :: members, ?_⟩
        simp [comma, keyBytes, Blanks.append, Blanks.none]

/-- **Whatever is read is written**, with any fuel. -/
theorem written_of_fuel (fuel : Nat) :
    ValuesWritten fuel ∧ ItemsWritten fuel ∧ MembersWritten fuel := by
  -- the three readers call one another with one step of fuel less, so they go together
  induction fuel with
  | zero =>
    refine ⟨fun h => ?_, fun h => ?_, fun h => ?_⟩
    · exact absurd h (by simp [readWithin])
    · exact absurd h (by simp [readItems])
    · exact absurd h (by simp [readMembers])
  | succ fuel ih =>
    obtain ⟨hvalues, hitems, hmembers⟩ := ih
    exact ⟨ValuesWritten.succ hitems hmembers, ItemsWritten.succ hvalues hitems,
      MembersWritten.succ hvalues hmembers⟩

end

/-! ## Whole texts -/

theorem readEnd_blanks (gap : Blanks) : readEnd gap.bytes = .ok () := by
  have hskip := skipBlanks_blanks gap []
  rw [List.append_nil] at hskip
  rw [readEnd, hskip]
  rfl

/-- Only blanks are taken for the end. -/
theorem exists_of_readEnd {bytes : Bytes} (h : readEnd bytes = .ok ()) :
    ∃ gap : Blanks, bytes = gap.bytes := by
  obtain ⟨gap, tail, rfl, htail⟩ := exists_blanks bytes
  rw [readEnd, htail] at h
  split at h
  next => exact ⟨gap, List.append_nil _⟩
  next => exact absurd h (by simp)

/-- A whole text: a written value between blanks. -/
abbrev Document := Spaced Written

namespace Document

/-- **The bytes of a whole text.** -/
def bytes (doc : Document) : Bytes := doc.before.bytes ++ (doc.item.bytes ++ doc.after.bytes)

/-- **A whole text is read as what it stands for**, or refused if it is not accepted. -/
theorem parse_bytes (doc : Document) : (parse doc.bytes).toOption =
    if doc.item.Accepted depthMax then some (doc.item.value Numeral.read) else none := by
  have hends : Ends doc.after.bytes := by
    have h := ends_blanks doc.after ends_nil
    rwa [List.append_nil] at h
  have hread := readWithin_written doc.item (2 * doc.bytes.length + 2) depthMax doc.before
    doc.after.bytes (by simp only [bytes, List.length_append]; omega) hends
  change (readValue doc.bytes).toOption = _ at hread
  unfold parse
  by_cases haccepted : doc.item.Accepted depthMax
  · rw [if_pos haccepted, toOption_eq_some_iff] at hread
    rw [if_pos haccepted, hread]
    simp only [bind, Except.bind]
    rw [readEnd_blanks]
    rfl
  · rw [if_neg haccepted] at hread
    rw [if_neg haccepted]
    cases hvalue : readValue doc.bytes with
    | error fault => rfl
    | ok result => exact absurd hread (by rw [hvalue]; simp [Except.toOption])

end Document

/-- **Whatever is read as a whole text** is a written value between blanks. -/
theorem exists_document_of_parse {bytes : Bytes} {v : Json} (h : parse bytes = .ok v) :
    ∃ doc : Document, doc.bytes = bytes := by
  obtain ⟨⟨v, rest⟩, hvalue, hrest⟩ := bind_eq_ok_iff.mp h
  obtain ⟨⟨⟩, hend, -⟩ := bind_eq_ok_iff.mp hrest
  obtain ⟨before, w, rfl⟩ := (written_of_fuel _).1 hvalue
  obtain ⟨after, rfl⟩ := exists_of_readEnd hend
  exact ⟨⟨before, w, after⟩, rfl⟩

end Json

end HttpLoad
