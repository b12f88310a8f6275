import HttpLoad.Proofs.Json.Printing
import HttpLoad.Proofs.Json.Skipping

/-!
# A text has one reading

Two written values with the same bytes differ at most in where the blanks between their tokens are
kept: a blank in front of the first item of a list stands behind the bracket or before the item. So
a text of the grammar has one tree up to blanks, and whatever is found in one tree for a text is in
every other one. Passing over tokens and values tells where each of them ends.

## Main definitions

* `Written.bare`: a written value without its blanks

## Main results

* `Json.Numeral.eq_of_bytes`, `Json.Pieces.eq_of_bytes`: tokens are known by their bytes
* `Json.Written.bare_eq_of_bytes`: so are values, up to blanks
* `Json.Document.bare_eq_of_bytes`: and whole texts
-/

namespace HttpLoad

namespace Json

/-! ## Numerals -/

theorem Digits.eq_of_bytes {ds es : Digits} (h : ds.bytes = es.bytes) : ds = es := by
  cases ds
  cases es
  cases h
  rfl

theorem noDigit_nil : NoDigit [] := fun _ h => absurd h (by simp)

/-- Digits before what is no digit are known by the bytes. -/
theorem Digits.eq_of_append {ds es : Digits} {rest rest' : Bytes} (hrest : NoDigit rest)
    (hrest' : NoDigit rest') (h : ds.bytes ++ rest = es.bytes ++ rest') :
    ds = es ∧ rest = rest' := by
  have htake := congrArg (List.takeWhile isDigit) h
  rw [takeWhile_digits ds.all_digits hrest, takeWhile_digits es.all_digits hrest'] at htake
  rw [htake] at h
  exact ⟨Digits.eq_of_bytes htake, List.append_cancel_left h⟩

/-- A sign is no digit. -/
theorem Exponent.signBytes_eq {sign sign' : Option Bool} {ds es : Digits}
    (h : signBytes sign ++ ds.bytes = signBytes sign' ++ es.bytes) :
    sign = sign' ∧ ds.bytes = es.bytes := by
  obtain ⟨d, ds', hds⟩ := List.exists_cons_of_ne_nil ds.nonempty
  obtain ⟨e, es', hes⟩ := List.exists_cons_of_ne_nil es.nonempty
  have hd : isDigit d = true := ds.all_digits d (hds ▸ List.mem_cons_self)
  have he : isDigit e = true := es.all_digits e (hes ▸ List.mem_cons_self)
  have hplus : d ≠ 0x2b ∧ e ≠ 0x2b := ⟨ne_of_isDigit hd (by decide), ne_of_isDigit he (by decide)⟩
  have hminus : d ≠ 0x2d ∧ e ≠ 0x2d := ⟨ne_of_isDigit hd (by decide), ne_of_isDigit he (by decide)⟩
  rw [hds, hes] at h ⊢
  cases sign with
  | none =>
    cases sign' with
    | none => exact ⟨rfl, h⟩
    | some down =>
      cases down with
      | false => exact absurd (List.cons.inj h).1 hplus.1
      | true => exact absurd (List.cons.inj h).1 hminus.1
  | some down =>
    cases sign' with
    | none =>
      cases down with
      | false => exact absurd (List.cons.inj h).1.symm hplus.2
      | true => exact absurd (List.cons.inj h).1.symm hminus.2
    | some down' =>
      have hdown : down = down' := by
        cases down <;> cases down' <;> first | rfl | exact absurd (List.cons.inj h).1 (by decide)
      subst hdown
      exact ⟨rfl, List.append_cancel_left h⟩

theorem exponentBytes_injective {x y : Option Exponent} (h : exponentBytes x = exponentBytes y) :
    x = y := by
  cases x with
  | none =>
    cases y with
    | none => rfl
    | some y => exact absurd h (by simp [exponentBytes, Exponent.bytes])
  | some x =>
    cases y with
    | none => exact absurd h (by simp [exponentBytes, Exponent.bytes])
    | some y =>
      obtain ⟨capital, sign, ds⟩ := x
      obtain ⟨capital', sign', es⟩ := y
      obtain ⟨hmark, htail⟩ := List.cons.inj h
      obtain ⟨hsign, hdigits⟩ := Exponent.signBytes_eq htail
      have hmark : (if capital then 0x45 else 0x65 : UInt8) = if capital' then 0x45 else 0x65 :=
        hmark
      have hcapital : capital = capital' := by
        cases capital <;> cases capital' <;> first | rfl | exact absurd hmark (by decide)
      have hsign : sign = sign' := hsign
      have hds : ds = es := Digits.eq_of_bytes hdigits
      rw [hcapital, hsign, hds]

/-- An exponent part does not begin with a point. -/
theorem exponentBytes_ne_point (x : Option Exponent) (tail : Bytes) :
    exponentBytes x ≠ 0x2e :: tail := by
  cases x with
  | none => simp [exponentBytes]
  | some x =>
    intro h
    have hmark := (List.cons.inj h).1
    cases hcapital : x.capital <;> simp [hcapital] at hmark

theorem noDigit_fractionBytes (fraction : Option Digits) (x : Option Exponent) :
    NoDigit (fractionBytes fraction ++ exponentBytes x) := by
  cases fraction with
  | none =>
    have h := noDigit_exponentBytes x noDigit_nil
    rwa [List.append_nil] at h
  | some ds =>
    rintro b ⟨⟩
    decide

theorem fractionBytes_injective {f g : Option Digits} {x y : Option Exponent}
    (h : fractionBytes f ++ exponentBytes x = fractionBytes g ++ exponentBytes y) :
    f = g ∧ x = y := by
  cases f with
  | none =>
    cases g with
    | none => exact ⟨rfl, exponentBytes_injective h⟩
    | some es => exact absurd h (exponentBytes_ne_point x _)
  | some ds =>
    cases g with
    | none => exact absurd h.symm (exponentBytes_ne_point y _)
    | some es =>
      have hends := fun z => noDigit_fractionBytes none z
      obtain ⟨rfl, hexponent⟩ :=
        Digits.eq_of_append (hends x) (hends y) (List.cons.inj h).2
      exact ⟨rfl, exponentBytes_injective hexponent⟩

/-- **Numerals are known by their bytes.** -/
theorem Numeral.eq_of_bytes {n m : Numeral} (h : n.bytes = m.bytes) : n = m := by
  have hsigned : n.negative = m.negative ∧ n.unsigned = m.unsigned := by
    obtain ⟨d, tail, hn, hd⟩ := n.exists_unsigned_eq_cons
    obtain ⟨e, tail', hm, he⟩ := m.exists_unsigned_eq_cons
    have hminus : d ≠ 0x2d ∧ e ≠ 0x2d :=
      ⟨ne_of_isDigit hd (by decide), ne_of_isDigit he (by decide)⟩
    rw [bytes, bytes, hn, hm] at h
    rw [hn, hm]
    cases hneg : n.negative with
    | false =>
      cases hneg' : m.negative with
      | false => exact ⟨rfl, by simpa [hneg, hneg'] using h⟩
      | true => exact absurd (List.cons.inj (by simpa [hneg, hneg'] using h)).1 hminus.1
    | true =>
      cases hneg' : m.negative with
      | false => exact absurd (List.cons.inj (by simpa [hneg, hneg'] using h)).1.symm hminus.2
      | true => exact ⟨rfl, by simpa [hneg, hneg'] using h⟩
  obtain ⟨hnegative, hunsigned⟩ := hsigned
  obtain ⟨hwhole, hrest⟩ := Digits.eq_of_append (noDigit_fractionBytes n.fraction n.exponent)
    (noDigit_fractionBytes m.fraction m.exponent) hunsigned
  obtain ⟨hfraction, hexponent⟩ := fractionBytes_injective hrest
  cases n
  cases m
  rw [mk.injEq]
  exact ⟨hnegative, hwhole, hfraction, hexponent⟩

/-! ## Texts -/

/-- A piece is known by the bytes that it begins. -/
theorem Piece.eq_of_append {p q : Piece} {rest rest' : Bytes}
    (h : p.bytes ++ rest = q.bytes ++ rest') : p = q ∧ rest = rest' := by
  cases p with
  | plain b hb =>
    cases q with
    | plain b' hb' =>
      obtain ⟨rfl, hrest⟩ := List.cons.inj h
      exact ⟨rfl, hrest⟩
    | short e b' he => exact absurd (List.cons.inj h).1 hb.2.2
    | quad a b' c d n hn => exact absurd (List.cons.inj h).1 hb.2.2
  | short e b he =>
    have hu := ne_u_of_escaped he
    cases q with
    | plain b' hb' => exact absurd (List.cons.inj h).1.symm hb'.2.2
    | short e' b' he' =>
      obtain ⟨rfl, hrest⟩ := List.cons.inj (List.cons.inj h).2
      obtain rfl := Option.some.inj (he.symm.trans he')
      exact ⟨rfl, hrest⟩
    | quad a b' c d n hn => exact absurd (List.cons.inj (List.cons.inj h).2).1 hu
  | quad a b c d n hn =>
    cases q with
    | plain b' hb' => exact absurd (List.cons.inj h).1.symm hb'.2.2
    | short e' b' he' =>
      exact absurd (List.cons.inj (List.cons.inj h).2).1.symm (ne_u_of_escaped he')
    | quad a' b' c' d' n' hn' =>
      simp only [Piece.bytes, List.cons_append, List.nil_append, List.cons.injEq, true_and] at h
      obtain ⟨rfl, rfl, rfl, rfl, hrest⟩ := h
      obtain rfl := Option.some.inj (hn.symm.trans hn')
      exact ⟨rfl, hrest⟩

/-- **Pieces are known by their bytes.** -/
theorem Pieces.eq_of_bytes {ps qs : Pieces} (h : ps.bytes = qs.bytes) : ps = qs := by
  have hne (p : Piece) (tail : Bytes) : p.bytes ++ tail ≠ [] := by
    cases p <;> simp [Piece.bytes]
  induction ps generalizing qs with
  | nil =>
    cases qs with
    | nil => rfl
    | cons q qs => exact absurd h.symm (hne q _)
  | cons p ps ih =>
    cases qs with
    | nil => exact absurd h (hne p _)
    | cons q qs =>
      obtain ⟨rfl, hrest⟩ := Piece.eq_of_append (p := p) (q := q) h
      rw [ih hrest]

/-- A key with its colon is known by the bytes, and so is what follows. -/
theorem eq_of_key {ps qs : Pieces} (before before' gap gap' : Blanks) {rest rest' : Bytes}
    (h : before.bytes ++ (ps.quoted ++ (gap.bytes ++ 0x3a :: rest)) =
      before'.bytes ++ (qs.quoted ++ (gap'.bytes ++ 0x3a :: rest'))) : ps = qs ∧ rest = rest' := by
  have hquoted := congrArg skipBlanks h
  rw [skipBlanks_quoted, skipBlanks_quoted, Pieces.quoted, Pieces.quoted, List.cons_append,
    List.cons_append, List.append_assoc, List.append_assoc] at hquoted
  have hchars := (List.cons.inj hquoted).2
  have hbehind := congrArg skipChars hchars
  rw [List.singleton_append, List.singleton_append, skipChars_pieces, skipChars_pieces] at hbehind
  have hrest := Except.ok.inj hbehind
  rw [hrest] at hchars
  have hcolon := congrArg skipBlanks hrest
  rw [skipBlanks_blanks, skipBlanks_blanks, skipBlanks_cons (by decide),
    skipBlanks_cons (by decide)] at hcolon
  exact ⟨Pieces.eq_of_bytes (List.append_cancel_right hchars), (List.cons.inj hcolon).2⟩

/-! ## Values -/

namespace Written

mutual

/-- **A written value without its blanks.** -/
def bare : Written → Written
  | list _ items => list .none (bareItems items)
  | object _ members => object .none (bareMembers members)
  | w => w

def bareItems : List (Spaced Written) → List (Spaced Written)
  | [] => []
  | ⟨_, w, _⟩ :: items => .tight (bare w) :: bareItems items

def bareMembers : List (Spaced Pieces × Spaced Written) → List (Spaced Pieces × Spaced Written)
  | [] => []
  | (key, ⟨_, w, _⟩) :: members => (.tight key.item, .tight (bare w)) :: bareMembers members

end

@[simp] theorem bareItems_cons (x : Spaced Written) (items : List (Spaced Written)) :
    bareItems (x :: items) = .tight x.item.bare :: bareItems items := rfl

@[simp] theorem bareMembers_cons (m : Spaced Pieces × Spaced Written)
    (members : List (Spaced Pieces × Spaced Written)) :
    bareMembers (m :: members) = (.tight m.1.item, .tight m.2.item.bare) :: bareMembers members :=
  rfl

/-- What a written value is, by its first byte. -/
inductive Form where
  | null
  | bool (b : Bool)
  | number
  | text
  | list
  | object
deriving DecidableEq

def form : Written → Form
  | null => .null
  | bool b => .bool b
  | number _ => .number
  | text _ => .text
  | list _ _ => .list
  | object _ _ => .object

/-- The form of the values that begin with a byte. -/
def formAt (b : UInt8) : Form :=
  if b = 0x6e then .null else if b = 0x74 then .bool true else if b = 0x66 then .bool false
  else if b = 0x22 then .text else if b = 0x5b then .list else if b = 0x7b then .object
  else .number

theorem form_eq (w : Written) : w.bytes.head?.map formAt = some w.form := by
  cases w with
  | null => rfl
  | bool b => cases b <;> rfl
  | number n =>
    obtain ⟨d, tail, hunsigned, hd⟩ := n.exists_unsigned_eq_cons
    have hne := @ne_of_isDigit d
    rw [bytes, Numeral.bytes, hunsigned]
    cases n.negative with
    | true => rfl
    | false =>
      change some (formAt d) = some .number
      rw [formAt, if_neg (hne hd (by decide)), if_neg (hne hd (by decide)),
        if_neg (hne hd (by decide)), if_neg (hne hd (by decide)), if_neg (hne hd (by decide)),
        if_neg (hne hd (by decide))]
  | text ps => rfl
  | list gap items => rfl
  | object gap members => rfl

theorem form_eq_of_bytes {w w' : Written} (h : w.bytes = w'.bytes) : w.form = w'.form := by
  have hform := form_eq w
  rw [h, form_eq] at hform
  exact (Option.some.inj hform).symm

/-- A value behind blanks ends where passing over it does. -/
theorem eq_of_spaced (before before' : Blanks) {w w' : Written} {rest rest' : Bytes}
    (hrest : Ends rest) (hrest' : Ends rest')
    (h : before.bytes ++ (w.bytes ++ rest) = before'.bytes ++ (w'.bytes ++ rest')) :
    w.bytes = w'.bytes ∧ rest = rest' := by
  have hskip := skipValue_written before w hrest
  rw [h, skipValue_written before' w' hrest'] at hskip
  have hsame : rest' = rest := Except.ok.inj hskip
  have hvalue := congrArg skipBlanks h
  rw [skipBlanks_written, skipBlanks_written, hsame] at hvalue
  exact ⟨List.append_cancel_right hvalue, hsame.symm⟩

/-- Blanks and a comma, or for the first item or member only blanks, are passed over alike. -/
theorem exists_blanks_of_comma (first : Bool) {gap gap' before before' : Blanks}
    {rest rest' : Bytes}
    (h : gap.bytes ++ (comma first ++ (before.bytes ++ rest)) =
      gap'.bytes ++ (comma first ++ (before'.bytes ++ rest'))) :
    ∃ b b' : Blanks, b.bytes ++ rest = b'.bytes ++ rest' := by
  cases first with
  | true =>
    refine ⟨gap.append before, gap'.append before', ?_⟩
    simpa only [comma, if_true, List.nil_append, Blanks.append, List.append_assoc] using h
  | false =>
    refine ⟨before, before', ?_⟩
    have hcomma := congrArg skipBlanks h
    simp only [comma, Bool.false_eq_true, if_false, List.cons_append, List.nil_append] at hcomma
    rw [skipBlanks_blanks, skipBlanks_blanks, skipBlanks_cons (by decide),
      skipBlanks_cons (by decide)] at hcomma
    exact (List.cons.inj hcomma).2

/-- An item or a member does not begin like the end. -/
theorem ne_end (first : Bool) (gap gap' before : Blanks) {b close : UInt8} {rest rest' : Bytes}
    (hb : isBlank b = false) (hne : b ≠ close) (hclose : isBlank close = false)
    (hcomma : close ≠ 0x2c) :
    gap.bytes ++ (comma first ++ (before.bytes ++ b :: rest)) ≠ gap'.bytes ++ close :: rest' := by
  intro h
  have hskip := congrArg skipBlanks h
  rw [skipBlanks_blanks, skipBlanks_blanks, skipBlanks_cons hclose] at hskip
  cases first with
  | true =>
    simp only [comma, if_true, List.nil_append] at hskip
    rw [skipBlanks_blanks, skipBlanks_cons hb] at hskip
    exact hne (List.cons.inj hskip).1
  | false =>
    simp only [comma, Bool.false_eq_true, if_false, List.cons_append, List.nil_append] at hskip
    rw [skipBlanks_cons (by decide)] at hskip
    exact hcomma (List.cons.inj hskip).1.symm

/-- Written values with the same bytes as this one are the same up to blanks. -/
def Known (w : Written) : Prop := ∀ w' : Written, w.bytes = w'.bytes → w.bare = w'.bare

theorem itemsBytes_ne_end (first : Bool) (gap gap' : Blanks) (x : Spaced Written)
    (items : List (Spaced Written)) :
    gap.bytes ++ (itemsBytes first (x :: items) ++ [0x5d]) ≠ gap'.bytes ++ [0x5d] := by
  obtain ⟨b, tail, hbytes, hblank, hne, -⟩ := exists_bytes_eq_cons x.item
  rw [itemsBytes_cons, hbytes]
  simp only [List.append_assoc, List.cons_append]
  exact ne_end first gap gap' x.before hblank hne (by decide) (by decide)

/-- **Items up to the bracket** are known if each of them is. -/
theorem bareItems_eq_of_bytes {items items' : List (Spaced Written)}
    (hitems : ∀ x ∈ items, Known x.item) (first : Bool) {gap gap' : Blanks}
    (h : gap.bytes ++ (itemsBytes first items ++ [0x5d]) =
      gap'.bytes ++ (itemsBytes first items' ++ [0x5d])) : bareItems items = bareItems items' := by
  -- for all blanks in front, as further items have those behind the one before them there
  induction items generalizing items' first gap gap' with
  | nil =>
    cases items' with
    | nil => rfl
    | cons x' items' => exact absurd h.symm (itemsBytes_ne_end first gap' gap x' items')
  | cons x items ih =>
    obtain ⟨hx, hrest⟩ := List.forall_mem_cons.mp hitems
    cases items' with
    | nil => exact absurd h (itemsBytes_ne_end first gap gap' x items)
    | cons x' items' =>
      rw [itemsBytes_cons, itemsBytes_cons] at h
      simp only [List.append_assoc] at h
      obtain ⟨b, b', hvalues⟩ := exists_blanks_of_comma first h
      obtain ⟨hvalue, hbehind⟩ := eq_of_spaced b b' (ends_blanks _ (ends_itemsBytes items []))
        (ends_blanks _ (ends_itemsBytes items' [])) hvalues
      rw [bareItems_cons, bareItems_cons, hx _ hvalue, ih hrest false hbehind]

theorem membersBytes_ne_end (first : Bool) (gap gap' : Blanks) (m : Spaced Pieces × Spaced Written)
    (members : List (Spaced Pieces × Spaced Written)) :
    gap.bytes ++ (membersBytes first (m :: members) ++ [0x7d]) ≠ gap'.bytes ++ [0x7d] := by
  rw [membersBytes_cons, keyBytes, Pieces.quoted]
  simp only [List.append_assoc, List.cons_append]
  exact ne_end first gap gap' m.1.before (by decide) (by decide) (by decide) (by decide)

/-- **Members up to the brace** are known if each value is. -/
theorem bareMembers_eq_of_bytes {members members' : List (Spaced Pieces × Spaced Written)}
    (hmembers : ∀ m ∈ members, Known m.2.item) (first : Bool) {gap gap' : Blanks}
    (h : gap.bytes ++ (membersBytes first members ++ [0x7d]) =
      gap'.bytes ++ (membersBytes first members' ++ [0x7d])) :
    bareMembers members = bareMembers members' := by
  induction members generalizing members' first gap gap' with
  | nil =>
    cases members' with
    | nil => rfl
    | cons m' members' => exact absurd h.symm (membersBytes_ne_end first gap' gap m' members')
  | cons m members ih =>
    obtain ⟨hm, hrest⟩ := List.forall_mem_cons.mp hmembers
    cases members' with
    | nil => exact absurd h (membersBytes_ne_end first gap gap' m members)
    | cons m' members' =>
      rw [membersBytes_cons, membersBytes_cons] at h
      simp only [keyBytes, List.append_assoc, List.cons_append, List.nil_append] at h
      obtain ⟨b, b', hkeys⟩ := exists_blanks_of_comma first h
      obtain ⟨hkey, hvalues⟩ := eq_of_key b b' m.1.after m'.1.after hkeys
      obtain ⟨hvalue, hbehind⟩ := eq_of_spaced _ _ (ends_blanks _ (ends_membersBytes members []))
        (ends_blanks _ (ends_membersBytes members' [])) hvalues
      rw [bareMembers_cons, bareMembers_cons, hkey, hm _ hvalue, ih hrest false hbehind]

/-- **Values are known by their bytes**, up to blanks. -/
theorem bare_eq_of_bytes (w : Written) : w.Known := by
  induction w using Written.induction with
  | null =>
    intro w' h
    have hform := form_eq_of_bytes h
    cases w' <;> first | rfl | exact absurd hform (by simp [form])
  | bool b =>
    intro w' h
    have hform := form_eq_of_bytes h
    cases w' with
    | bool b' => rw [Form.bool.inj hform]
    | _ => exact absurd hform (by simp [form])
  | number n =>
    intro w' h
    have hform := form_eq_of_bytes h
    cases w' with
    | number n' => rw [Numeral.eq_of_bytes h]
    | _ => exact absurd hform (by simp [form])
  | text ps =>
    intro w' h
    have hform := form_eq_of_bytes h
    cases w' with
    | text qs =>
      have hpieces : ps.bytes = qs.bytes := List.append_cancel_right (List.cons.inj h).2
      rw [Pieces.eq_of_bytes hpieces]
    | _ => exact absurd hform (by simp [form])
  | list gap items ih =>
    intro w' h
    have hform := form_eq_of_bytes h
    cases w' with
    | list gap' items' =>
      rw [bare, bare, bareItems_eq_of_bytes ih true (List.cons.inj h).2]
    | _ => exact absurd hform (by simp [form])
  | object gap members ih =>
    intro w' h
    have hform := form_eq_of_bytes h
    cases w' with
    | object gap' members' =>
      rw [bare, bare, bareMembers_eq_of_bytes ih true (List.cons.inj h).2]
    | _ => exact absurd hform (by simp [form])

end Written

/-- **A text has one document**, up to blanks. -/
theorem Document.bare_eq_of_bytes {doc doc' : Document} (h : doc.bytes = doc'.bytes) :
    doc.item.bare = doc'.item.bare := by
  have hends : ∀ gap : Blanks, Ends gap.bytes := by
    intro gap
    have hblanks := ends_blanks gap ends_nil
    rwa [List.append_nil] at hblanks
  exact Written.bare_eq_of_bytes doc.item _ (Written.eq_of_spaced _ _ (hends _) (hends _) h).1

end Json

end HttpLoad
