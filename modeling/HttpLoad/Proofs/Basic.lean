import Mathlib.Data.String.Basic
import Mathlib.Tactic.Common
import HttpLoad.Number.Text
import HttpLoad.Text.Basic

/-!
# Outcomes, texts and digits

What computations come to that may fail or have a state, and what is known of texts, their bytes and
the digits of numbers, wherever they occur.

## Main definitions

* `fault?`: the fault of a computation, if it fails
* `Blank.TrimsTo cs t`: without the blanks at its ends `cs` is `t`

## Main results

* `bind_eq_ok_iff`: two computations in a row succeed if both do
* `toOption_eq_some_iff`, `toOption_eq_none_iff`: a success without its possible fault
* `fault?_eq_some_iff`: a fault without its possible success
* `stateM_bind_apply`: two computations with a state, in a row
* `Bytes.toString?_eq_some_iff`: bytes are read as a text exactly if they are its UTF-8 form
* `Bytes.ofString_lt`: a smaller text has smaller bytes
* `Blank.trim_eq_iff`: trimming gives that part
* `isDigit_of_mem_decimalDigits`, `isDigit_of_mem_paddedDecimal`: digits of numbers are digits
* `decimalDigits_injective`: different numbers have different digits
* `head?_decimalDigits_ne`: the first digit of a positive number is not zero
* `digitsValue_paddedDecimal`: digits are read as their number, with any zeros before them
* `length_paddedDecimal`: numbers that fit a width have that many digits
-/

namespace HttpLoad

/-! ## Outcomes -/

/-- What comes of two computations in a row comes of the second, after the first. -/
theorem bind_eq_ok_iff {ε α β : Type} {x : Except ε α} {f : α → Except ε β} {b : β} :
    (x >>= f) = .ok b ↔ ∃ a, x = .ok a ∧ f a = .ok b := by
  cases x with
  | error e =>
    constructor
    · exact (nomatch ·)
    · rintro ⟨a, ha, -⟩
      cases ha
  | ok a => exact ⟨fun h => ⟨a, rfl, h⟩, fun ⟨_, ha, h⟩ => by cases ha; exact h⟩

theorem toOption_eq_some_iff {ε α : Type} {x : Except ε α} {a : α} :
    x.toOption = some a ↔ x = .ok a := by
  cases x <;> simp [Except.toOption]

theorem toOption_eq_none_iff {ε α : Type} {x : Except ε α} :
    x.toOption = none ↔ ∃ e, x = .error e := by
  cases x <;> simp [Except.toOption]

/-- **The fault of a computation**, if it fails. -/
def fault? {ε α : Type} : Except ε α → Option ε
  | .ok _ => none
  | .error e => some e

theorem fault?_eq_some_iff {ε α : Type} {x : Except ε α} {e : ε} :
    fault? x = some e ↔ x = .error e := by
  cases x <;> simp [fault?]

/-- What comes of a computation may be put somewhere. -/
theorem toOption_bind_ok {ε α β : Type} (x : Except ε α) (f : α → β) :
    (x >>= fun a => .ok (f a)).toOption = x.toOption.map f := by
  cases x <;> rfl

/-- What comes of two computations with a state comes of the second in the state after the first. -/
theorem stateM_bind_apply {σ α β : Type} (x : StateM σ α) (f : α → StateM σ β) (s : σ) :
    (x >>= f) s = f (x s).1 (x s).2 := rfl

/-!
## Texts and their bytes

A text is known by its UTF-8 form, and reading that form gives the text again.
-/

namespace Bytes

@[simp] theorem ofChars_nil : ofChars [] = [] := rfl

@[simp] theorem ofChars_cons (c : Char) (cs : List Char) :
    ofChars (c :: cs) = String.utf8EncodeChar c ++ ofChars cs := rfl

@[simp] theorem ofChars_append (cs ds : List Char) :
    ofChars (cs ++ ds) = ofChars cs ++ ofChars ds := List.flatMap_append ..

/-- A character of ASCII is one byte. -/
theorem utf8EncodeChar_of_lt {c : Char} (hc : c.toNat < 0x80) :
    String.utf8EncodeChar c = [UInt8.ofNat c.toNat] := by
  have hle : c.val.toNat ≤ 0x7f := Nat.le_of_lt_succ hc
  unfold String.utf8EncodeChar
  exact if_pos hle

/-- The bytes of any other character are none of ASCII. -/
theorem le_of_mem_utf8EncodeChar {c : Char} (hc : 0x80 ≤ c.toNat) :
    ∀ b ∈ String.utf8EncodeChar c, 0x80 ≤ b := by
  have hlarge : ¬c.val.toNat ≤ 0x7f := Nat.not_le_of_gt hc
  have hbyte : ∀ k, 0x80 ≤ k → k < 0x100 → 0x80 ≤ UInt8.ofNat k := by
    intro k hk hlt
    exact UInt8.le_iff_toNat_le.mpr ((UInt8.toNat_ofNat_of_lt' hlt).symm ▸ hk)
  unfold String.utf8EncodeChar
  simp only [hlarge, if_false]
  split_ifs
  all_goals
    simp only [List.forall_mem_cons, List.not_mem_nil, false_implies, implies_true, and_true]
    and_intros
  all_goals exact hbyte _ (by omega) (by omega)

theorem toByteArray_ofString (s : String) : (ofString s).toByteArray = s.toByteArray :=
  String.utf8Encode_toList

/-- **Bytes are read as a text** exactly if they are its UTF-8 form. -/
theorem toString?_eq_some_iff {bytes : Bytes} {s : String} :
    toString? bytes = some s ↔ bytes = ofString s := by
  have harray : (⟨bytes.toArray⟩ : ByteArray) = bytes.toByteArray :=
    ByteArray.ext List.data_toByteArray.symm
  rw [toString?, harray, String.fromUTF8?]
  constructor
  · intro h
    split at h
    next hvalid =>
      have hbytes := congrArg String.toByteArray (Option.some.inj h)
      rw [← List.toByteArray_inj, toByteArray_ofString, ← hbytes]
      rfl
    next => exact absurd h (by simp)
  · rintro rfl
    rw [dif_pos (by rw [toByteArray_ofString]; exact s.isValidUTF8)]
    refine congrArg some (String.toByteArray_inj.mp ?_)
    exact toByteArray_ofString s

@[simp] theorem toString?_ofString (s : String) : toString? (ofString s) = some s :=
  toString?_eq_some_iff.mpr rfl

end Bytes

/-!
## The order of texts

Texts are compared character by character. Their UTF-8 forms, compared byte by byte, are in the same
order: a character has more bytes than a smaller one, which shows in the first byte, or as many, and
then the bytes are digits of its code point, the most significant one first.
-/

namespace Bytes

/-! ### Bytes as numbers -/

section

variable {m n : Nat} (hm : m < 256) (hn : n < 256)
include hm hn

theorem ofNat_lt_iff : UInt8.ofNat m < UInt8.ofNat n ↔ m < n := by
  rw [UInt8.lt_iff_toNat_lt, UInt8.toNat_ofNat_of_lt' hm, UInt8.toNat_ofNat_of_lt' hn]

theorem ofNat_inj : UInt8.ofNat m = UInt8.ofNat n ↔ m = n := by
  rw [← UInt8.toNat_inj, UInt8.toNat_ofNat_of_lt' hm, UInt8.toNat_ofNat_of_lt' hn]

end

/-! ### Characters -/

theorem codePoint_lt (c : Char) : c.val.toNat < 0x110000 := by
  rcases c.valid with h | h
  · exact Nat.lt_trans h (by decide)
  · exact h.2

/-- The greater of two numbers has the greater last digit to the base 64, unless it has more in
front of it. -/
theorem digit_lt {m n : Nat} (h : m < n) :
    m / 64 < n / 64 ∨ m / 64 = n / 64 ∧ m % 64 < n % 64 := by
  omega

/-- **A smaller character has smaller bytes**, whatever follows them. -/
theorem utf8EncodeChar_append_lt {c d : Char} (h : c < d) (rest rest' : Bytes) :
    String.utf8EncodeChar c ++ rest < String.utf8EncodeChar d ++ rest' := by
  have hlt : c.val.toNat < d.val.toNat := h
  have hd : d.val.toNat < 0x110000 := codePoint_lt d
  unfold String.utf8EncodeChar
  generalize c.val.toNat = m at hlt
  generalize d.val.toNat = n at hlt hd
  dsimp only
  split_ifs
  all_goals
    simp (disch := omega) only [List.cons_append, List.nil_append, List.cons_lt_cons_iff,
      ofNat_lt_iff, ofNat_inj]
  all_goals try omega
  -- both have four bytes, and the first digit that differs decides
  have hm₁ : m / 64 / 64 = m / 4096 := Nat.div_div_eq_div_mul ..
  have hn₁ : n / 64 / 64 = n / 4096 := Nat.div_div_eq_div_mul ..
  have hm₂ : m / 4096 / 64 = m / 262144 := Nat.div_div_eq_div_mul ..
  have hn₂ : n / 4096 / 64 = n / 262144 := Nat.div_div_eq_div_mul ..
  rcases digit_lt hlt with h₁ | ⟨h₁, hdigit⟩
  · rcases digit_lt h₁ with h₂ | ⟨h₂, hdigit⟩
    · rw [hm₁, hn₁] at h₂
      rcases digit_lt h₂ with h₃ | ⟨h₃, hdigit⟩
      · omega
      · omega
    · omega
  · omega

theorem utf8EncodeChar_ne_nil (c : Char) : String.utf8EncodeChar c ≠ [] := by
  unfold String.utf8EncodeChar
  dsimp only
  split_ifs <;> exact List.cons_ne_nil _ _

/-! ### Texts -/

/-- Characters are compared like their bytes, by induction on where they differ. -/
theorem ofChars_lt {cs ds : List Char} (h : cs < ds) : ofChars cs < ofChars ds := by
  induction h with
  | @nil d ds =>
    obtain ⟨b, bs, hbytes⟩ := List.exists_cons_of_ne_nil (utf8EncodeChar_ne_nil d)
    rw [ofChars_cons, hbytes]
    exact List.nil_lt_cons _ _
  | rel h => exact utf8EncodeChar_append_lt h _ _
  | cons _ ih => exact List.append_left_lt ih

/-- **A smaller text has smaller bytes.** -/
theorem ofString_lt {s t : String} (h : s < t) : ofString s < ofString t :=
  ofChars_lt (String.lt_iff.mp h)

end Bytes

/-!
## Trimmed texts

A text is trimmed to what is left of it without the blanks at its ends: there are only blanks around
that, and it neither begins nor ends with one. There is one such part of every text.
-/

namespace Blank

/-- **Without the blanks at its ends** `cs` is `t`. -/
def TrimsTo (cs t : List Char) : Prop :=
  ∃ front back, cs = front ++ (t ++ back) ∧ (∀ c ∈ front, isBlank c = true) ∧
    (∀ c ∈ back, isBlank c = true) ∧ (∀ c ∈ t.head?, isBlank c = false) ∧
    ∀ c ∈ t.getLast?, isBlank c = false

variable {cs t front : List Char}

theorem trimStart_append (hfront : ∀ c ∈ front, isBlank c = true) (cs : List Char) :
    trimStart (front ++ cs) = trimStart cs := List.dropWhile_append_of_pos hfront

/-- What does not begin with a blank has none to lose at its start. -/
theorem trimStart_eq_self (h : ∀ c ∈ cs.head?, isBlank c = false) : trimStart cs = cs := by
  cases cs with
  | nil => rfl
  | cons c cs => exact List.dropWhile_cons_of_neg (by simp [h c rfl])

theorem head?_trimStart (cs : List Char) : ∀ c ∈ (trimStart cs).head?, isBlank c = false := by
  intro c hc
  have h := List.head?_dropWhile_not isBlank cs
  rw [trimStart, Option.mem_def] at hc
  rw [hc] at h
  simpa using h

/-- Characters are blanks and what is left without them. -/
theorem exists_trimStart (cs : List Char) :
    ∃ front, cs = front ++ trimStart cs ∧ ∀ c ∈ front, isBlank c = true :=
  ⟨cs.takeWhile isBlank, List.takeWhile_append_dropWhile.symm,
    fun c hc => List.all_eq_true.mp List.all_takeWhile c hc⟩

theorem trimsTo_trim (cs : List Char) : TrimsTo cs (trim cs) := by
  obtain ⟨front, hfront, hblank⟩ := exists_trimStart cs
  obtain ⟨back, hback, hblank'⟩ := exists_trimStart (trimStart cs).reverse
  have hrest : trimStart cs = trim cs ++ back.reverse := by
    rw [trim, ← List.reverse_append, ← hback, List.reverse_reverse]
  refine ⟨front, back.reverse, hrest ▸ hfront, hblank, ?_, fun c hc => ?_, fun c hc => ?_⟩
  · simpa using hblank'
  · refine head?_trimStart cs c ?_
    rw [hrest, List.head?_append, Option.mem_def.mp hc]
    rfl
  · rw [trim, List.getLast?_reverse] at hc
    exact head?_trimStart _ c hc

theorem TrimsTo.trim_eq (h : TrimsTo cs t) : trim cs = t := by
  obtain ⟨front, back, rfl, hfront, hback, hhead, hlast⟩ := h
  have hreverse : trimStart (t ++ back).reverse = t.reverse := by
    rw [List.reverse_append, trimStart_append (by simpa using hback)]
    exact trimStart_eq_self (by simpa using hlast)
  rw [trim, trimStart_append hfront]
  cases t with
  | nil =>
    have hnil : trimStart (back ++ []) = [] := trimStart_append hback []
    rw [List.append_nil] at hnil
    rw [List.nil_append, hnil]
    rfl
  | cons c t =>
    have hself : trimStart (c :: t ++ back) = c :: t ++ back := trimStart_eq_self hhead
    rw [hself, hreverse, List.reverse_reverse]

/-- **Trimming gives the part without the blanks at the ends**, and there is only one. -/
theorem trim_eq_iff : trim cs = t ↔ TrimsTo cs t :=
  ⟨fun h => h ▸ trimsTo_trim cs, TrimsTo.trim_eq⟩

/-- What is not blank anywhere in the trimmed part is not anywhere at all. -/
theorem TrimsTo.not_mem {c : Char} (h : TrimsTo cs t) (hc : isBlank c = false) (ht : c ∉ t) :
    c ∉ cs := by
  obtain ⟨front, back, rfl, hfront, hback, -, -⟩ := h
  have hblank {part : List Char} (hpart : ∀ c ∈ part, isBlank c = true) : c ∉ part := fun hmem =>
    absurd (hpart c hmem) (by simp [hc])
  simp [hblank hfront, hblank hback, ht]

end Blank

/-!
## Decimal digits

The decimal digits of a number are digits, and a number is known by them. Zeros put before them
change nothing of that.
-/

theorem isDigit_of_mem_decimalDigits {n : Nat} {c : Char} (h : c ∈ decimalDigits n) :
    c.isDigit = true :=
  Nat.isDigit_of_mem_toDigits (by decide) (by decide) h

theorem decimalDigits_ne_nil (n : Nat) : decimalDigits n ≠ [] := Nat.toDigits_ne_nil

theorem decimalDigits_injective {m n : Nat} (h : decimalDigits m = decimalDigits n) : m = n := by
  rw [← Nat.ofDigitChars_ten_toDigits (n := m), ← Nat.ofDigitChars_ten_toDigits (n := n)]
  exact congrArg (Nat.ofDigitChars 10 · 0) h

/-- The digits of a positive number do not begin with a zero. -/
theorem head?_decimalDigits_ne {n : Nat} (hn : 0 < n) : (decimalDigits n).head? ≠ some '0' := by
  induction n using Nat.strongRecOn with
  | ind n ih =>
    rcases Nat.lt_or_ge n 10 with hlt | hge
    · have hdigit : ∀ k < 10, 0 < k → Nat.digitChar k ≠ '0' := by decide
      rw [decimalDigits, Nat.toDigits_of_lt_base hlt]
      simpa using hdigit n hlt hn
    · have hrest := ih (n / 10) (by omega) (by omega)
      obtain ⟨c, cs, hcs⟩ := List.exists_cons_of_ne_nil (decimalDigits_ne_nil (n / 10))
      rw [hcs] at hrest
      rw [decimalDigits, Nat.toDigits_of_base_le (by decide) hge, ← decimalDigits, hcs]
      exact hrest

/-! ### Padded numbers -/

theorem isDigit_of_mem_paddedDecimal {width n : Nat} {c : Char} (h : c ∈ paddedDecimal width n) :
    c.isDigit = true := by
  rcases List.mem_append.mp h with hzero | hdigit
  · obtain ⟨-, rfl⟩ := List.mem_replicate.mp hzero
    rfl
  · exact isDigit_of_mem_decimalDigits hdigit

theorem paddedDecimal_ne_nil (width n : Nat) : paddedDecimal width n ≠ [] :=
  List.append_ne_nil_of_right_ne_nil _ (decimalDigits_ne_nil n)

theorem digitsValue_eq_ofDigitChars (cs : List Char) :
    digitsValue cs = Nat.ofDigitChars 10 cs 0 := rfl

/-- **A padded number is read as that number.** -/
theorem digitsValue_paddedDecimal (width n : Nat) : digitsValue (paddedDecimal width n) = n := by
  rw [digitsValue_eq_ofDigitChars, paddedDecimal, Nat.ofDigitChars_append,
    Nat.ofDigitChars_replicate_zero, Nat.mul_zero]
  exact Nat.ofDigitChars_ten_toDigits

/-- A number that fits the width is padded to it. -/
theorem length_paddedDecimal {width n : Nat} (hwidth : 0 < width) (hn : n < Nat.pow 10 width) :
    (paddedDecimal width n).length = width := by
  have hlength : (decimalDigits n).length ≤ width :=
    (Nat.length_toDigits_le_iff (by decide) hwidth).mpr hn
  rw [paddedDecimal, List.length_append, List.length_replicate, Nat.sub_add_cancel hlength]

end HttpLoad
