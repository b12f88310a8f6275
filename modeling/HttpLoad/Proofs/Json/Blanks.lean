import HttpLoad.Proofs.Json.Layout

/-!
# Layout is blanks

Layout adds nothing to the compact text of a value but blanks between its tokens. Inside of texts
blanks belong to what is written, so only those outside of texts are taken away. What is left of the
text with layout is the compact one.

## Main definitions

* `Json.withoutBlanks`: characters without the blanks outside of texts
* `Json.Stays c`: a character that is neither a blank nor a quote

## Main results

* `Json.withoutBlanks_pretty`: layout is blanks outside of texts
-/

namespace HttpLoad

namespace Json

/-! ## Characters outside of texts -/

/-- A blank of the grammar. -/
def isBlankChar (c : Char) : Bool := c == ' ' || c == '\n' || c == '\r' || c == '\t'

/-- Where a character stands: outside of texts, inside of one, or behind a backslash there. -/
inductive Place where
  | outside
  | inside
  | escaped

/-- **Characters without the blanks outside of texts.** -/
def withoutBlanks : Place → List Char → List Char
  | _, [] => []
  | .outside, c :: cs =>
    if isBlankChar c then withoutBlanks .outside cs
    else if c = '"' then c :: withoutBlanks .inside cs
    else c :: withoutBlanks .outside cs
  | .inside, c :: cs =>
    if c = '"' then c :: withoutBlanks .outside cs
    else if c = '\\' then c :: withoutBlanks .escaped cs
    else c :: withoutBlanks .inside cs
  | .escaped, c :: cs => c :: withoutBlanks .inside cs

/-- A character that is neither a blank nor a quote stays, and what follows is outside of texts. -/
def Stays (c : Char) : Prop := isBlankChar c = false ∧ c ≠ '"'

section

variable (rest : List Char)

theorem withoutBlanks_stays {c : Char} (hc : Stays c) :
    withoutBlanks .outside (c :: rest) = c :: withoutBlanks .outside rest := by
  rw [withoutBlanks, if_neg (by simp [hc.1]), if_neg hc.2]

theorem withoutBlanks_stay {cs : List Char} (hcs : ∀ c ∈ cs, Stays c) :
    withoutBlanks .outside (cs ++ rest) = cs ++ withoutBlanks .outside rest := by
  induction cs with
  | nil => rfl
  | cons c cs ih =>
    obtain ⟨hc, hcs⟩ := List.forall_mem_cons.mp hcs
    rw [List.cons_append, withoutBlanks_stays _ hc, ih hcs, List.cons_append]

/-- A character inside of a text stays. -/
theorem withoutBlanks_inside {c : Char} (hquote : c ≠ '"') (hbackslash : c ≠ '\\') :
    withoutBlanks .inside (c :: rest) = c :: withoutBlanks .inside rest := by
  rw [withoutBlanks, if_neg hquote, if_neg hbackslash]

/-- So does an escape. -/
theorem withoutBlanks_escape (c : Char) :
    withoutBlanks .inside ('\\' :: c :: rest) = '\\' :: c :: withoutBlanks .inside rest := rfl

theorem hexDigit_ne {n : Nat} (hn : n < 16) : hexDigit n ≠ '"' ∧ hexDigit n ≠ '\\' := by
  have hall : ∀ n < 16, hexDigit n ≠ '"' ∧ hexDigit n ≠ '\\' := by decide
  exact hall n hn

theorem withoutBlanks_escapeChar (c : Char) :
    withoutBlanks .inside (escapeChar c ++ rest) = escapeChar c ++ withoutBlanks .inside rest := by
  unfold escapeChar
  split_ifs with hquote hbackslash hn hr ht hb hf hcontrol
  all_goals try exact withoutBlanks_escape rest _
  · obtain ⟨hhigh, hhigh'⟩ := hexDigit_ne (n := c.toNat / 16) (by omega)
    obtain ⟨hlow, hlow'⟩ := hexDigit_ne (n := c.toNat % 16) (Nat.mod_lt _ (by decide))
    simp only [List.cons_append, List.nil_append]
    rw [withoutBlanks_escape, withoutBlanks_inside _ (by decide) (by decide),
      withoutBlanks_inside _ (by decide) (by decide), withoutBlanks_inside _ hhigh hhigh',
      withoutBlanks_inside _ hlow hlow']
  · exact withoutBlanks_inside rest hquote hbackslash

/-- **A text with its quotes stays** as it is. -/
theorem withoutBlanks_quotedChars (s : String) :
    withoutBlanks .outside (quotedChars s ++ rest) =
      quotedChars s ++ withoutBlanks .outside rest := by
  have hinside : ∀ cs : List Char, withoutBlanks .inside (cs.flatMap escapeChar ++ '"' :: rest) =
      cs.flatMap escapeChar ++ '"' :: withoutBlanks .outside rest := by
    intro cs
    induction cs with
    | nil => rfl
    | cons c cs ih =>
      rw [List.flatMap_cons, List.append_assoc, withoutBlanks_escapeChar, ih, List.append_assoc]
  rw [quotedChars, List.cons_append, List.cons_append, List.cons_append, List.append_assoc,
    List.append_assoc, List.singleton_append, List.singleton_append, withoutBlanks,
    if_neg (by decide), if_pos rfl, hinside]

theorem withoutBlanks_newLine (depth : Nat) :
    withoutBlanks .outside (newLine depth ++ rest) = withoutBlanks .outside rest := by
  have hspaces : ∀ n, withoutBlanks .outside (List.replicate n ' ' ++ rest) =
      withoutBlanks .outside rest := by
    intro n
    induction n with
    | zero => rfl
    | succ n ih =>
      rw [List.replicate_succ, List.cons_append, withoutBlanks, if_pos (by decide), ih]
  rw [newLine, List.cons_append, withoutBlanks, if_pos (by decide), hspaces]

end

/-- Neither a blank nor a quote, and so no byte that a blank or a quote is written with. -/
def StaysByte (b : UInt8) : Prop := isBlank b = false ∧ b ≠ 0x22

instance (b : UInt8) : Decidable (StaysByte b) := inferInstanceAs (Decidable (_ ∧ _))

instance (c : Char) : Decidable (Stays c) := inferInstanceAs (Decidable (_ ∧ _))

theorem stays_of_all {cs : List Char} (h : cs.all (fun c => decide (Stays c)) = true) :
    ∀ c ∈ cs, Stays c :=
  fun c hc => of_decide_eq_true (List.all_eq_true.mp h c hc)

theorem Digits.stays (ds : Digits) : ∀ b ∈ ds.bytes, StaysByte b := by
  intro b hb
  have hdigit := ds.all_digits b hb
  exact ⟨not_isBlank_of_isDigit hdigit, ne_of_isDigit hdigit (by decide)⟩

theorem Exponent.stays (x : Exponent) : ∀ b ∈ x.bytes, StaysByte b := by
  have hsign : ∀ b ∈ signBytes x.sign, StaysByte b := by
    cases x.sign with
    | none => exact fun b hb => absurd hb List.not_mem_nil
    | some minus => cases minus <;> exact List.forall_mem_singleton.mpr (by decide)
  have htail := List.forall_mem_append.mpr ⟨hsign, x.digits.stays⟩
  refine List.forall_mem_cons.mpr ⟨?_, htail⟩
  cases x.capital <;> decide

theorem Numeral.stays_unsigned (n : Numeral) : ∀ b ∈ n.unsigned, StaysByte b := by
  have hfraction : ∀ b ∈ fractionBytes n.fraction, StaysByte b := by
    cases n.fraction with
    | none => exact fun b hb => absurd hb List.not_mem_nil
    | some ds => exact List.forall_mem_cons.mpr ⟨by decide, ds.stays⟩
  have hexponent : ∀ b ∈ exponentBytes n.exponent, StaysByte b := by
    cases n.exponent with
    | none => exact fun b hb => absurd hb List.not_mem_nil
    | some x => exact x.stays
  exact List.forall_mem_append.mpr
    ⟨n.whole.stays, List.forall_mem_append.mpr ⟨hfraction, hexponent⟩⟩

theorem Numeral.stays_bytes (n : Numeral) : ∀ b ∈ n.bytes, StaysByte b := by
  rw [bytes]
  split
  · exact List.forall_mem_cons.mpr ⟨by decide, n.stays_unsigned⟩
  · exact n.stays_unsigned

/-- The characters of a numeral stay. -/
theorem Numeral.stays {n : Numeral} {cs : List Char} (h : n.bytes = Bytes.ofChars cs) :
    ∀ c ∈ cs, Stays c := by
  intro c hc
  have hbytes : ∀ b ∈ String.utf8EncodeChar c, StaysByte b := by
    intro b hb
    apply n.stays_bytes
    rw [h]
    exact List.mem_flatMap.mpr ⟨c, hc, hb⟩
  constructor
  · by_contra hblank
    simp only [isBlankChar, Bool.not_eq_false, Bool.or_eq_true, beq_iff_eq] at hblank
    rcases hblank with ((rfl | rfl) | rfl) | rfl <;>
      exact absurd (hbytes _ List.mem_cons_self).1 (by decide)
  · rintro rfl
    exact (hbytes _ List.mem_cons_self).2 rfl

theorem stays_realChars (x : Double) : ∀ c ∈ realChars x, Stays c := by
  cases hx : x.isFinite with
  | false =>
    rw [realChars, if_neg (by simp [hx])]
    exact stays_of_all rfl
  | true =>
    obtain ⟨n, hbytes, -⟩ := exists_numeral_doubleText hx
    rw [realChars, if_pos hx]
    exact Numeral.stays hbytes

/-- Layout of items is blanks. -/
theorem withoutBlanks_prettyItems {depth : Nat} {items : List Json} (rest : List Char)
    (h : ∀ v ∈ items, ∀ rest, withoutBlanks .outside (prettyThen depth v rest) =
      compactThen v (withoutBlanks .outside rest)) :
    withoutBlanks .outside (prettyItems depth items rest) =
      compactItems false items (withoutBlanks .outside rest) := by
  induction items with
  | nil => rfl
  | cons v items ih =>
    obtain ⟨hv, hitems⟩ := List.forall_mem_cons.mp h
    rw [prettyItems, withoutBlanks_stays _ (by decide), withoutBlanks_newLine, hv, ih hitems]
    rfl

/-- Layout of members is blanks. -/
theorem withoutBlanks_prettyMembers {depth : Nat} {members : List (String × Json)}
    (rest : List Char)
    (h : ∀ m ∈ members, ∀ rest, withoutBlanks .outside (prettyThen depth m.2 rest) =
      compactThen m.2 (withoutBlanks .outside rest)) :
    withoutBlanks .outside (prettyMembers depth members rest) =
      compactMembers false members (withoutBlanks .outside rest) := by
  induction members with
  | nil => rfl
  | cons m members ih =>
    obtain ⟨key, v⟩ := m
    obtain ⟨hv, hmembers⟩ := List.forall_mem_cons.mp h
    have hspace : ∀ cs, withoutBlanks .outside (' ' :: cs) = withoutBlanks .outside cs :=
      fun cs => rfl
    rw [prettyMembers, withoutBlanks_stays _ (by decide), List.append_assoc, withoutBlanks_newLine,
      withoutBlanks_quotedChars, withoutBlanks_stays _ (by decide), hspace, hv, ih hmembers]
    rfl

/-- **Layout is blanks outside of texts**, before anything. -/
theorem withoutBlanks_prettyThen (v : Json) : ∀ (depth : Nat) (rest : List Char),
    withoutBlanks .outside (prettyThen depth v rest) =
      compactThen v (withoutBlanks .outside rest) := by
  induction v using Json.induction with
  | null => exact fun depth rest => withoutBlanks_stay rest (stays_of_all rfl)
  | bool b => cases b <;> exact fun depth rest => withoutBlanks_stay rest (stays_of_all rfl)
  | integer i =>
    exact fun depth rest => withoutBlanks_stay rest (Numeral.stays (Numeral.bytes_ofInt i))
  | real x => exact fun depth rest => withoutBlanks_stay rest (stays_realChars x)
  | text s => exact fun depth rest => withoutBlanks_quotedChars rest s
  | list items ih =>
    intro depth rest
    cases items with
    | nil => rfl
    | cons v items =>
      obtain ⟨hv, hitems⟩ := List.forall_mem_cons.mp ih
      rw [prettyThen, withoutBlanks_stays _ (by decide), withoutBlanks_newLine, hv,
        withoutBlanks_prettyItems _ fun u hu => hitems u hu (depth + 1), withoutBlanks_newLine,
        withoutBlanks_stays _ (by decide)]
      rfl
  | object members ih =>
    intro depth rest
    cases members with
    | nil => rfl
    | cons m members =>
      obtain ⟨key, v⟩ := m
      obtain ⟨hv, hmembers⟩ := List.forall_mem_cons.mp ih
      have hspace : ∀ cs, withoutBlanks .outside (' ' :: cs) = withoutBlanks .outside cs :=
        fun cs => rfl
      rw [prettyThen, withoutBlanks_stays _ (by decide), List.append_assoc, withoutBlanks_newLine,
        withoutBlanks_quotedChars, withoutBlanks_stays _ (by decide), hspace, hv,
        withoutBlanks_prettyMembers _ fun m hm => hmembers m hm (depth + 1),
        withoutBlanks_newLine, withoutBlanks_stays _ (by decide)]
      rfl

/-- **The text with layout is the compact one** with blanks outside of texts. -/
theorem withoutBlanks_pretty (v : Json) :
    withoutBlanks .outside v.pretty.toList = v.compact.toList := by
  rw [pretty, compact, String.toList_ofList, String.toList_ofList, withoutBlanks_prettyThen]
  rfl

example : withoutBlanks .outside "[\n  \"a b\",\n  1\n]".toList = "[\"a b\",1]".toList := by decide

end Json

end HttpLoad
