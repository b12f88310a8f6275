import Mathlib.Data.List.Nodup
import HttpLoad.Proofs.Basic
import HttpLoad.Request.Basic

/-!
# Which fields come of texts

A text is a field if there is a token before its first colon and no control character behind it,
blanks at the ends of both not counted. The colon need not be said to be the first one, since no
token has one in it. Texts are taken all or none: if each of them is a field, then under each name
the last value counts, and otherwise the first text that is no field is what is told.

A value may hold bytes that are not ASCII.

## Main definitions

* `Headers.IsField allowed text field`: a text is a field, in a value of which all bytes are allowed
* `Headers.IsLast texts field`: a field that no later one of its name replaces

## Main results

* `Headers.parseField?_eq_some_iff`: which texts are read as fields
* `Headers.mem_addAll_iff`: one text after another, the last field of each name stays
* `Headers.parse_last_fields`: what comes of texts
-/

namespace HttpLoad

namespace Headers

/-! ## One text -/

/-- Bytes without control characters, the tab aside. -/
def NoControl (b : UInt8) : Prop := b = 0x09 ∨ 0x20 ≤ b ∧ b ≠ 0x7f

/-- **A text is a field**, of a name in small letters and a value whose bytes are all allowed. -/
inductive IsField (allowed : UInt8 → Prop) (text : String) : String × Bytes → Prop
  | intro {before key behind content : List Char}
    (hcolon : text.toList = before ++ ':' :: behind) (hkey : Blank.TrimsTo before key)
    (hcontent : Blank.TrimsTo behind content) (hne : key ≠ [])
    (htoken : ∀ c ∈ key, isTokenChar c = true) (hlength : key.length ≤ nameMax)
    (hallowed : ∀ b ∈ Bytes.ofChars content, allowed b) :
    IsField allowed text (String.ofList (key.map Char.toLower), Bytes.ofChars content)

theorem IsField.mono {allowed allowed' : UInt8 → Prop} (himp : ∀ b, allowed b → allowed' b)
    {text : String} {field : String × Bytes} (h : IsField allowed text field) :
    IsField allowed' text field := by
  obtain ⟨hcolon, hkey, hcontent, hne, htoken, hlength, hallowed⟩ := h
  exact ⟨hcolon, hkey, hcontent, hne, htoken, hlength, fun b hb => himp b (hallowed b hb)⟩

theorem IsField.allowed {allowed : UInt8 → Prop} {text : String} {field : String × Bytes}
    (h : IsField allowed text field) : ∀ b ∈ field.2, allowed b := by
  obtain ⟨-, -, -, -, -, -, hallowed⟩ := h
  exact hallowed

theorem isValueByte_iff {b : UInt8} : isValueByte b = true ↔ NoControl b := by
  simp [isValueByte, NoControl, or_comm]

theorem isToken_iff {cs : List Char} :
    isToken cs = true ↔ cs ≠ [] ∧ ∀ c ∈ cs, isTokenChar c = true := by
  simp [isToken]

/-- **Characters are split at their first colon.** -/
theorem splitColon_eq_some_iff {cs before behind : List Char} :
    splitColon cs = some (before, behind) ↔ cs = before ++ ':' :: behind ∧ ':' ∉ before := by
  constructor
  · intro h
    have hparts := List.takeWhile_append_dropWhile (p := (· != ':')) (l := cs)
    have hcolon := List.head?_dropWhile_not (· != ':') cs
    rw [splitColon] at h
    cases hdrop : cs.dropWhile (· != ':') with
    | nil =>
      rw [hdrop] at h
      cases h
    | cons c rest =>
      rw [hdrop] at h hparts hcolon
      obtain ⟨rfl, rfl⟩ := Prod.mk.inj (Option.some.inj h)
      obtain rfl : c = ':' := by simpa using hcolon
      refine ⟨hparts.symm, fun hmem => ?_⟩
      have hbefore := List.all_eq_true.mp (List.all_takeWhile (p := (· != ':')) (l := cs)) _ hmem
      simp at hbefore
  · rintro ⟨rfl, hbefore⟩
    have hpos : ∀ c ∈ before, (c != ':') = true := by
      intro c hc
      exact bne_iff_ne.mpr fun heq => hbefore (heq ▸ hc)
    rw [splitColon, List.dropWhile_append_of_pos hpos, List.takeWhile_append_of_pos hpos]
    simp

/-- **Which texts are read as fields.** -/
theorem parseField?_eq_some_iff {text : String} {field : String × Bytes} :
    parseField? text = some field ↔ IsField NoControl text field := by
  constructor
  · intro h
    rw [parseField?] at h
    cases hsplit : splitColon text.toList with
    | none =>
      rw [hsplit] at h
      cases h
    | some parts =>
      obtain ⟨before, behind⟩ := parts
      rw [hsplit] at h
      simp only at h
      split_ifs at h with hfield
      obtain ⟨htoken, hlength, hvalue⟩ := hfield
      obtain ⟨hne, htoken⟩ := isToken_iff.mp htoken
      obtain rfl := Option.some.inj h
      exact .intro (splitColon_eq_some_iff.mp hsplit).1 (Blank.trimsTo_trim before)
        (Blank.trimsTo_trim behind) hne htoken hlength
        fun b hb => isValueByte_iff.mp (List.all_eq_true.mp hvalue b hb)
  · rintro ⟨hcolon, hkey, hcontent, hne, htoken, hlength, hallowed⟩
    have hbefore := hkey.not_mem (c := ':') (by decide) fun hmem =>
      absurd (htoken ':' hmem) (by decide)
    have hsplit := splitColon_eq_some_iff.mpr ⟨hcolon, hbefore⟩
    have hvalue := List.all_eq_true.mpr fun b hb => isValueByte_iff.mpr (hallowed b hb)
    rw [parseField?, hsplit]
    simp only [hkey.trim_eq, hcontent.trim_eq]
    exact if_pos ⟨isToken_iff.mpr ⟨hne, htoken⟩, hlength, hvalue⟩

/-! ## Names -/

theorem isTokenChar_iff {c : Char} : isTokenChar c = true ↔
    c.isAlphanum = true ∨ c ∈ ['!', '#', '$', '%', '&', '\'', '*', '+', '-', '.', '^', '_', '\x60',
      '|', '~'] := by
  rw [isTokenChar, Bool.or_eq_true, List.contains_iff_mem]

/-- The characters of tokens are visible and ASCII. -/
theorem bounds_of_isTokenChar {c : Char} (h : isTokenChar c = true) :
    0x20 < c.toNat ∧ c.toNat < 0x7f := by
  rcases isTokenChar_iff.mp h with halnum | hsign
  · have hranges : 65 ≤ c.toNat ∧ c.toNat ≤ 90 ∨ 97 ≤ c.toNat ∧ c.toNat ≤ 122 ∨
        48 ≤ c.toNat ∧ c.toNat ≤ 57 := by
      delta Char.isAlphanum Char.isAlpha Char.isUpper Char.isLower Char.isDigit at halnum
      simpa [UInt32.le_iff_toNat_le, or_assoc] using halnum
    omega
  · simp only [List.mem_cons, List.not_mem_nil, or_false] at hsign
    rcases hsign with rfl | rfl | rfl | rfl | rfl | rfl | rfl | rfl | rfl | rfl | rfl | rfl | rfl |
      rfl | rfl
    all_goals decide

/-- The small letter of a token character is one too, and it is no capital. -/
theorem toLower_of_isTokenChar {c : Char} (h : isTokenChar c = true) :
    isTokenChar c.toLower = true ∧ c.toLower.isUpper = false := by
  have hall : ∀ n < 0x7f, isTokenChar (Char.ofNat n) = true →
      isTokenChar (Char.ofNat n).toLower = true ∧ (Char.ofNat n).toLower.isUpper = false := by
    decide
  have hc := hall c.toNat (bounds_of_isTokenChar h).2
  rw [Char.ofNat_toNat] at hc
  exact hc h

/-! ## Fields by name -/

variable {headers : Headers} {name n : String} {value v : Bytes}

/-- What is put under a name replaces what was there, and leaves the other names alone. -/
theorem mem_put_iff (hnodup : (headers.map Prod.fst).Nodup) :
    (n, v) ∈ put name value headers ↔ if n = name then v = value else (n, v) ∈ headers := by
  induction headers with
  | nil =>
    rw [put, List.mem_singleton, Prod.mk.injEq]
    split_ifs with h <;> simp [h]
  | cons field rest ih =>
    obtain ⟨m, u⟩ := field
    obtain ⟨hfirst, hrest⟩ := List.nodup_cons.mp hnodup
    rw [put]
    by_cases hm : m = name
    · have hbehind (h : n = name) : (n, v) ∉ rest := fun hmem =>
        hfirst (List.mem_map.mpr ⟨(n, v), hmem, h.trans hm.symm⟩)
      rw [if_pos hm, List.mem_cons, List.mem_cons, Prod.mk.injEq, Prod.mk.injEq, hm]
      split_ifs with h
      · subst h
        simp [hbehind rfl]
      · simp [h]
    · rw [if_neg hm, List.mem_cons, List.mem_cons, ih hrest]
      split_ifs with h
      · simp [h, Ne.symm hm]
      · rfl

theorem nodup_put (hnodup : (headers.map Prod.fst).Nodup) :
    ((put name value headers).map Prod.fst).Nodup := by
  induction headers with
  | nil => exact List.nodup_singleton name
  | cons field rest ih =>
    obtain ⟨m, u⟩ := field
    obtain ⟨hfirst, hrest⟩ := List.nodup_cons.mp hnodup
    rw [put]
    by_cases hm : m = name
    · rw [if_pos hm, List.map_cons]
      exact List.nodup_cons.mpr ⟨hm ▸ hfirst, hrest⟩
    · rw [if_neg hm, List.map_cons]
      refine List.nodup_cons.mpr ⟨fun hmem => ?_, ih hrest⟩
      obtain ⟨⟨n, v⟩, hput, rfl⟩ := List.mem_map.mp hmem
      rw [mem_put_iff hrest, if_neg hm] at hput
      exact hfirst (List.mem_map.mpr ⟨(n, v), hput, rfl⟩)

/-! ## One text after another -/

/-- **A field that no later one of its name replaces.** -/
def IsLast (texts : List String) (field : String × Bytes) : Prop :=
  ∃ before text after, texts = before ++ text :: after ∧ IsField NoControl text field ∧
    ∀ t ∈ after, ∀ other, IsField NoControl t other → other.1 ≠ field.1

theorem not_isLast_nil (field : String × Bytes) : ¬IsLast [] field := by
  rintro ⟨before, text, after, hsplit, -⟩
  simp at hsplit

/-- The last field of a name is among the later ones, or it comes first and none of these has the
name. -/
theorem isLast_cons {text : String} {texts : List String} {field : String × Bytes} :
    IsLast (text :: texts) field ↔ IsLast texts field ∨ IsField NoControl text field ∧
      ∀ t ∈ texts, ∀ other, IsField NoControl t other → other.1 ≠ field.1 := by
  constructor
  · rintro ⟨before, t, after, hsplit, hfield, hafter⟩
    cases before with
    | nil =>
      obtain ⟨rfl, rfl⟩ := List.cons.inj hsplit
      exact .inr ⟨hfield, hafter⟩
    | cons b before =>
      obtain ⟨rfl, rfl⟩ := List.cons.inj hsplit
      exact .inl ⟨before, t, after, rfl, hfield, hafter⟩
  · rintro (⟨before, t, after, rfl, hfield, hafter⟩ | ⟨hfield, hafter⟩)
    · exact ⟨text :: before, t, after, rfl, hfield, hafter⟩
    · exact ⟨[], text, texts, rfl, hfield, hafter⟩

/-- Under the name of any field there is a last one. -/
theorem exists_isLast {texts : List String} {text : String} {field : String × Bytes}
    (hmem : text ∈ texts) (hfield : IsField NoControl text field) :
    ∃ value, IsLast texts (field.1, value) := by
  induction texts generalizing text field with
  | nil => cases hmem
  | cons first texts ih =>
    -- a later field of the name is followed to the last of them; without one the field is the last
    by_cases hlater : ∃ t ∈ texts, ∃ other, IsField NoControl t other ∧ other.1 = field.1
    · obtain ⟨t, ht, other, hother, hname⟩ := hlater
      obtain ⟨value, hlast⟩ := ih ht hother
      exact ⟨value, isLast_cons.mpr (.inl (hname ▸ hlast))⟩
    · have hnone : ∀ t ∈ texts, ∀ other, IsField NoControl t other → other.1 ≠ field.1 :=
        fun t ht other hother hname => hlater ⟨t, ht, other, hother, hname⟩
      rcases List.mem_cons.mp hmem with rfl | htail
      · exact ⟨field.2, isLast_cons.mpr (.inr ⟨hfield, hnone⟩)⟩
      · exact absurd rfl (hnone text htail field hfield)

theorem addAll_cons_of_isField {text : String} {field : String × Bytes}
    (hfield : IsField NoControl text field) (headers : Headers) (texts : List String) :
    headers.addAll (text :: texts) = (put field.1 field.2 headers).addAll texts := by
  rw [addAll, parseField?_eq_some_iff.mpr hfield]

theorem addAll_cons_of_not {text : String} (hnot : ¬∃ field, IsField NoControl text field)
    (headers : Headers) (texts : List String) :
    headers.addAll (text :: texts) = .error (.invalidHeader text) := by
  have hnone : parseField? text = none := by
    rw [Option.eq_none_iff_forall_ne_some]
    exact fun field hfield => hnot ⟨field, parseField?_eq_some_iff.mp hfield⟩
  rw [addAll, hnone]

/-- **Texts are added if all are fields.** -/
theorem addAll_ok_iff (headers : Headers) (texts : List String) :
    (∃ result, headers.addAll texts = .ok result) ↔
      ∀ text ∈ texts, ∃ field, IsField NoControl text field := by
  induction texts generalizing headers with
  | nil => exact iff_of_true ⟨headers, rfl⟩ (by simp)
  | cons text texts ih =>
    rw [List.forall_mem_cons]
    by_cases hfield : ∃ field, IsField NoControl text field
    · obtain ⟨field, h⟩ := hfield
      rw [addAll_cons_of_isField h, ih]
      exact ⟨fun hall => ⟨⟨field, h⟩, hall⟩, fun hall => hall.2⟩
    · rw [addAll_cons_of_not hfield]
      exact iff_of_false (by simp) fun hall => hfield hall.1

/-- **Otherwise the first text that is no field is told.** -/
theorem addAll_eq_error_iff (headers : Headers) (texts : List String) (e : LoadError) :
    headers.addAll texts = .error e ↔ ∃ before text after, texts = before ++ text :: after ∧
      (∀ t ∈ before, ∃ field, IsField NoControl t field) ∧
      (¬∃ field, IsField NoControl text field) ∧ e = .invalidHeader text := by
  induction texts generalizing headers with
  | nil => exact iff_of_false (by simp [addAll]) (by simp)
  | cons text texts ih =>
    by_cases hfield : ∃ field, IsField NoControl text field
    · obtain ⟨field, h⟩ := hfield
      rw [addAll_cons_of_isField h, ih]
      constructor
      · rintro ⟨before, t, after, rfl, hbefore, hnot, he⟩
        exact ⟨text :: before, t, after, rfl, List.forall_mem_cons.mpr ⟨⟨field, h⟩, hbefore⟩,
          hnot, he⟩
      · rintro ⟨before, t, after, hsplit, hbefore, hnot, he⟩
        cases before with
        | nil => exact absurd ⟨field, (List.cons.inj hsplit).1 ▸ h⟩ hnot
        | cons b before =>
          obtain ⟨rfl, rfl⟩ := List.cons.inj hsplit
          exact ⟨before, t, after, rfl, (List.forall_mem_cons.mp hbefore).2, hnot, he⟩
    · rw [addAll_cons_of_not hfield]
      constructor
      · intro he
        exact ⟨[], text, texts, rfl, by simp, hfield, (Except.error.inj he).symm⟩
      · rintro ⟨before, t, after, hsplit, hbefore, hnot, rfl⟩
        cases before with
        | nil => rw [(List.cons.inj hsplit).1]
        | cons b before =>
          exact absurd ((List.cons.inj hsplit).1 ▸ hbefore b List.mem_cons_self) hfield

/-- **The last field of each name stays**, and of the fields that were there those that are not
replaced. -/
theorem mem_addAll_iff {texts : List String} {result : Headers}
    (hnodup : (headers.map Prod.fst).Nodup) (h : headers.addAll texts = .ok result) :
    (result.map Prod.fst).Nodup ∧ ∀ field, field ∈ result ↔ IsLast texts field ∨
      field ∈ headers ∧ ∀ t ∈ texts, ∀ other, IsField NoControl t other → other.1 ≠ field.1 := by
  induction texts generalizing headers with
  | nil =>
    obtain rfl := Except.ok.inj h
    exact ⟨hnodup, fun field => by simp [not_isLast_nil]⟩
  | cons text texts ih =>
    by_cases hfield : ∃ field, IsField NoControl text field
    · obtain ⟨new, hnew⟩ := hfield
      rw [addAll_cons_of_isField hnew] at h
      obtain ⟨hresult, hmem⟩ := ih (nodup_put hnodup) h
      refine ⟨hresult, fun field => ?_⟩
      have honly (other) : IsField NoControl text other ↔ other = new := by
        rw [← parseField?_eq_some_iff, parseField?_eq_some_iff.mpr hnew, Option.some.injEq, eq_comm]
      have hput : field ∈ put new.1 new.2 headers ↔
          if field.1 = new.1 then field.2 = new.2 else field ∈ headers := mem_put_iff hnodup
      rw [hmem, isLast_cons, List.forall_mem_cons, hput, or_assoc]
      refine or_congr_right ?_
      split_ifs with hname
      · simp [honly, Prod.ext_iff, hname]
      · simp [honly, Prod.ext_iff, hname, Ne.symm hname]
    · rw [addAll_cons_of_not hfield] at h
      cases h

/-! ## All texts -/

/-- The name of a field is visible and in small letters, and there is no control character in its
value. -/
theorem IsField.clean {text : String} {field : String × Bytes} (h : IsField NoControl text field) :
    (∀ c ∈ field.1.toList, 0x20 < c.toNat ∧ c.toNat < 0x7f ∧ c.isUpper = false) ∧
      ∀ b ∈ field.2, NoControl b := by
  refine ⟨fun c hc => ?_, h.allowed⟩
  obtain ⟨-, -, -, -, htoken, -, -⟩ := h
  rw [String.toList_ofList] at hc
  obtain ⟨d, hd, rfl⟩ := List.mem_map.mp hc
  obtain ⟨hlower, hsmall⟩ := toLower_of_isTokenChar (htoken d hd)
  obtain ⟨hfrom, hto⟩ := bounds_of_isTokenChar hlower
  exact ⟨hfrom, hto, hsmall⟩

/-- **What comes of texts.** They are taken exactly if all are fields. Then each name occurs once,
in small letters, with the value of the last field that has it; no field is without its name, and
no control characters but tabs are in names and values. If they are not taken, what is told is the
first text that is no field. -/
theorem parse_last_fields (texts : List String) :
    ((∃ headers, parse texts = .ok headers) ↔
        ∀ text ∈ texts, ∃ field, IsField NoControl text field) ∧
      (∀ headers, parse texts = .ok headers →
        (headers.map Prod.fst).Nodup ∧
          (∀ field, field ∈ headers ↔ IsLast texts field) ∧
          (∀ text ∈ texts, ∀ field, IsField NoControl text field →
            ∃ value, (field.1, value) ∈ headers) ∧
          ∀ field ∈ headers,
            (∀ c ∈ field.1.toList, 0x20 < c.toNat ∧ c.toNat < 0x7f ∧ c.isUpper = false) ∧
              ∀ b ∈ field.2, NoControl b) ∧
      ∀ e, parse texts = .error e ↔ ∃ before text after, texts = before ++ text :: after ∧
        (∀ t ∈ before, ∃ field, IsField NoControl t field) ∧
        (¬∃ field, IsField NoControl text field) ∧ e = .invalidHeader text := by
  refine ⟨addAll_ok_iff [] texts, fun headers h => ?_, addAll_eq_error_iff [] texts⟩
  have hnil : (([] : Headers).map Prod.fst).Nodup := List.nodup_nil
  obtain ⟨hnodup, hmem⟩ := mem_addAll_iff hnil h
  have hlast (field) : field ∈ headers ↔ IsLast texts field := by simp [hmem]
  refine ⟨hnodup, hlast, fun text htext field hfield => ?_, fun field hfield => ?_⟩
  · obtain ⟨value, hvalue⟩ := exists_isLast htext hfield
    exact ⟨value, (hlast _).mpr hvalue⟩
  · obtain ⟨before, text, after, -, hlastField, -⟩ := (hlast field).mp hfield
    exact hlastField.clean

/-- Of two fields of one name the later one counts, in whatever case the name is written. -/
example : parse ["Accept: 1", "X-Id: 7", "ACCEPT :  2 "] =
    .ok [("accept", [0x32]), ("x-id", [0x37])] := by rfl

/-- Visible characters of ASCII, blanks and tabs. -/
def Visible (b : UInt8) : Prop := b = 0x09 ∨ 0x20 ≤ b ∧ b ≤ 0x7e

/-- **A value need not be ASCII**: a letter with an accent is taken, as two bytes that are not. -/
theorem parse_beyond_ascii :
    (∃ headers, parse ["X: \u00e9"] = .ok headers) ∧
      ¬∀ text ∈ ["X: \u00e9"], ∃ field, IsField Visible text field := by
  have hread : parseField? "X: \u00e9" = some ("x", [0xc3, 0xa9]) := by decide
  refine ⟨⟨[("x", [0xc3, 0xa9])], by rw [parse, addAll, hread]; rfl⟩, fun hall => ?_⟩
  obtain ⟨field, hfield⟩ := hall _ List.mem_cons_self
  have hvisible : ∀ b, Visible b → NoControl b := by
    rintro b (htab | ⟨hlower, hupper⟩)
    · exact .inl htab
    · refine .inr ⟨hlower, ?_⟩
      rintro rfl
      exact absurd hupper (by decide)
  rw [parseField?_eq_some_iff.mpr (hfield.mono hvisible)] at hread
  obtain rfl := Option.some.inj hread
  have hbyte : Visible 0xc3 := hfield.allowed 0xc3 List.mem_cons_self
  unfold Visible at hbyte
  exact absurd hbyte (by decide)

end Headers

end HttpLoad
