import Mathlib.Tactic.Choose
import HttpLoad.Proofs.Json.Canonical

/-!
# Canonical values are written without loss

The compact text of a value that the reader can answer with is a written value without blanks, which
nests as deep as the value does. A correctly rounding reader makes of it the value that was printed.

## Main definitions

* `Pieces.StandsFor`: how pieces are written, and what they stand for before any other ones
* `Json.Prints`: a written value is the compact text of a value and stands for it
* `Written.Compact`: a written value has no blanks, and its keys ascend by their bytes

## Main results

* `Json.exists_pieces_quotedChars`: a text is written as pieces that stand for it
* `Canonical.exists_prints`: every canonical value is printed, and that compactly
-/

namespace HttpLoad

/-!
## Texts are written as text tokens

A text between quotes is a text token, which the reader takes for the text that was written. Each
character becomes an escape or the bytes of its UTF-8 form.
-/

namespace Json

namespace Pieces

/-- **Pieces are written like this, and stand for that**, whatever follows them. -/
structure StandsFor (ps : Pieces) (written content : Bytes) : Prop where
  bytes : ps.bytes = written
  content : ∀ qs : Pieces, content? (ps ++ qs) = (content? qs).map (content ++ ·)

namespace StandsFor

theorem nil : StandsFor [] [] [] := ⟨rfl, fun qs => by simp⟩

theorem append {ps qs : Pieces} {w w' c c' : Bytes} (hps : ps.StandsFor w c)
    (hqs : qs.StandsFor w' c') : (ps ++ qs).StandsFor (w ++ w') (c ++ c') := by
  refine ⟨?_, fun rs => ?_⟩
  · rw [← hps.bytes, ← hqs.bytes]
    exact List.flatMap_append ..
  · rw [List.append_assoc, hps.content, hqs.content, Option.map_map]
    congr 1
    funext c
    exact (List.append_assoc ..).symm

theorem plain {b : UInt8} (hb : 0x20 ≤ b ∧ b ≠ 0x22 ∧ b ≠ 0x5c) : StandsFor [.plain b hb] [b] [b] :=
  ⟨rfl, fun _ => rfl⟩

theorem short {e b : UInt8} (he : escaped e = some b) :
    StandsFor [.short e b he] [0x5c, e] [b] :=
  ⟨rfl, fun _ => rfl⟩

theorem quad {a b c d : UInt8} {n : Nat} (hn : hexQuad a b c d = some n)
    (hlow : isLowSurrogate n = false) (hhigh : isHighSurrogate n = false) :
    StandsFor [.quad a b c d n hn] [0x5c, 0x75, a, b, c, d] (ofCodePoint n) :=
  ⟨rfl, fun qs => content?_quad hn qs hlow hhigh⟩

end StandsFor

/-- Bytes that stand for themselves. -/
theorem exists_plain {bs : Bytes} (hbs : ∀ b ∈ bs, 0x20 ≤ b ∧ b ≠ 0x22 ∧ b ≠ 0x5c) :
    ∃ ps : Pieces, ps.StandsFor bs bs := by
  induction bs with
  | nil => exact ⟨[], .nil⟩
  | cons b bs ih =>
    obtain ⟨hb, hbs⟩ := List.forall_mem_cons.mp hbs
    obtain ⟨ps, hps⟩ := ih hbs
    exact ⟨_, (StandsFor.plain hb).append hps⟩

/-- The byte of a hexadecimal digit. -/
def hexByte (n : Nat) : UInt8 := UInt8.ofNat (hexDigit n).toNat

/-- A control character is escaped by its code point. -/
theorem exists_control {c : Char} (hc : c.toNat < 0x20) : ∃ ps : Pieces,
    ps.StandsFor (Bytes.ofChars
        ['\\', 'u', '0', '0', hexDigit (c.toNat / 16), hexDigit (c.toNat % 16)])
      (String.utf8EncodeChar c) := by
  have hdigits : ∀ n < 0x20,
      Bytes.ofChars ['\\', 'u', '0', '0', hexDigit (n / 16), hexDigit (n % 16)] =
        [0x5c, 0x75, 0x30, 0x30, hexByte (n / 16), hexByte (n % 16)] := by decide
  have hquad : ∀ n < 0x20, hexQuad 0x30 0x30 (hexByte (n / 16)) (hexByte (n % 16)) = some n := by
    decide
  have hchar : ofCodePoint c.toNat = String.utf8EncodeChar c := by
    rw [ofCodePoint, Char.ofNat_toNat]
  rw [hdigits _ hc, ← hchar]
  exact ⟨_, .quad (hquad _ hc) (by simp [isLowSurrogate]; omega) (by simp [isHighSurrogate]; omega)⟩

/-- The bytes of a character that is not escaped stand for themselves. -/
theorem plain_of_mem_utf8EncodeChar {c : Char} (hquote : c ≠ '"') (hbackslash : c ≠ '\\')
    (hcontrol : ¬c.toNat < 0x20) :
    ∀ b ∈ String.utf8EncodeChar c, 0x20 ≤ b ∧ b ≠ 0x22 ∧ b ≠ 0x5c := by
  intro b hb
  rcases Nat.lt_or_ge c.toNat 0x80 with hascii | hlarge
  · rw [Bytes.utf8EncodeChar_of_lt hascii, List.mem_singleton] at hb
    have hbyte : b.toNat = c.toNat :=
      hb ▸ UInt8.toNat_ofNat_of_lt' (hascii.trans (by decide))
    refine ⟨UInt8.le_iff_toNat_le.mpr (hbyte ▸ Nat.le_of_not_lt hcontrol), ?_, ?_⟩
    · rintro rfl
      exact hquote (Char.toNat_inj.mp hbyte.symm)
    · rintro rfl
      exact hbackslash (Char.toNat_inj.mp hbyte.symm)
  · have hb := UInt8.le_iff_toNat_le.mp (Bytes.le_of_mem_utf8EncodeChar hlarge b hb)
    refine ⟨UInt8.le_iff_toNat_le.mpr (Nat.le_trans (by decide) hb), ?_, ?_⟩
    · rintro rfl
      exact absurd hb (by decide)
    · rintro rfl
      exact absurd hb (by decide)

/-- **A character is written as pieces** that stand for it. -/
theorem exists_escapeChar (c : Char) : ∃ ps : Pieces,
    ps.StandsFor (Bytes.ofChars (escapeChar c)) (String.utf8EncodeChar c) := by
  unfold escapeChar
  split_ifs with hquote hbackslash hn hr ht hb hf hcontrol
  · subst hquote
    exact ⟨_, .short (e := 0x22) rfl⟩
  · subst hbackslash
    exact ⟨_, .short (e := 0x5c) rfl⟩
  · subst hn
    exact ⟨_, .short (e := 0x6e) rfl⟩
  · subst hr
    exact ⟨_, .short (e := 0x72) rfl⟩
  · subst ht
    exact ⟨_, .short (e := 0x74) rfl⟩
  · subst hb
    exact ⟨_, .short (e := 0x62) rfl⟩
  · subst hf
    exact ⟨_, .short (e := 0x66) rfl⟩
  · exact exists_control hcontrol
  · rw [Bytes.ofChars_cons, Bytes.ofChars_nil, List.append_nil]
    exact exists_plain (plain_of_mem_utf8EncodeChar hquote hbackslash hcontrol)

/-- Characters are written as pieces that stand for them. -/
theorem exists_escapeChars (cs : List Char) : ∃ ps : Pieces,
    ps.StandsFor (Bytes.ofChars (cs.flatMap escapeChar)) (Bytes.ofChars cs) := by
  induction cs with
  | nil => exact ⟨[], .nil⟩
  | cons c cs ih =>
    obtain ⟨ps, hps⟩ := exists_escapeChar c
    obtain ⟨qs, hqs⟩ := ih
    refine ⟨ps ++ qs, ?_⟩
    rw [List.flatMap_cons, Bytes.ofChars_append, Bytes.ofChars_cons]
    exact hps.append hqs

end Pieces

/-- **A text is written as a text token** that stands for it. -/
theorem exists_pieces_quotedChars (s : String) :
    ∃ ps : Pieces, ps.quoted = Bytes.ofChars (quotedChars s) ∧ ps.string? = some s := by
  obtain ⟨ps, hps⟩ := Pieces.exists_escapeChars s.toList
  refine ⟨ps, ?_, ?_⟩
  · rw [Pieces.quoted, hps.bytes, quotedChars, Bytes.ofChars_append]
    rfl
  · have hcontent := hps.content []
    rw [List.append_nil, Pieces.content?, Option.map_some, List.append_nil] at hcontent
    rw [Pieces.string?, hcontent]
    exact Bytes.toString?_ofString s

end Json

/-! ## Values -/

namespace Json

/-- Something without blanks around it. -/
def Spaced.tight (a : α) : Spaced α := ⟨.none, a, .none⟩

/-- **A written value is the compact text of a value**, and stands for it with its numerals read
exactly. All its numerals have a property. -/
structure Prints (Q : Numeral → Prop) (bound : Nat) (v : Json) (w : Written) : Prop where
  text : ∀ rest, Bytes.ofChars (compactThen v rest) = w.bytes ++ Bytes.ofChars rest
  value : w.value Numeral.exact = v
  depth : w.depth ≤ bound
  numbers : ∀ n, .number n ∈ w.tokens → Q n
  texts : ∀ ps, .text ps ∈ w.tokens → ps.string?.isSome

/-- A key and a written value are the compact text of a member. -/
structure PrintsMember (Q : Numeral → Prop) (bound : Nat) (m : String × Json)
    (x : Pieces × Written) : Prop where
  quoted : x.1.quoted = Bytes.ofChars (quotedChars m.1)
  string : x.1.string? = some m.1
  value : Prints Q bound m.2 x.2

/-- A member without blanks. -/
def tightMember (x : Pieces × Written) : Spaced Pieces × Spaced Written := (.tight x.1, .tight x.2)

/-- **A written value is compact**: there are no blanks between its tokens and signs, and the keys
of each object ascend strictly by their bytes. -/
inductive Written.Compact : Written → Prop
  | null : Compact .null
  | bool (b : Bool) : Compact (.bool b)
  | number (n : Numeral) : Compact (.number n)
  | text (ps : Pieces) : Compact (.text ps)
  | list {items : List Written} (hitems : ∀ w ∈ items, Compact w) :
    Compact (.list .none (items.map Spaced.tight))
  | object {members : List (Pieces × Written)}
    (hkeys : members.Pairwise fun x y =>
      Bytes.ofString x.1.string < Bytes.ofString y.1.string)
    (hmembers : ∀ x ∈ members, Compact x.2) :
    Compact (.object .none (members.map tightMember))

variable {Q : Numeral → Prop} {bound : Nat}

/-! ### Scalars -/

theorem Prints.null : Prints Q bound null .null where
  text _ := Bytes.ofChars_append ..
  value := rfl
  depth := Nat.zero_le _
  numbers _ h := absurd h List.not_mem_nil
  texts _ h := absurd h List.not_mem_nil

theorem Prints.bool (b : Bool) : Prints Q bound (bool b) (.bool b) where
  text _ := by cases b <;> exact Bytes.ofChars_append ..
  value := rfl
  depth := Nat.zero_le _
  numbers _ h := absurd h List.not_mem_nil
  texts _ h := absurd h List.not_mem_nil

theorem exists_prints_number {v : Json} (hv : v.PrintedAs Q) :
    ∃ w, Prints Q bound v w ∧ w.Compact := by
  obtain ⟨hnumber, n, hbytes, hexact, hn⟩ := hv
  have htext : ∀ rest, compactThen v rest = scalarChars v ++ rest := by
    intro rest
    cases v <;> first | rfl | exact absurd hnumber id
  refine ⟨.number n, ⟨fun rest => ?_, hexact, Nat.zero_le _, fun m h => ?_, fun ps h => ?_⟩,
    .number n⟩
  · rw [htext, Bytes.ofChars_append, Written.bytes, hbytes]
  · obtain rfl := Token.number.inj (List.mem_singleton.mp h)
    exact hn
  · exact absurd (List.mem_singleton.mp h) (by simp)

theorem exists_prints_text (s : String) : ∃ w, Prints Q bound (text s) w ∧ w.Compact := by
  obtain ⟨ps, hquoted, hstring⟩ := exists_pieces_quotedChars s
  refine ⟨.text ps, ⟨fun rest => ?_, ?_, Nat.zero_le _, fun n h => ?_, fun qs h => ?_⟩, .text ps⟩
  · rw [Written.bytes, hquoted, ← Bytes.ofChars_append]
    rfl
  · rw [Written.value, Pieces.string, hstring]
    rfl
  · exact absurd (List.mem_singleton.mp h) (by simp)
  · obtain rfl : qs = ps := Token.text.inj (List.mem_singleton.mp h)
    rw [hstring]
    rfl

/-! ### Lists -/

section

variable {print : Json → Written} {items : List Json}
  (h : ∀ v ∈ items, Prints Q bound v (print v))

include h

theorem itemsBytes_tight (first : Bool) (rest : List Char) :
    Bytes.ofChars (compactItems first items rest) =
      Written.itemsBytes first (items.map fun v => .tight (print v)) ++ Bytes.ofChars rest := by
  induction items generalizing first with
  | nil => rfl
  | cons v items ih =>
    obtain ⟨hv, hitems⟩ := List.forall_mem_cons.mp h
    have htext : Bytes.ofChars (compactItems first (v :: items) rest) =
        comma first ++ Bytes.ofChars (compactThen v (compactItems false items rest)) := by
      cases first <;> rfl
    rw [htext, hv.text, ih hitems, List.map_cons, Written.itemsBytes_cons]
    simp [Spaced.tight, Blanks.none]

/-- A list is printed if its items are. -/
theorem Prints.list :
    Prints Q (bound + 1) (list items) (.list .none (items.map fun v => .tight (print v))) where
  text rest := by
    change 0x5b :: Bytes.ofChars (compactItems true items (']' :: rest)) = _
    rw [itemsBytes_tight h, Written.bytes]
    simp [Blanks.none]
    rfl
  value := by
    rw [Written.value, Written.itemsValue_eq_map, List.map_map]
    refine congrArg Json.list (Eq.trans (List.map_congr_left fun v hv => ?_) (List.map_id' items))
    exact (h v hv).value
  depth := by
    rw [Written.depth, Nat.add_le_add_iff_right, Written.itemsDepth_le]
    exact List.forall_mem_map.mpr fun v hv => (h v hv).depth
  numbers n hn := by
    obtain ⟨x, hx, hn⟩ := Written.mem_itemsTokens.mp hn
    obtain ⟨v, hv, rfl⟩ := List.mem_map.mp hx
    exact (h v hv).numbers n hn
  texts ps hps := by
    obtain ⟨x, hx, hps⟩ := Written.mem_itemsTokens.mp hps
    obtain ⟨v, hv, rfl⟩ := List.mem_map.mp hx
    exact (h v hv).texts ps hps

end

/-! ### Objects -/

section

variable {print : String × Json → Pieces × Written} {members : List (String × Json)}
  (h : ∀ m ∈ members, PrintsMember Q bound m (print m))

include h

theorem membersBytes_tight (first : Bool) (rest : List Char) :
    Bytes.ofChars (compactMembers first members rest) =
      Written.membersBytes first (members.map fun m => tightMember (print m)) ++
        Bytes.ofChars rest := by
  induction members generalizing first with
  | nil => rfl
  | cons m members ih =>
    obtain ⟨hm, hmembers⟩ := List.forall_mem_cons.mp h
    have hcolon : ∀ cs, Bytes.ofChars (':' :: cs) = 0x3a :: Bytes.ofChars cs := fun _ => rfl
    have htext : Bytes.ofChars (compactMembers first (m :: members) rest) =
        comma first ++ (Bytes.ofChars (quotedChars m.1) ++
          0x3a :: Bytes.ofChars (compactThen m.2 (compactMembers false members rest))) := by
      rw [← hcolon, ← Bytes.ofChars_append]
      cases first <;> rfl
    rw [htext, hm.value.text, ih hmembers, ← hm.quoted, List.map_cons, tightMember,
      Written.membersBytes_cons]
    simp [Spaced.tight, Blanks.none, keyBytes]

/-- Members with ascending keys are put one behind the other. -/
theorem membersValue_tight {read : List (String × Json)} (hsorted : Ascending (read ++ members)) :
    Written.membersValue Numeral.exact read (members.map fun m => tightMember (print m)) =
      read ++ members := by
  induction members generalizing read with
  | nil => exact (List.append_nil read).symm
  | cons m members ih =>
    obtain ⟨hm, hmembers⟩ := List.forall_mem_cons.mp h
    have hlt : ∀ m' ∈ read, m'.1 < m.1 := fun m' hm' =>
      (List.pairwise_append.mp hsorted).2.2 m' hm' m List.mem_cons_self
    have hput : putMember (print m).1.string ((print m).2.value Numeral.exact) read =
        read ++ [m] := by
      rw [Pieces.string, hm.string, hm.value.value]
      exact putMember_of_lt hlt
    rw [List.map_cons, tightMember, Written.membersValue_cons]
    simp only [Spaced.tight]
    rw [List.append_cons] at hsorted ⊢
    rw [hput]
    exact ih hmembers hsorted

theorem Prints.object (hsorted : Ascending members) : Prints Q (bound + 1) (object members)
    (.object .none (members.map fun m => tightMember (print m))) where
  text rest := by
    change 0x7b :: Bytes.ofChars (compactMembers true members ('\x7d' :: rest)) = _
    rw [membersBytes_tight h, Written.bytes]
    simp [Blanks.none]
    rfl
  value := congrArg Json.object (membersValue_tight h hsorted)
  depth := by
    rw [Written.depth, Nat.add_le_add_iff_right, Written.membersDepth_le]
    exact List.forall_mem_map.mpr fun m hm => (h m hm).value.depth
  numbers n hn := by
    obtain ⟨x, hx, hn⟩ := Written.mem_membersTokens.mp hn
    obtain ⟨m, hm, rfl⟩ := List.mem_map.mp hx
    exact (h m hm).value.numbers n (hn.resolve_left (by simp))
  texts ps hps := by
    obtain ⟨x, hx, hps⟩ := Written.mem_membersTokens.mp hps
    obtain ⟨m, hm, rfl⟩ := List.mem_map.mp hx
    rcases hps with hps | hps
    · obtain rfl := Token.text.inj hps
      exact (h m hm).string ▸ rfl
    · exact (h m hm).value.texts ps hps

end

/-- Sorted members have keys that ascend by their bytes. -/
theorem pairwise_keys {print : String × Json → Pieces × Written} {members : List (String × Json)}
    (hsorted : Ascending members) (h : ∀ m ∈ members, (print m).1.string? = some m.1) :
    (members.map print).Pairwise fun x y =>
      Bytes.ofString x.1.string < Bytes.ofString y.1.string := by
  refine List.pairwise_map.mpr (hsorted.imp_of_mem fun {m m'} hm hm' hlt => ?_)
  rw [Pieces.string, Pieces.string, h m hm, h m' hm']
  exact Bytes.ofString_lt hlt

/-- **Every canonical value is printed** as a compact written value that stands for it. -/
theorem Canonical.exists_prints {v : Json} (h : v.Canonical (PrintedAs Q) bound) :
    ∃ w, Prints Q bound v w ∧ w.Compact := by
  have : Nonempty Written := ⟨.null⟩
  induction h with
  | null => exact ⟨_, .null, .null⟩
  | bool b => exact ⟨_, .bool b, .bool b⟩
  | number hv => exact exists_prints_number hv
  | text s => exact exists_prints_text s
  | @list bound items _ ih =>
    choose! print hprint hcompact using ih
    refine ⟨_, .list hprint, ?_⟩
    have hlist := Written.Compact.list (List.forall_mem_map.mpr hcompact)
    rwa [List.map_map] at hlist
  | @object bound members hsorted _ ih =>
    have hmembers : ∀ m ∈ members, ∃ x, PrintsMember Q bound m x ∧ x.2.Compact := by
      intro m hm
      obtain ⟨w, hw, hcompact⟩ := ih m hm
      obtain ⟨ps, hquoted, hstring⟩ := exists_pieces_quotedChars m.1
      exact ⟨(ps, w), ⟨hquoted, hstring, hw⟩, hcompact⟩
    choose! print hprint hcompact using hmembers
    refine ⟨_, .object hprint hsorted, ?_⟩
    have hkeys := pairwise_keys hsorted fun m hm => (hprint m hm).string
    have hobject := Written.Compact.object hkeys (List.forall_mem_map.mpr hcompact)
    rwa [List.map_map] at hobject

end Json

end HttpLoad
