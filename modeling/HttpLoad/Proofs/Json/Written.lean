import HttpLoad.Proofs.Basic
import HttpLoad.Proofs.Json.NumeralValue

/-!
# Written values

The grammar of JSON, as a tree that keeps everything that a text shows: blanks, numerals, the pieces
of texts, members in their order and more than once. Its bytes are the text. What it stands for
is read off the tree, with the numerals taken as a given reader takes them.

## Main definitions

* `Json.Piece`: a byte or an escape, with `Piece.bytes`
* `Json.Pieces.content?`: the bytes that pieces stand for, if every surrogate has its partner
* `Json.Pieces.string?`: the text that pieces stand for, if they do
* `Json.Written`: a value as it is written, with `Written.bytes`
* `Written.value`: what it stands for; of members with one key the last one stays
* `Written.depth`, `Written.tokens`: how deep it nests, and the numbers and texts in it
* `Written.Accepted`: it nests no deeper than a bound, and all its tokens are readable

## Main results

* `Json.readText_pieces`: pieces between quotes are read as the text they stand for
* `Json.exists_pieces_of_readText`: whatever is read as a text is pieces and a quote
-/

namespace HttpLoad

/-!
## Text tokens

The text tokens of the grammar of JSON. What stands between the quotes is a sequence of pieces:
bytes that stand for themselves and escapes. It need not make a text, as surrogates may be alone
and bytes may be no UTF-8. The reader takes exactly such sequences, and refuses those that make no
text.
-/

namespace Json

/-- **A byte or an escape** inside a text. -/
inductive Piece where
  | plain (b : UInt8) (is_plain : 0x20 ≤ b ∧ b ≠ 0x22 ∧ b ≠ 0x5c)
  | short (e b : UInt8) (is_escape : escaped e = some b)
  | quad (a b c d : UInt8) (n : Nat) (is_hex : hexQuad a b c d = some n)

/-- The bytes of a piece. -/
def Piece.bytes : Piece → Bytes
  | plain b _ => [b]
  | short e _ _ => [0x5c, e]
  | quad a b c d _ _ => [0x5c, 0x75, a, b, c, d]

/-- What stands between the quotes of a text. -/
abbrev Pieces := List Piece

namespace Pieces

def bytes (ps : Pieces) : Bytes := ps.flatMap Piece.bytes

/-- The UTF-8 form of a code point. -/
def ofCodePoint (n : Nat) : Bytes := String.utf8EncodeChar (Char.ofNat n)

/-- The code point that a pair of surrogates stands for. -/
def ofSurrogates (high low : Nat) : Nat := 0x10000 + 0x400 * (high - 0xD800) + (low - 0xDC00)

/-- **The bytes that pieces stand for**, if every surrogate has its partner. -/
def content? : Pieces → Option Bytes
  | [] => some []
  | .plain b _ :: ps => (content? ps).map (b :: ·)
  | .short _ b _ :: ps => (content? ps).map (b :: ·)
  | .quad _ _ _ _ n _ :: ps =>
    if isLowSurrogate n then none
    else if !isHighSurrogate n then (content? ps).map (ofCodePoint n ++ ·)
    else
      match ps with
      | .quad _ _ _ _ low _ :: ps =>
        if isLowSurrogate low then (content? ps).map (ofCodePoint (ofSurrogates n low) ++ ·)
        else none
      | _ => none

/-- **The text that pieces stand for**, if they stand for one. -/
def string? (ps : Pieces) : Option String := ps.content?.bind Bytes.toString?

end Pieces

/-! ### Reading one piece -/

section

variable (read : Bytes) {b e : UInt8} (rest : Bytes)

theorem readChars_quote : readChars read (0x22 :: rest) = .ok (read.reverse, rest) := rfl

theorem readChars_plain (hb : 0x20 ≤ b ∧ b ≠ 0x22 ∧ b ≠ 0x5c) :
    readChars read (b :: rest) = readChars (b :: read) rest := by
  obtain ⟨hspace, hquote, hbackslash⟩ := hb
  rw [readChars]
  · exact if_neg (UInt8.not_lt.mpr hspace)
  all_goals simp_all

theorem ne_u_of_escaped (he : escaped e = some b) : e ≠ 0x75 := by
  rintro rfl
  have hu : escaped 0x75 = none := by decide
  exact absurd (hu.symm.trans he) (by simp)

theorem readChars_short (he : escaped e = some b) :
    readChars read (0x5c :: e :: rest) = readChars (b :: read) rest := by
  have hu := ne_u_of_escaped he
  rw [readChars]
  all_goals simp_all

variable {a b c d : UInt8} {n : Nat} (hn : hexQuad a b c d = some n)

include hn

/-- An escape by code point is read alone, unless it is a first surrogate. -/
theorem readChars_alone (hhigh : isHighSurrogate n = false) :
    readChars read (0x5c :: 0x75 :: a :: b :: c :: d :: rest) =
      if isLowSurrogate n then .error (.here .loneSurrogate rest)
      else readChars (pushCodePoint n read) rest := by
  rw [readChars]
  simp [hn, hhigh]

theorem readChars_low (hlow : isLowSurrogate n = true) :
    readChars read (0x5c :: 0x75 :: a :: b :: c :: d :: rest) =
      .error (.here .loneSurrogate rest) := by
  have hhigh : isHighSurrogate n = false := by
    simp [isLowSurrogate, isHighSurrogate] at hlow ⊢
    omega
  exact (readChars_alone read rest hn hhigh).trans (if_pos hlow)

theorem readChars_quad (hlow : isLowSurrogate n = false) (hhigh : isHighSurrogate n = false) :
    readChars read (0x5c :: 0x75 :: a :: b :: c :: d :: rest) =
      readChars (pushCodePoint n read) rest :=
  (readChars_alone read rest hn hhigh).trans (if_neg (by simp [hlow]))

theorem readChars_pair (hlow : isLowSurrogate n = false) (hhigh : isHighSurrogate n = true)
    {a' b' c' d' : UInt8} {low : Nat} (hn' : hexQuad a' b' c' d' = some low) :
    readChars read (0x5c :: 0x75 :: a :: b :: c :: d ::
        0x5c :: 0x75 :: a' :: b' :: c' :: d' :: rest) =
      if isLowSurrogate low then
          readChars (pushCodePoint (Pieces.ofSurrogates n low) read) rest
        else .error (.here .loneSurrogate rest) := by
  have hpair : 0x10000 + 0x400 * (n - 0xD800) + (low - 0xDC00) = Pieces.ofSurrogates n low := by
    unfold Pieces.ofSurrogates
    rfl
  conv_lhs => rw [readChars]
  simp only [hn, hlow, hhigh, hn', hpair, Bool.not_true, Bool.false_eq_true, if_false]

/-- A first surrogate is refused before anything that is no escape by code point. -/
theorem readChars_high (hlow : isLowSurrogate n = false) (hhigh : isHighSurrogate n = true)
    {rest : Bytes} (hrest : ∀ tail, rest ≠ 0x5c :: 0x75 :: tail) :
    (readChars read (0x5c :: 0x75 :: a :: b :: c :: d :: rest)).toOption = none := by
  rw [readChars]
  simp only [hn, hlow, hhigh, Bool.not_true, Bool.false_eq_true, if_false]
  split
  next => exact absurd rfl (hrest _)
  next => exact absurd rfl (hrest _)
  all_goals rfl

end

/-! ### Reading pieces -/

/-- Pieces that do not begin with an escape by code point do not begin with its bytes. -/
theorem bytes_ne_quad {ps : Pieces} (hps : ∀ a b c d n hn ps', ps ≠ .quad a b c d n hn :: ps')
    (rest tail : Bytes) : ps.bytes ++ 0x22 :: rest ≠ 0x5c :: 0x75 :: tail := by
  intro h
  match ps with
  | [] => exact absurd (List.cons.inj h).1 (by decide)
  | .plain b hb :: ps => exact hb.2.2 (List.cons.inj h).1
  | .short e b he :: ps => exact ne_u_of_escaped he (List.cons.inj (List.cons.inj h).2).1
  | .quad a b c d n hn :: ps => exact hps a b c d n hn ps rfl

theorem Pieces.bytes_cons (p : Piece) (ps : Pieces) (rest : Bytes) :
    Pieces.bytes (p :: ps) ++ rest = p.bytes ++ (Pieces.bytes ps ++ rest) := by
  rw [Pieces.bytes, List.flatMap_cons, List.append_assoc]
  rfl

section

variable {a b c d : UInt8} {n : Nat} (hn : hexQuad a b c d = some n) (ps : Pieces)

theorem Pieces.content?_low (hlow : isLowSurrogate n = true) :
    Pieces.content? (.quad a b c d n hn :: ps) = none := by
  unfold Pieces.content?
  exact if_pos hlow

theorem Pieces.content?_quad (hlow : isLowSurrogate n = false) (hhigh : isHighSurrogate n = false) :
    Pieces.content? (.quad a b c d n hn :: ps) =
      ps.content?.map (Pieces.ofCodePoint n ++ ·) := by
  conv_lhs => unfold Pieces.content?
  simp [hlow, hhigh]

end

/-- What a piece stands for goes behind what is read already. -/
theorem map_content (piece read rest : Bytes) (content : Option Bytes) :
    (content.map fun c => ((piece.reverse ++ read).reverse ++ c, rest)) =
      (content.map (piece ++ ·)).map fun c => (read.reverse ++ c, rest) := by
  cases content with
  | none => rfl
  | some c => simp

/-- **Pieces are read as what they stand for**, up to the closing quote. -/
theorem readChars_pieces (ps : Pieces) (read rest : Bytes) :
    (readChars read (ps.bytes ++ 0x22 :: rest)).toOption =
      ps.content?.map fun content => (read.reverse ++ content, rest) := by
  induction ps using Pieces.content?.induct generalizing read with
  | case1 =>
    rw [Pieces.content?, Option.map_some, List.append_nil]
    exact congrArg Except.toOption (readChars_quote read rest)
  | case2 b hb ps ih =>
    rw [Pieces.bytes_cons, Piece.bytes, List.singleton_append, readChars_plain _ _ hb, ih,
      Pieces.content?]
    exact map_content [b] read rest _
  | case3 e b he ps ih =>
    rw [Pieces.bytes_cons, Piece.bytes]
    simp only [List.cons_append, List.nil_append]
    rw [readChars_short _ _ he, ih, Pieces.content?]
    exact map_content [b] read rest _
  | case4 a b c d n hn ps hlow =>
    rw [Pieces.bytes_cons, Piece.bytes]
    simp only [List.cons_append, List.nil_append]
    rw [readChars_low _ _ hn hlow, Pieces.content?_low hn ps hlow]
    rfl
  | case5 a b c d n hn ps hlow hhigh ih =>
    rw [Pieces.bytes_cons, Piece.bytes]
    simp only [List.cons_append, List.nil_append]
    have hlow : isLowSurrogate n = false := by simpa using hlow
    have hhigh : isHighSurrogate n = false := by simpa using hhigh
    rw [readChars_quad _ _ hn hlow hhigh, ih, Pieces.content?_quad hn ps hlow hhigh]
    exact map_content (Pieces.ofCodePoint n) read rest _
  | case6 a b c d n hn hlow hhigh a' b' c' d' low hn' ps hlow' ih =>
    rw [Pieces.bytes_cons, Pieces.bytes_cons, Piece.bytes, Piece.bytes]
    simp only [List.cons_append, List.nil_append]
    rw [readChars_pair _ _ hn (by simpa using hlow) (by simpa using hhigh) hn', if_pos hlow', ih,
      Pieces.content?, if_neg hlow, if_neg hhigh]
    simp only [hlow', if_true]
    exact map_content (Pieces.ofCodePoint (Pieces.ofSurrogates n low)) read rest _
  | case7 a b c d n hn hlow hhigh a' b' c' d' low hn' ps hlow' =>
    rw [Pieces.bytes_cons, Pieces.bytes_cons, Piece.bytes, Piece.bytes]
    simp only [List.cons_append, List.nil_append]
    rw [readChars_pair _ _ hn (by simpa using hlow) (by simpa using hhigh) hn', if_neg hlow',
      Pieces.content?, if_neg hlow, if_neg hhigh]
    simp only [hlow']
    rfl
  | case8 a b c d n hn ps hlow hhigh hps =>
    rw [Pieces.bytes_cons, Piece.bytes]
    simp only [List.cons_append, List.nil_append]
    rw [readChars_high _ hn (by simpa using hlow) (by simpa using hhigh) (bytes_ne_quad hps rest),
      Pieces.content?, if_neg hlow, if_neg hhigh]
    · rfl
    · exact hps

/-- Whatever is read up to a closing quote is pieces. -/
theorem exists_pieces_of_readChars {read bytes : Bytes} {result : Bytes × Bytes}
    (h : readChars read bytes = .ok result) :
    ∃ (ps : Pieces) (rest : Bytes), bytes = ps.bytes ++ 0x22 :: rest := by
  fun_induction readChars read bytes
  case case2 read rest => exact ⟨[], rest, rfl⟩
  case case5 read a b c d tail n hn _ _ ih =>
    obtain ⟨ps, rest, rfl⟩ := ih h
    exact ⟨.quad a b c d n hn :: ps, rest, rfl⟩
  case case7 read a b c d n hn _ _ a' b' c' d' tail low hlow _ ih =>
    obtain ⟨ps, rest, rfl⟩ := ih h
    exact ⟨.quad a b c d n hn :: .quad a' b' c' d' low hlow :: ps, rest, rfl⟩
  case case15 read e tail _ _ b he ih =>
    obtain ⟨ps, rest, rfl⟩ := ih h
    exact ⟨.short e b he :: ps, rest, rfl⟩
  case case19 read b tail hquote _ _ hescape hlast hcontrol ih =>
    obtain ⟨ps, rest, rfl⟩ := ih h
    have hbackslash : b ≠ 0x5c := by
      intro hb
      match ps with
      | [] => exact hescape _ _ hb rfl
      | p :: ps => cases p <;> exact hescape _ _ hb rfl
    exact ⟨.plain b ⟨UInt8.not_lt.mp hcontrol, hquote, hbackslash⟩ :: ps, rest, rfl⟩
  all_goals exact absurd h (by simp)

/-! ### Reading a text -/

/-- **Pieces between quotes are read as the text they stand for.** -/
theorem readText_pieces (ps : Pieces) (rest : Bytes) :
    (readText (ps.bytes ++ 0x22 :: rest)).toOption = ps.string?.map fun s => (s, rest) := by
  have hchars := readChars_pieces ps [] rest
  unfold readText Pieces.string?
  cases hread : readChars [] (ps.bytes ++ 0x22 :: rest) with
  | error fault =>
    rw [hread] at hchars
    rw [Option.map_eq_none_iff.mp hchars.symm]
    rfl
  | ok result =>
    rw [hread] at hchars
    obtain ⟨content, hcontent, rfl⟩ := Option.map_eq_some_iff.mp hchars.symm
    rw [hcontent]
    simp only [List.reverse_nil, List.nil_append, Option.bind_some, bind, Except.bind]
    cases Bytes.toString? content with
    | none => rfl
    | some s => rfl

/-- **Whatever is read as a text** is pieces and a quote. -/
theorem exists_pieces_of_readText {bytes rest : Bytes} {s : String}
    (h : readText bytes = .ok (s, rest)) :
    ∃ ps : Pieces, bytes = ps.bytes ++ 0x22 :: rest ∧ ps.string? = some s := by
  obtain ⟨ps, tail, rfl⟩ : ∃ (ps : Pieces) (tail : Bytes), bytes = ps.bytes ++ 0x22 :: tail := by
    unfold readText at h
    cases hread : readChars [] bytes with
    | error fault =>
      rw [hread] at h
      exact absurd h (by simp [bind, Except.bind])
    | ok result => exact exists_pieces_of_readChars hread
  have hread := readText_pieces ps tail
  rw [h] at hread
  obtain ⟨t, ht, hresult⟩ := Option.map_eq_some_iff.mp hread.symm
  obtain ⟨rfl, rfl⟩ := Prod.mk.inj hresult
  exact ⟨ps, rfl, ht⟩

end Json

/-! ## Values -/

namespace Json

/-- **Blanks**, perhaps none. -/
structure Blanks where
  bytes : Bytes
  all_blank : ∀ b ∈ bytes, isBlank b = true

def Blanks.none : Blanks := ⟨[], by simp⟩

/-- Something between blanks. -/
structure Spaced (α : Type) where
  before : Blanks
  item : α
  after : Blanks

/-- **A value as it is written.** The blanks of a list or an object stand behind its bracket. -/
inductive Written where
  | null
  | bool (b : Bool)
  | number (n : Numeral)
  | text (ps : Pieces)
  | list (gap : Blanks) (items : List (Spaced Written))
  | object (gap : Blanks) (members : List (Spaced Pieces × Spaced Written))

/-- A token that is not a mere word or sign. -/
inductive Token where
  | number (n : Numeral)
  | text (ps : Pieces)

/-- Whether the reader makes anything of a token. -/
def Token.readable : Token → Bool
  | number n => n.read?.isSome
  | text ps => ps.string?.isSome

/-- The text that pieces stand for, or the empty one. -/
def Pieces.string (ps : Pieces) : String := ps.string?.getD ""

/-- A text token with its quotes. -/
def Pieces.quoted (ps : Pieces) : Bytes := 0x22 :: (ps.bytes ++ [0x22])

/-- The comma before everything but the first. -/
def comma (first : Bool) : Bytes := if first then [] else [0x2c]

/-- The bytes of a key with its colon. -/
def keyBytes (key : Spaced Pieces) : Bytes :=
  key.before.bytes ++ (key.item.quoted ++ (key.after.bytes ++ [0x3a]))

namespace Written

mutual

/-- **The bytes of a value as it is written.** -/
def bytes : Written → Bytes
  | null => Bytes.ofString "null"
  | bool true => Bytes.ofString "true"
  | bool false => Bytes.ofString "false"
  | number n => n.bytes
  | text ps => ps.quoted
  | list gap items => 0x5b :: (gap.bytes ++ (itemsBytes true items ++ [0x5d]))
  | object gap members => 0x7b :: (gap.bytes ++ (membersBytes true members ++ [0x7d]))

def itemsBytes : Bool → List (Spaced Written) → Bytes
  | _, [] => []
  | first, ⟨before, w, after⟩ :: items =>
    comma first ++ (before.bytes ++ (bytes w ++ (after.bytes ++ itemsBytes false items)))

def membersBytes : Bool → List (Spaced Pieces × Spaced Written) → Bytes
  | _, [] => []
  | first, (key, ⟨before, w, after⟩) :: members =>
    comma first ++ (keyBytes key ++ (before.bytes ++ (bytes w ++
      (after.bytes ++ membersBytes false members))))

end

mutual

/-- **What a written value stands for**, with its numerals taken as `number` says. -/
def value (number : Numeral → Json) : Written → Json
  | null => .null
  | bool b => .bool b
  | .number n => number n
  | text ps => .text ps.string
  | list _ items => .list (itemsValue number items)
  | object _ members => .object (membersValue number [] members)

def itemsValue (number : Numeral → Json) : List (Spaced Written) → List Json
  | [] => []
  | ⟨_, w, _⟩ :: items => value number w :: itemsValue number items

/-- The members put among those so far, one after another. -/
def membersValue (number : Numeral → Json) (read : List (String × Json)) :
    List (Spaced Pieces × Spaced Written) → List (String × Json)
  | [] => read
  | (key, ⟨_, w, _⟩) :: members =>
    membersValue number (putMember key.item.string (value number w) read) members

end

mutual

/-- **How deep a written value nests.** -/
def depth : Written → Nat
  | list _ items => itemsDepth items + 1
  | object _ members => membersDepth members + 1
  | _ => 0

def itemsDepth : List (Spaced Written) → Nat
  | [] => 0
  | ⟨_, w, _⟩ :: items => max (depth w) (itemsDepth items)

def membersDepth : List (Spaced Pieces × Spaced Written) → Nat
  | [] => 0
  | (_, ⟨_, w, _⟩) :: members => max (depth w) (membersDepth members)

end

mutual

/-- **The numbers and texts** in a written value. -/
def tokens : Written → List Token
  | .number n => [.number n]
  | text ps => [.text ps]
  | list _ items => itemsTokens items
  | object _ members => membersTokens members
  | _ => []

def itemsTokens : List (Spaced Written) → List Token
  | [] => []
  | ⟨_, w, _⟩ :: items => tokens w ++ itemsTokens items

def membersTokens : List (Spaced Pieces × Spaced Written) → List Token
  | [] => []
  | (key, ⟨_, w, _⟩) :: members => .text key.item :: (tokens w ++ membersTokens members)

end

/-- **A written value that the reader accepts** where values nest at most `bound` deep. -/
def Accepted (bound : Nat) (w : Written) : Prop :=
  w.depth ≤ bound ∧ ∀ t ∈ w.tokens, t.readable = true

instance (bound : Nat) (w : Written) : Decidable (w.Accepted bound) :=
  inferInstanceAs (Decidable (_ ∧ _))

/-- Written values are gone through from the inside out. -/
theorem induction {motive : Written → Prop} (null : motive .null) (bool : ∀ b, motive (.bool b))
    (number : ∀ n, motive (.number n)) (text : ∀ ps, motive (.text ps))
    (list : ∀ gap items, (∀ i ∈ items, motive i.item) → motive (.list gap items))
    (object : ∀ gap members, (∀ m ∈ members, motive m.2.item) → motive (.object gap members)) :
    ∀ w, motive w := by
  refine @Written.rec motive (fun items => ∀ i ∈ items, motive i.item)
    (fun members => ∀ m ∈ members, motive m.2.item) (fun s => motive s.item)
    (fun m => motive m.2.item) null bool number text list object ?_ ?_ ?_ ?_ ?_ ?_
  case refine_1 => simp
  case refine_2 => simp +contextual
  case refine_3 => simp
  case refine_4 => simp +contextual
  case refine_5 => exact fun _ _ _ h => h
  case refine_6 => exact fun _ _ h => h

/-! ### Items and members one by one -/

section

variable (first : Bool) (x : Spaced Written) (items : List (Spaced Written)) (key : Spaced Pieces)
  (members : List (Spaced Pieces × Spaced Written)) (number : Numeral → Json)
  (read : List (String × Json))

@[simp] theorem itemsBytes_cons : itemsBytes first (x :: items) =
    comma first ++ (x.before.bytes ++ (x.item.bytes ++ (x.after.bytes ++
      itemsBytes false items))) := rfl

@[simp] theorem membersBytes_cons : membersBytes first ((key, x) :: members) =
    comma first ++ (keyBytes key ++ (x.before.bytes ++ (x.item.bytes ++
      (x.after.bytes ++ membersBytes false members)))) := rfl

@[simp] theorem itemsValue_cons : itemsValue number (x :: items) =
    x.item.value number :: itemsValue number items := rfl

@[simp] theorem membersValue_cons : membersValue number read ((key, x) :: members) =
    membersValue number (putMember key.item.string (x.item.value number) read) members := rfl

end

/-! ### What is accepted -/

section

variable {bound : Nat} {gap : Blanks} {items : List (Spaced Written)}
  {members : List (Spaced Pieces × Spaced Written)} {t : Token}

theorem itemsDepth_le : itemsDepth items ≤ bound ↔ ∀ i ∈ items, i.item.depth ≤ bound := by
  induction items with
  | nil => simp [itemsDepth]
  | cons i items ih => simp [itemsDepth, ih]

theorem membersDepth_le : membersDepth members ≤ bound ↔ ∀ m ∈ members, m.2.item.depth ≤ bound := by
  induction members with
  | nil => simp [membersDepth]
  | cons m members ih => simp [membersDepth, ih]

theorem mem_itemsTokens : t ∈ itemsTokens items ↔ ∃ i ∈ items, t ∈ i.item.tokens := by
  induction items with
  | nil => simp [itemsTokens]
  | cons i items ih => simp [itemsTokens, ih]

theorem mem_membersTokens : t ∈ membersTokens members ↔
    ∃ m ∈ members, t = .text m.1.item ∨ t ∈ m.2.item.tokens := by
  induction members with
  | nil => simp [membersTokens]
  | cons m members ih => simp [membersTokens, ih, or_assoc]

theorem not_accepted_list_zero : ¬(list gap items).Accepted 0 := fun h => by
  simpa [depth] using h.1

theorem not_accepted_object_zero : ¬(object gap members).Accepted 0 := fun h => by
  simpa [depth] using h.1

/-- A list is accepted if its items are, one level further in. -/
theorem accepted_list : (list gap items).Accepted (bound + 1) ↔
    ∀ i ∈ items, i.item.Accepted bound := by
  simp only [Accepted, depth, tokens, mem_itemsTokens, Nat.add_le_add_iff_right, itemsDepth_le]
  constructor
  · exact fun h i hi => ⟨h.1 i hi, fun t ht => h.2 t ⟨i, hi, ht⟩⟩
  · exact fun h => ⟨fun i hi => (h i hi).1, fun t ⟨i, hi, ht⟩ => (h i hi).2 t ht⟩

/-- An object is accepted if its keys are texts and its values are accepted, one level further
in. -/
theorem accepted_object : (object gap members).Accepted (bound + 1) ↔
    ∀ m ∈ members, m.1.item.string?.isSome ∧ m.2.item.Accepted bound := by
  simp only [Accepted, depth, tokens, mem_membersTokens, Nat.add_le_add_iff_right, membersDepth_le]
  constructor
  · exact fun h m hm => ⟨h.2 _ ⟨m, hm, .inl rfl⟩, h.1 m hm, fun t ht => h.2 t ⟨m, hm, .inr ht⟩⟩
  · refine fun h => ⟨fun m hm => (h m hm).2.1, ?_⟩
    rintro t ⟨m, hm, rfl | ht⟩
    · exact (h m hm).1
    · exact (h m hm).2.2 t ht

end

end Written

end Json

end HttpLoad
