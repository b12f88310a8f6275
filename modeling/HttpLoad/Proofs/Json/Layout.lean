import HttpLoad.Proofs.Json.Unambiguous
import HttpLoad.Run.Files

/-!
# Layout keeps what is written

The text of a value with layout is a text of the grammar, and a reader finds in it what the value
holds: the same members under the same keys in the same order, each key once, whole numbers digit by
digit, for a finite double a number to which it is the nearest double, and `null` for any other one.

## Main definitions

* `Written.Tells w v`: a written value tells a value
* `Json.at?`, `Written.at?`: what is found along a path of keys
* `Json.KeysDistinct v`: no object of a value has a key twice
* `Json.serialized`: a value whose keys are handed over one by one

## Main results

* `Json.tells_of_pretty`: every document with the bytes of the text with layout tells the value
* `Written.Tells.at?`: what is told of a value is told of its parts
* `Json.prettyText_eq`: the text with layout is always there
-/

namespace HttpLoad

namespace Json

/-- Values are gone through from the inside out. -/
theorem induction {motive : Json → Prop} (null : motive .null) (bool : ∀ b, motive (.bool b))
    (integer : ∀ i, motive (.integer i)) (real : ∀ x, motive (.real x))
    (text : ∀ s, motive (.text s)) (list : ∀ items, (∀ v ∈ items, motive v) → motive (.list items))
    (object : ∀ members, (∀ m ∈ members, motive m.2) → motive (.object members)) :
    ∀ v, motive v := by
  refine @Json.rec motive (fun items => ∀ v ∈ items, motive v)
    (fun members => ∀ m ∈ members, motive m.2) (fun m => motive m.2)
    null bool integer real text list object ?_ ?_ ?_ ?_ ?_
  case refine_1 => simp
  case refine_2 => simp +contextual
  case refine_3 => simp
  case refine_4 => simp +contextual
  case refine_5 => exact fun _ _ h => h

/-! ## What a written value tells -/

namespace Written

mutual

/-- **A written value tells a value**: nothing is lost that a reader of JSON can be told. A double
is told by a number that it is the nearest one to, and by `null` if it is not finite. -/
def Tells : Written → Json → Prop
  | null, v => v = .null ∨ ∃ x, v = .real x ∧ x.isFinite = false
  | bool b, v => v = .bool b
  | number n, v => (∃ i, v = .integer i ∧ n.Spells i) ∨
      ∃ x, v = .real x ∧ x.isFinite = true ∧ n.nearest = x
  | text ps, v => ∃ s, v = .text s ∧ ps.string? = some s
  | list _ items, v => ∃ vs, v = .list vs ∧ ItemsTell items vs
  | object _ members, v => ∃ ms, v = .object ms ∧ (ms.map Prod.fst).Nodup ∧ MembersTell members ms

def ItemsTell : List (Spaced Written) → List Json → Prop
  | [], vs => vs = []
  | ⟨_, w, _⟩ :: items, vs => ∃ v rest, vs = v :: rest ∧ Tells w v ∧ ItemsTell items rest

def MembersTell : List (Spaced Pieces × Spaced Written) → List (String × Json) → Prop
  | [], ms => ms = []
  | (key, ⟨_, w, _⟩) :: members, ms => ∃ k v rest, ms = (k, v) :: rest ∧
      key.item.string? = some k ∧ Tells w v ∧ MembersTell members rest

end

section

variable {x : Spaced Written} {items : List (Spaced Written)} {v : Json} {vs : List Json}
  {key : Spaced Pieces} {members : List (Spaced Pieces × Spaced Written)} {k : String}
  {ms : List (String × Json)} {w : Written}

@[simp] theorem itemsTell_cons : ItemsTell (x :: items) (v :: vs) ↔
    x.item.Tells v ∧ ItemsTell items vs := by
  change (∃ u rest, v :: vs = u :: rest ∧ x.item.Tells u ∧ ItemsTell items rest) ↔ _
  simp

@[simp] theorem membersTell_cons : MembersTell ((key, x) :: members) ((k, v) :: ms) ↔
    key.item.string? = some k ∧ x.item.Tells v ∧ MembersTell members ms := by
  change (∃ l u rest, (k, v) :: ms = (l, u) :: rest ∧ key.item.string? = some l ∧
    x.item.Tells u ∧ MembersTell members rest) ↔ _
  simp

/-- A double is told by a number or by `null`, as it is finite or not. -/
theorem tells_real {y : Double} : w.Tells (.real y) ↔
    (∃ n, w = .number n ∧ y.isFinite = true ∧ n.nearest = y) ∨
      w = .null ∧ y.isFinite = false := by
  cases w with
  | number n =>
    constructor
    · rintro (⟨i, hi, -⟩ | ⟨x, hx, hfinite, hn⟩)
      · exact absurd hi (by simp)
      · cases hx
        exact .inl ⟨n, rfl, hfinite, hn⟩
    · rintro (⟨m, hm, hfinite, hn⟩ | ⟨hnull, -⟩)
      · cases hm
        exact .inr ⟨y, rfl, hfinite, hn⟩
      · exact absurd hnull (by simp)
  | _ => simp [Tells]

/-- What is told does not depend on blanks. -/
theorem tells_bare (w : Written) : ∀ v, w.bare.Tells v ↔ w.Tells v := by
  induction w using Written.induction with
  | null => exact fun v => Iff.rfl
  | bool b => exact fun v => Iff.rfl
  | number n => exact fun v => Iff.rfl
  | text ps => exact fun v => Iff.rfl
  | list gap items ih =>
    have hitems : ∀ vs, ItemsTell (bareItems items) vs ↔ ItemsTell items vs := by
      induction items with
      | nil => exact fun vs => Iff.rfl
      | cons x items ihi =>
        obtain ⟨hx, hrest⟩ := List.forall_mem_cons.mp ih
        intro vs
        cases vs with
        | nil => simp [bareItems, ItemsTell, Spaced.tight]
        | cons v vs => rw [bareItems_cons, itemsTell_cons, itemsTell_cons, Spaced.tight, hx,
            ihi hrest]
    intro v
    simp only [bare, Tells, hitems]
  | object gap members ih =>
    have hmembers : ∀ ms, MembersTell (bareMembers members) ms ↔ MembersTell members ms := by
      induction members with
      | nil => exact fun ms => Iff.rfl
      | cons m members ihm =>
        obtain ⟨hm, hrest⟩ := List.forall_mem_cons.mp ih
        obtain ⟨key, x⟩ := m
        intro ms
        cases ms with
        | nil => simp [bareMembers, MembersTell, Spaced.tight]
        | cons e ms =>
          obtain ⟨k, v⟩ := e
          rw [bareMembers_cons, membersTell_cons, membersTell_cons, Spaced.tight, Spaced.tight, hm,
            ihm hrest]
    intro v
    simp only [bare, Tells, hmembers]

end

end Written

/-- **All documents of one text tell the same.** -/
theorem Document.tells_of_bytes {doc doc' : Document} {v : Json} (h : doc.bytes = doc'.bytes)
    (htells : doc.item.Tells v) : doc'.item.Tells v := by
  rw [← Written.tells_bare, ← Document.bare_eq_of_bytes h, Written.tells_bare]
  exact htells

/-! ## Along a path of keys -/

/-- What is found under a key of an object. -/
def member? (key : String) : Json → Option Json
  | object members => members.lookup key
  | _ => none

/-- **What is found along a path of keys.** -/
def at? : List String → Json → Option Json
  | [], v => some v
  | key :: path, v => (v.member? key).bind (at? path)

namespace Written

/-- What is found under a key that is written in an object. -/
def member? (key : String) : Written → Option Written
  | object _ members =>
    (members.find? fun m => m.1.item.string? == some key).map fun m => m.2.item
  | _ => none

/-- **What is found along a path of keys** that are written. -/
def at? : List String → Written → Option Written
  | [], w => some w
  | key :: path, w => (w.member? key).bind (at? path)

variable {w : Written} {v u : Json}

theorem Tells.member? (h : w.Tells v) {key : String} (hu : v.member? key = some u) :
    ∃ w', w.member? key = some w' ∧ w'.Tells u := by
  cases w with
  | object gap members =>
    obtain ⟨ms, rfl, -, hmembers⟩ := h
    change ms.lookup key = some u at hu
    induction members generalizing ms with
    | nil =>
      obtain rfl : ms = [] := hmembers
      exact absurd hu (by simp)
    | cons m members ih =>
      obtain ⟨key', x⟩ := m
      obtain ⟨k, t, ms, rfl, hk, ht, hrest⟩ := hmembers
      rw [lookup_member] at hu
      rw [Written.member?, List.find?_cons]
      by_cases hkey : key = k
      · rw [if_pos hkey] at hu
        obtain rfl := Option.some.inj hu
        have hfound : (key'.item.string? == some key) = true := by
          rw [hk, hkey, beq_self_eq_true]
        rw [hfound]
        exact ⟨x.item, rfl, ht⟩
      · rw [if_neg hkey] at hu
        have hpassed : (key'.item.string? == some key) = false := by
          rw [hk]
          exact beq_false_of_ne fun hsame => hkey (Option.some.inj hsame).symm
        rw [hpassed]
        exact ih ms hrest hu
  | null =>
    obtain rfl | ⟨x, rfl, -⟩ := h <;> exact absurd hu (by simp [Json.member?])
  | bool b =>
    obtain rfl := h
    exact absurd hu (by simp [Json.member?])
  | number n =>
    obtain ⟨i, rfl, -⟩ | ⟨x, rfl, -⟩ := h <;> exact absurd hu (by simp [Json.member?])
  | text ps =>
    obtain ⟨s, rfl, -⟩ := h
    exact absurd hu (by simp [Json.member?])
  | list gap items =>
    obtain ⟨vs, rfl, -⟩ := h
    exact absurd hu (by simp [Json.member?])

/-- **What is told of a value is told of its parts**, along every path. -/
theorem Tells.at? (h : w.Tells v) {path : List String} (hu : v.at? path = some u) :
    ∃ w', w.at? path = some w' ∧ w'.Tells u := by
  induction path generalizing w v with
  | nil =>
    obtain rfl := Option.some.inj hu
    exact ⟨w, rfl, h⟩
  | cons key path ih =>
    obtain ⟨t, ht, hrest⟩ := Option.bind_eq_some_iff.mp hu
    obtain ⟨w', hw', htells⟩ := h.member? ht
    obtain ⟨w'', hw'', hfound⟩ := ih htells hrest
    exact ⟨w'', Option.bind_eq_some_iff.mpr ⟨w', hw', hw''⟩, hfound⟩

end Written

/-! ## The text with layout -/

/-- **No object of a value has a key twice.** -/
inductive KeysDistinct : Json → Prop
  | null : KeysDistinct null
  | bool (b : Bool) : KeysDistinct (bool b)
  | integer (i : Int) : KeysDistinct (integer i)
  | real (x : Double) : KeysDistinct (real x)
  | text (s : String) : KeysDistinct (text s)
  | list {items : List Json} (hitems : ∀ v ∈ items, KeysDistinct v) : KeysDistinct (list items)
  | object {members : List (String × Json)} (hkeys : (members.map Prod.fst).Nodup)
    (hmembers : ∀ m ∈ members, KeysDistinct m.2) : KeysDistinct (object members)

/-- A written value is the text of a value, laid out at a depth, and tells it. -/
structure LaidOut (depth : Nat) (v : Json) (w : Written) : Prop where
  tells : w.Tells v
  text : ∀ rest, Bytes.ofChars (prettyThen depth v rest) = w.bytes ++ Bytes.ofChars rest

/-- The line break and the blanks at the start of the next line. -/
def Blanks.newLine (depth : Nat) : Blanks where
  bytes := Bytes.ofChars (Json.newLine depth)
  all_blank b hb := by
    obtain ⟨c, hc, hb⟩ := List.mem_flatMap.mp hb
    rcases List.mem_cons.mp hc with rfl | hc
    · rw [List.mem_singleton.mp hb]
      rfl
    · rw [List.eq_of_mem_replicate hc] at hb
      rw [List.mem_singleton.mp hb]
      rfl

def Blanks.space : Blanks := ⟨[0x20], by simp [isBlank]⟩

section

variable {depth : Nat}

theorem exists_laidOut_real (x : Double) : ∃ w, LaidOut depth (real x) w := by
  cases hx : x.isFinite with
  | false =>
    refine ⟨.null, .inr ⟨x, rfl, hx⟩, fun rest => ?_⟩
    change Bytes.ofChars (realChars x ++ rest) = _
    rw [realChars, if_neg (by simp [hx]), Bytes.ofChars_append]
    rfl
  | true =>
    obtain ⟨n, hbytes, hexact, -⟩ := exists_numeral_doubleText hx
    have hnearest : n.nearest = x := by
      rw [← n.asDouble_exact, hexact]
      rfl
    refine ⟨.number n, .inr ⟨x, rfl, hx, hnearest⟩, fun rest => ?_⟩
    change Bytes.ofChars (realChars x ++ rest) = _
    rw [realChars, if_pos hx, Bytes.ofChars_append, Written.bytes, hbytes]

theorem laidOut_integer (i : Int) : LaidOut depth (integer i) (.number (.ofInt i)) where
  tells := .inl ⟨i, rfl, Numeral.spells_ofInt i⟩
  text rest := by
    change Bytes.ofChars (integerText i ++ rest) = _
    rw [Bytes.ofChars_append, Written.bytes, Numeral.bytes_ofInt]

theorem exists_laidOut_text (s : String) : ∃ w, LaidOut depth (text s) w := by
  obtain ⟨ps, hquoted, hstring⟩ := exists_pieces_quotedChars s
  refine ⟨.text ps, ⟨s, rfl, hstring⟩, fun rest => ?_⟩
  change Bytes.ofChars (quotedChars s ++ rest) = _
  rw [Bytes.ofChars_append, Written.bytes, hquoted]

/-- Further items, behind the blanks after the last one. -/
theorem exists_laidOut_items {items : List Json} (h : ∀ v ∈ items, ∃ w, LaidOut depth v w)
    (close : Nat) : ∃ (after : Blanks) (written : List (Spaced Written)),
      Written.ItemsTell written items ∧
      ∀ rest, Bytes.ofChars (prettyItems depth items (newLine close ++ rest)) =
        after.bytes ++ (Written.itemsBytes false written ++ Bytes.ofChars rest) := by
  induction items with
  | nil =>
    refine ⟨.newLine close, [], rfl, fun rest => ?_⟩
    rw [prettyItems, Bytes.ofChars_append]
    rfl
  | cons v items ih =>
    obtain ⟨⟨w, hw⟩, hitems⟩ := List.forall_mem_cons.mp h
    obtain ⟨after, written, htell, htext⟩ := ih hitems
    -- nothing stands before the comma, and what the others are behind stands behind this one
    refine ⟨.none, ⟨.newLine depth, w, after⟩ :: written,
      Written.itemsTell_cons.mpr ⟨hw.tells, htell⟩, fun rest => ?_⟩
    rw [prettyItems, Bytes.ofChars_cons, Bytes.ofChars_append, hw.text, htext,
      Written.itemsBytes_cons]
    simp [Blanks.none, Blanks.newLine, comma]
    rfl

/-- Further members, behind the blanks after the last one. -/
theorem exists_laidOut_members {members : List (String × Json)}
    (h : ∀ m ∈ members, ∃ w, LaidOut depth m.2 w) (close : Nat) :
    ∃ (after : Blanks) (written : List (Spaced Pieces × Spaced Written)),
      Written.MembersTell written members ∧
      ∀ rest, Bytes.ofChars (prettyMembers depth members (newLine close ++ rest)) =
        after.bytes ++ (Written.membersBytes false written ++ Bytes.ofChars rest) := by
  induction members with
  | nil =>
    refine ⟨.newLine close, [], rfl, fun rest => ?_⟩
    rw [prettyMembers, Bytes.ofChars_append]
    rfl
  | cons m members ih =>
    obtain ⟨key, v⟩ := m
    obtain ⟨⟨w, hw⟩, hmembers⟩ := List.forall_mem_cons.mp h
    obtain ⟨after, written, htell, htext⟩ := ih hmembers
    obtain ⟨ps, hquoted, hstring⟩ := exists_pieces_quotedChars key
    refine ⟨.none, (⟨.newLine depth, ps, .none⟩, ⟨.space, w, after⟩) :: written,
      Written.membersTell_cons.mpr ⟨hstring, hw.tells, htell⟩, fun rest => ?_⟩
    rw [prettyMembers, Bytes.ofChars_cons, Bytes.ofChars_append, Bytes.ofChars_append,
      Bytes.ofChars_cons, Bytes.ofChars_cons, hw.text, htext, Written.membersBytes_cons, keyBytes,
      hquoted]
    simp [Blanks.none, Blanks.newLine, Blanks.space, comma]
    rfl

/-- **The text with layout is a written value** that tells the value. -/
theorem KeysDistinct.exists_laidOut {v : Json} (h : v.KeysDistinct) (depth : Nat) :
    ∃ w, LaidOut depth v w := by
  induction h generalizing depth with
  | null => exact ⟨.null, .inl rfl, fun rest => Bytes.ofChars_append ..⟩
  | bool b => exact ⟨.bool b, rfl, fun rest => by cases b <;> exact Bytes.ofChars_append ..⟩
  | integer i => exact ⟨_, laidOut_integer i⟩
  | real x => exact exists_laidOut_real x
  | text s => exact exists_laidOut_text s
  | @list items _ ih =>
    cases items with
    | nil => exact ⟨.list .none [], ⟨[], rfl, rfl⟩, fun rest => rfl⟩
    | cons v items =>
      obtain ⟨hv, hitems⟩ := List.forall_mem_cons.mp ih
      obtain ⟨w, hw⟩ := hv (depth + 1)
      obtain ⟨after, written, htell, htext⟩ :=
        exists_laidOut_items (fun u hu => hitems u hu (depth + 1)) depth
      refine ⟨.list .none (⟨.newLine (depth + 1), w, after⟩ :: written),
        ⟨v :: items, rfl, Written.itemsTell_cons.mpr ⟨hw.tells, htell⟩⟩, fun rest => ?_⟩
      rw [prettyThen, Bytes.ofChars_cons, Bytes.ofChars_append, hw.text, htext, Written.bytes,
        Written.itemsBytes_cons]
      simp [Blanks.none, Blanks.newLine, comma]
      rfl
  | @object members hkeys _ ih =>
    cases members with
    | nil => exact ⟨.object .none [], ⟨[], rfl, hkeys, rfl⟩, fun rest => rfl⟩
    | cons m members =>
      obtain ⟨key, v⟩ := m
      obtain ⟨hv, hmembers⟩ := List.forall_mem_cons.mp ih
      obtain ⟨w, hw⟩ := hv (depth + 1)
      obtain ⟨after, written, htell, htext⟩ :=
        exists_laidOut_members (fun m hm => hmembers m hm (depth + 1)) depth
      obtain ⟨ps, hquoted, hstring⟩ := exists_pieces_quotedChars key
      refine ⟨.object .none ((⟨.newLine (depth + 1), ps, .none⟩, ⟨.space, w, after⟩) :: written),
        ⟨(key, v) :: members, rfl, hkeys,
          Written.membersTell_cons.mpr ⟨hstring, hw.tells, htell⟩⟩, fun rest => ?_⟩
      rw [prettyThen, Bytes.ofChars_cons, Bytes.ofChars_append, Bytes.ofChars_append,
        Bytes.ofChars_cons, Bytes.ofChars_cons, hw.text, htext, Written.bytes,
        Written.membersBytes_cons, keyBytes, hquoted]
      simp [Blanks.none, Blanks.newLine, Blanks.space, comma]
      rfl

end

/-- **Every document with the bytes of the text with layout tells the value**, and there is one. -/
theorem tells_of_pretty {v : Json} (h : v.KeysDistinct) :
    (∃ doc : Document, doc.bytes = Bytes.ofString v.pretty) ∧
      ∀ doc : Document, doc.bytes = Bytes.ofString v.pretty → doc.item.Tells v := by
  obtain ⟨w, hw⟩ := h.exists_laidOut 0
  have hbytes : Document.bytes (.tight w) = Bytes.ofString v.pretty := by
    have htext := hw.text []
    rw [Bytes.ofChars_nil, List.append_nil] at htext
    change [] ++ (w.bytes ++ []) = Bytes.ofChars v.pretty.toList
    rw [pretty, String.toList_ofList, htext, List.nil_append, List.append_nil]
  exact ⟨⟨_, hbytes⟩, fun doc hdoc =>
    Document.tells_of_bytes (hbytes.trans hdoc.symm) hw.tells⟩

/-! ## Keys that are handed over -/

mutual

/-- **A value put together** from its parts, each object from entries whose keys are values of their
own, which might have no text. -/
def serialized : Json → Except LoadError Json
  | list items => (serializedItems items).map list
  | object members => serializedMembers members >>= objectOf
  | v => .ok v

def serializedItems : List Json → Except LoadError (List Json)
  | [] => .ok []
  | v :: items => do return (← serialized v) :: (← serializedItems items)

def serializedMembers : List (String × Json) → Except LoadError (List (Json × Json))
  | [] => .ok []
  | (key, v) :: members => do return (text key, ← serialized v) :: (← serializedMembers members)

end

/-- Entries with texts as keys make an object. -/
theorem objectOf_texts (members : List (String × Json)) :
    objectOf (members.map fun m => (text m.1, m.2)) = .ok (object members) := by
  have hmembers : (members.map fun m => (text m.1, m.2)).mapM memberOf = .ok members := by
    induction members with
    | nil => rfl
    | cons m members ih =>
      rw [List.map_cons, List.mapM_cons, ih]
      rfl
  rw [objectOf, hmembers]
  rfl

/-- **No value fails to be put together**: keys that are texts have one. -/
theorem serialized_eq (v : Json) : v.serialized = .ok v := by
  induction v using Json.induction with
  | null => rfl
  | bool b => rfl
  | integer i => rfl
  | real x => rfl
  | text s => rfl
  | list items ih =>
    have hitems : serializedItems items = .ok items := by
      induction items with
      | nil => rfl
      | cons v items ihi =>
        obtain ⟨hv, hrest⟩ := List.forall_mem_cons.mp ih
        rw [serializedItems, hv, ihi hrest]
        rfl
    rw [serialized, hitems]
    rfl
  | object members ih =>
    have hmembers : serializedMembers members = .ok (members.map fun m => (text m.1, m.2)) := by
      induction members with
      | nil => rfl
      | cons m members ihm =>
        obtain ⟨hm, hrest⟩ := List.forall_mem_cons.mp ih
        obtain ⟨key, v⟩ := m
        rw [serializedMembers, hm, ihm hrest]
        rfl
    rw [serialized, hmembers]
    exact objectOf_texts members

/-- **The text of a document with layout**, if the document can be put together. -/
def prettyText (v : Json) : Except LoadError String := v.serialized.map pretty

theorem prettyText_eq (v : Json) : v.prettyText = .ok v.pretty := by
  rw [prettyText, serialized_eq]
  rfl

end Json

end HttpLoad
