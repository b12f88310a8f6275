import Mathlib.Data.List.Forall2
import Mathlib.Data.List.Sort
import HttpLoad.Proofs.Json.NumeralText
import HttpLoad.Proofs.Json.Reading

/-!
# Values that the reader answers with

Their members ascend by key, their numbers fit, and they nest no deeper than the reader goes. Of the
members with one key the last one stays, so that not every numeral of a text leaves a trace in its
value.

## Main definitions

* `Json.Canonical`: a value that the reader can answer with
* `Written.survivors`: the numerals that no later member replaces
* `Json.Numberwise`: maps of values that change nothing but numbers
* `Json.IsWholeNumber`: a whole number of 64 bits, with a sign or without
* `Written.Renders v w`: a written value is a rendering of a value

## Main results

* `Written.canonical_read`: what is read is canonical
* `Written.value_map`: a value depends on its surviving numerals alone
* `Renders.value_eq`: a rendering is read as the value
* `renders_value`: what is written without fractions is a rendering of what it is read as
-/

namespace HttpLoad

namespace Json

/-! ## Sorted members -/

/-- **The keys of members ascend** strictly. -/
def Ascending (members : List (String × Json)) : Prop := members.Pairwise fun m m' => m.1 < m'.1

section

variable {key : String} {v : Json} {members : List (String × Json)} {m : String × Json}

/-- A member among those behind a new one is it or an old one. -/
theorem mem_of_mem_putMember (h : m ∈ putMember key v members) : m = (key, v) ∨ m ∈ members := by
  induction members with
  | nil => exact .inl (List.mem_singleton.mp h)
  | cons n members ih =>
    unfold putMember at h
    split_ifs at h with heq hlt
    · rcases List.mem_cons.mp h with h | h
      · exact .inl h
      · exact .inr (List.mem_cons_of_mem _ h)
    · rcases List.mem_cons.mp h with h | h
      · exact .inl h
      · exact .inr h
    · rcases List.mem_cons.mp h with h | h
      · exact .inr (h ▸ List.mem_cons_self)
      · exact (ih h).imp_right (List.mem_cons_of_mem _)

/-- **Putting a member keeps the order.** -/
theorem Ascending.putMember (h : Ascending members) (key : String) (v : Json) :
    Ascending (putMember key v members) := by
  induction members with
  | nil => exact List.pairwise_singleton _ _
  | cons n members ih =>
    obtain ⟨hfirst, hrest⟩ := List.pairwise_cons.mp h
    unfold Json.putMember
    split_ifs with heq hlt
    · exact List.pairwise_cons.mpr ⟨fun m hm => heq ▸ hfirst m hm, hrest⟩
    · refine List.pairwise_cons.mpr ⟨fun m hm => ?_, h⟩
      rcases List.mem_cons.mp hm with rfl | hm
      · exact hlt
      · exact hlt.trans (hfirst m hm)
    · refine List.pairwise_cons.mpr ⟨fun m hm => ?_, ih hrest⟩
      rcases mem_of_mem_putMember hm with rfl | hm
      · exact lt_of_le_of_ne (not_lt.mp hlt) (Ne.symm heq)
      · exact hfirst m hm

/-- A member with a key greater than all goes behind them. -/
theorem putMember_of_lt (h : ∀ m ∈ members, m.1 < key) :
    putMember key v members = members ++ [(key, v)] := by
  induction members with
  | nil => rfl
  | cons n members ih =>
    obtain ⟨hn, hrest⟩ := List.forall_mem_cons.mp h
    unfold putMember
    rw [if_neg hn.ne', if_neg hn.asymm, ih hrest, List.cons_append]

end

/-! ## Canonical values -/

/-- **A value that the reader can answer with**, where values nest at most so deep and all numbers
have a property. -/
inductive Canonical (P : Json → Prop) : Nat → Json → Prop
  | null {bound : Nat} : Canonical P bound null
  | bool {bound : Nat} (b : Bool) : Canonical P bound (bool b)
  | number {bound : Nat} {v : Json} (hv : P v) : Canonical P bound v
  | text {bound : Nat} (s : String) : Canonical P bound (text s)
  | list {bound : Nat} {items : List Json} (hitems : ∀ v ∈ items, Canonical P bound v) :
    Canonical P (bound + 1) (list items)
  | object {bound : Nat} {members : List (String × Json)} (hsorted : Ascending members)
    (hmembers : ∀ m ∈ members, Canonical P bound m.2) : Canonical P (bound + 1) (object members)

namespace Written

variable {number : Numeral → Json}

theorem itemsValue_eq_map (items : List (Spaced Written)) :
    itemsValue number items = items.map fun x => x.item.value number := by
  induction items with
  | nil => rfl
  | cons x items ih => rw [itemsValue_cons, ih, List.map_cons]

/-- What holds of the members so far and of the new values holds of all members. -/
theorem membersValue_induction {motive : List (String × Json) → Prop}
    {members : List (Spaced Pieces × Spaced Written)}
    (put : ∀ m ∈ members, ∀ read, motive read →
      motive (putMember m.1.item.string (m.2.item.value number) read))
    {read : List (String × Json)} (h : motive read) :
    motive (membersValue number read members) := by
  induction members generalizing read with
  | nil => exact h
  | cons m members ih =>
    obtain ⟨key, x⟩ := m
    rw [membersValue_cons]
    exact ih (fun m hm => put m (List.mem_cons_of_mem _ hm)) (put _ List.mem_cons_self _ h)

/-- What is read is canonical, with the property that the numerals' readings have. A reading may
also leave numerals out. -/
theorem canonical_value {P : Json → Prop} {bound : Nat} {w : Written} (h : w.Accepted bound)
    (hnumber : ∀ n, .number n ∈ w.tokens → number n = .null ∨ P (number n)) :
    (w.value number).Canonical P bound := by
  induction w using Written.induction generalizing bound with
  | null => exact .null
  | bool b => exact .bool b
  | number n =>
    rw [value]
    rcases hnumber n List.mem_cons_self with hnull | hn
    · rw [hnull]
      exact .null
    · exact .number hn
  | text ps => exact .text _
  | list gap items ih =>
    cases bound with
    | zero => exact absurd h not_accepted_list_zero
    | succ bound =>
      rw [value, itemsValue_eq_map]
      refine .list (List.forall_mem_map.mpr fun x hx => ih x hx (accepted_list.mp h x hx) ?_)
      exact fun n hn => hnumber n (mem_itemsTokens.mpr ⟨x, hx, hn⟩)
  | object gap members ih =>
    cases bound with
    | zero => exact absurd h not_accepted_object_zero
    | succ bound =>
      have hsorted : Ascending (membersValue number [] members) :=
        membersValue_induction (motive := Ascending) (fun _ _ _ hread => hread.putMember _ _)
          List.Pairwise.nil
      refine .object hsorted (membersValue_induction
        (motive := fun read => ∀ m ∈ read, Canonical P bound m.2) (fun m hm read hread => ?_)
        (by simp))
      intro entry hentry
      rcases mem_of_mem_putMember hentry with rfl | hentry
      · refine ih m hm (accepted_object.mp h m hm).2 fun n hn => hnumber n ?_
        exact mem_membersTokens.mpr ⟨m, hm, .inr hn⟩
      · exact hread entry hentry

/-! ## What the numerals are read as -/

mutual

/-- **The numerals of a written value that survive**: no later member with the same key replaces
them. -/
def survivors : Written → List Numeral
  | .number n => [n]
  | list _ items => itemsSurvivors items
  | object _ members => membersSurvivors members
  | _ => []

def itemsSurvivors : List (Spaced Written) → List Numeral
  | [] => []
  | ⟨_, w, _⟩ :: items => survivors w ++ itemsSurvivors items

def membersSurvivors : List (Spaced Pieces × Spaced Written) → List Numeral
  | [] => []
  | (key, ⟨_, w, _⟩) :: members =>
    if members.any fun m => m.1.item.string == key.item.string then membersSurvivors members
    else survivors w ++ membersSurvivors members

end

end Written

/-- **A map of values that changes nothing but numbers.** -/
structure Numberwise (φ : Json → Json) : Prop where
  null : φ null = null
  bool : ∀ b, φ (bool b) = bool b
  text : ∀ s, φ (text s) = text s
  list : ∀ items, φ (list items) = list (items.map φ)
  object : ∀ members, φ (object members) = object (members.map fun m => (m.1, φ m.2))

/-- Members under the same keys, with values that a map takes to one another where no later member
replaces them. -/
def Matched (φ : Json → Json) (later : List (Spaced Pieces × Spaced Written)) :
    List (String × Json) → List (String × Json) → Prop :=
  List.Forall₂ fun m m' => m'.1 = m.1 ∧ (later.any (·.1.item.string == m.1) ∨ φ m.2 = m'.2)

section

variable {φ : Json → Json} {later : List (Spaced Pieces × Spaced Written)} {key : Spaced Pieces}
  {x : Spaced Written} {read read' : List (String × Json)}

/-- A key that is not there need not be waited for. -/
theorem Matched.of_cons (h : Matched φ ((key, x) :: later) read read')
    (hkey : ∀ m ∈ read, key.item.string ≠ m.1) : Matched φ later read read' := by
  induction h with
  | nil => exact .nil
  | cons hm hrest ih =>
    obtain ⟨hne, hkey⟩ := List.forall_mem_cons.mp hkey
    refine .cons ⟨hm.1, ?_⟩ (ih hkey)
    simpa [hne] using hm.2

/-- Members stay matched when one more is put to both. -/
theorem Matched.putMember (h : Matched φ ((key, x) :: later) read read') (hread : Ascending read)
    {v v' : Json} (hv : later.any (·.1.item.string == key.item.string) ∨ φ v = v') :
    Matched φ later (putMember key.item.string v read) (putMember key.item.string v' read') := by
  induction h with
  | nil => exact .cons ⟨rfl, hv⟩ .nil
  | @cons m m' read read' hm hrest ih =>
    obtain ⟨hfirst, hsorted⟩ := List.pairwise_cons.mp hread
    obtain ⟨k, u⟩ := m
    obtain ⟨k', u'⟩ := m'
    obtain rfl : k' = k := hm.1
    unfold Json.putMember
    -- the new member replaces the first one, goes before it, or goes further on; behind its place
    -- all keys are greater, so that none of them waits for it
    split_ifs with heq hlt
    · exact .cons ⟨rfl, hv⟩ (of_cons hrest fun m hm => heq ▸ (hfirst m hm).ne)
    · refine .cons ⟨rfl, hv⟩ (of_cons (.cons hm hrest) fun m hm => ?_)
      rcases List.mem_cons.mp hm with rfl | hm
      · exact hlt.ne
      · exact (hlt.trans (hfirst m hm)).ne
    · refine .cons ⟨rfl, ?_⟩ (ih hsorted)
      simpa [heq] using hm.2

/-- Where no member is to come, matched members are mapped to one another. -/
theorem Matched.eq_map (h : Matched φ [] read read') :
    read.map (fun m => (m.1, φ m.2)) = read' := by
  induction h with
  | nil => rfl
  | cons hm hrest ih =>
    have hvalue := hm.2.resolve_left (by simp)
    rw [List.map_cons, ih, ← hm.1, hvalue]

end

namespace Written

variable {φ : Json → Json} {number number' : Numeral → Json}
  {members : List (Spaced Pieces × Spaced Written)}

theorem mem_itemsSurvivors {n : Numeral} {items : List (Spaced Written)} :
    n ∈ itemsSurvivors items ↔ ∃ x ∈ items, n ∈ x.item.survivors := by
  induction items with
  | nil => simp [itemsSurvivors]
  | cons x items ih => simp [itemsSurvivors, ih]

/-- Reading members on both sides matches what has been read in the end. -/
theorem matched_membersValue
    (hvalues : ∀ m ∈ members, (∀ n ∈ m.2.item.survivors, φ (number n) = number' n) →
      φ (m.2.item.value number) = m.2.item.value number')
    (h : ∀ n ∈ membersSurvivors members, φ (number n) = number' n)
    {read read' : List (String × Json)} (hmatched : Matched φ members read read')
    (hread : Ascending read) :
    Matched φ [] (membersValue number read members) (membersValue number' read' members) := by
  induction members generalizing read read' with
  | nil => exact hmatched
  | cons m members ih =>
    obtain ⟨key, x⟩ := m
    obtain ⟨hvalue, hvalues⟩ := List.forall_mem_cons.mp hvalues
    rw [membersValue_cons, membersValue_cons]
    rw [membersSurvivors] at h
    -- of a member that a later one replaces, the values need not match
    split_ifs at h with hlater
    · exact ih hvalues h (hmatched.putMember hread (.inl hlater)) (hread.putMember _ _)
    · obtain ⟨hx, hrest⟩ := List.forall_mem_append.mp h
      exact ih hvalues hrest (hmatched.putMember hread (.inr (hvalue hx))) (hread.putMember _ _)

/-- **A value depends on its surviving numerals alone**, and a map that changes nothing but numbers
changes those. -/
theorem value_map (hφ : Numberwise φ) {w : Written}
    (h : ∀ n ∈ w.survivors, φ (number n) = number' n) :
    φ (w.value number) = w.value number' := by
  induction w using Written.induction with
  | null => exact hφ.null
  | bool b => exact hφ.bool b
  | number n => exact h n List.mem_cons_self
  | text ps => exact hφ.text _
  | list gap items ih =>
    rw [value, value, hφ.list, itemsValue_eq_map, itemsValue_eq_map, List.map_map]
    refine congrArg Json.list (List.map_congr_left fun x hx => ih x hx fun n hn => ?_)
    exact h n (mem_itemsSurvivors.mpr ⟨x, hx, hn⟩)
  | object gap members ih =>
    rw [value, value, hφ.object]
    exact congrArg Json.object (matched_membersValue ih h .nil .nil).eq_map

/-- **Two readings** that agree on the surviving numerals give one value. -/
theorem value_congr {w : Written} (h : ∀ n ∈ w.survivors, number n = number' n) :
    w.value number = w.value number' := by
  have hid : Numberwise id := ⟨rfl, fun _ => rfl, fun _ => rfl, by simp, by simp⟩
  exact value_map hid h

/-- A numeral that survives is one of the tokens. -/
theorem mem_tokens_of_mem_survivors {w : Written} {n : Numeral} (h : n ∈ w.survivors) :
    .number n ∈ w.tokens := by
  induction w using Written.induction with
  | null => exact absurd h List.not_mem_nil
  | bool b => exact absurd h List.not_mem_nil
  | number m => exact List.mem_singleton.mpr (congrArg Token.number (List.mem_singleton.mp h))
  | text ps => exact absurd h List.not_mem_nil
  | list gap items ih =>
    obtain ⟨x, hx, hn⟩ := mem_itemsSurvivors.mp h
    exact mem_itemsTokens.mpr ⟨x, hx, ih x hx hn⟩
  | object gap members ih =>
    refine mem_membersTokens.mpr ?_
    rw [survivors] at h
    induction members with
    | nil => exact absurd h List.not_mem_nil
    | cons m members ihm =>
      obtain ⟨key, x⟩ := m
      obtain ⟨hm, hmembers⟩ := List.forall_mem_cons.mp ih
      have hrest : n ∈ membersSurvivors members → _ := ihm hmembers
      rw [membersSurvivors] at h
      split_ifs at h with hlater
      · exact (hrest h).imp fun _ h => h.imp_left (List.mem_cons_of_mem _)
      · rcases List.mem_append.mp h with h | h
        · exact ⟨_, List.mem_cons_self, .inr (hm h)⟩
        · exact (hrest h).imp fun _ h => h.imp_left (List.mem_cons_of_mem _)

/-- **What is read is canonical**, with any property that the readings of the surviving numerals
have. -/
theorem canonical_read {P : Json → Prop} {bound : Nat} {w : Written} (h : w.Accepted bound)
    (hP : ∀ n ∈ w.survivors, P n.read) : (w.value Numeral.read).Canonical P bound := by
  classical
  have hvalue : w.value Numeral.read =
      w.value fun n => if n ∈ w.survivors then n.read else .null :=
    value_congr fun n hn => (if_pos hn).symm
  rw [hvalue]
  refine canonical_value h fun n _ => ?_
  by_cases hn : n ∈ w.survivors
  · exact .inr ((if_pos hn).symm ▸ hP n hn)
  · exact .inl (if_neg hn)

end Written

/-! ## Numbers as doubles -/

mutual

/-- **A value with its whole numbers as doubles.** -/
def inDoubles : Json → Json
  | integer i => real (realOfInt i)
  | list items => list (itemsInDoubles items)
  | object members => object (membersInDoubles members)
  | v => v

def itemsInDoubles : List Json → List Json
  | [] => []
  | v :: items => inDoubles v :: itemsInDoubles items

def membersInDoubles : List (String × Json) → List (String × Json)
  | [] => []
  | (key, v) :: members => (key, inDoubles v) :: membersInDoubles members

end

theorem numberwise_inDoubles : Numberwise inDoubles where
  null := rfl
  bool _ := rfl
  text _ := rfl
  list items := by
    rw [inDoubles]
    congr 1
    induction items with
    | nil => rfl
    | cons v items ih => rw [itemsInDoubles, ih, List.map_cons]
  object members := by
    rw [inDoubles]
    congr 1
    induction members with
    | nil => rfl
    | cons m members ih => rw [membersInDoubles, ih, List.map_cons]

theorem inDoubles_of_isNumber {v : Json} (hv : v.IsNumber) : inDoubles v = real (asDouble v) := by
  cases v <;> first | rfl | exact absurd hv id

theorem inDoubles_exact (n : Numeral) : inDoubles n.exact = real n.nearest := by
  rw [← n.asDouble_exact]
  unfold Numeral.exact
  split
  next hwhole => exact inDoubles_of_isNumber (isNumber_wholeNumber _ hwhole.2.2)
  next => rfl

theorem inDoubles_read {n : Numeral} (h : n.read?.isSome) : inDoubles n.read = real n.double := by
  obtain ⟨v, hv⟩ := Option.isSome_iff_exists.mp h
  rw [Numeral.read_eq hv, Numeral.double_eq hv]
  exact inDoubles_of_isNumber (Numeral.isNumber_of_read? hv)

end Json

/-!
## Renderings of a value

One value is written in many ways: with blanks, with its members in any order and some of them
written again later, with characters escaped or not. A relation tells which written values are
renderings of a value without fractions, by the form of the value alone. The reader agrees with it.
-/

namespace Json

/-- **A whole number of 64 bits**, with a sign or without. -/
def IsWholeNumber : Json → Prop
  | integer i => -(2 ^ 63 : Int) ≤ i ∧ i ≤ 2 ^ 64 - 1
  | _ => False

theorem IsWholeNumber.isNumber {v : Json} (h : v.IsWholeNumber) : v.IsNumber := by
  cases v with
  | integer i => exact h
  | _ => exact absurd h id

/-! ### Members by their keys -/

section

variable {key k : String} {v : Json} {members members' : List (String × Json)}

theorem lookup_member (l : String) (u : Json) :
    List.lookup k ((l, u) :: members) = if k = l then some u else members.lookup k := by
  by_cases h : k = l
  · rw [if_pos h, h, List.lookup_cons_self]
  · rw [if_neg h, List.lookup_cons, beq_false_of_ne h]

/-- Under its key the member is found that was put last. -/
theorem lookup_putMember :
    (putMember key v members).lookup k = if k = key then some v else members.lookup k := by
  induction members with
  | nil => exact lookup_member key v
  | cons m members ih =>
    obtain ⟨l, u⟩ := m
    unfold putMember
    by_cases heq : key = l
    · rw [if_pos heq, lookup_member, lookup_member, heq]
      split_ifs <;> rfl
    · by_cases hlt : key < l
      · rw [if_neg heq, if_pos hlt, lookup_member]
      · rw [if_neg heq, if_neg hlt, lookup_member, ih, lookup_member]
        split_ifs with hl hk
        · exact absurd (hk.symm.trans hl) heq
        all_goals rfl

/-- Sorted members are those that are found under their keys. -/
theorem Ascending.mem_iff_lookup (h : Ascending members) :
    (key, v) ∈ members ↔ members.lookup key = some v := by
  induction members with
  | nil => simp
  | cons m members ih =>
    obtain ⟨hfirst, hrest⟩ := List.pairwise_cons.mp h
    obtain ⟨l, u⟩ := m
    rw [List.mem_cons, ih hrest, lookup_member]
    by_cases hkey : key = l
    · subst hkey
      have hnone : members.lookup key ≠ some v := by
        intro hsome
        exact (hfirst (key, v) ((ih hrest).mpr hsome)).ne rfl
      simp [hnone, eq_comm]
    · simp [hkey]

/-- **Sorted members are known by what is found under each key.** -/
theorem Ascending.eq_of_lookup (h : Ascending members) (h' : Ascending members')
    (hlookup : ∀ key, members.lookup key = members'.lookup key) : members = members' := by
  refine List.Pairwise.eq_of_mem_iff h h' fun m => ?_
  rw [h.mem_iff_lookup, h'.mem_iff_lookup, hlookup]

end

/-- Members are read as those that were written last under each key. -/
theorem Written.lookup_membersValue (number : Numeral → Json) {key : String}
    (members : List (Spaced Pieces × Spaced Written)) (read : List (String × Json)) :
    (membersValue number read members).lookup key =
      ((members.map fun m => (m.1.item.string, m.2.item.value number)).reverse.lookup key).or
        (read.lookup key) := by
  induction members generalizing read with
  | nil => rfl
  | cons m members ih =>
    obtain ⟨k, x⟩ := m
    rw [membersValue_cons, ih, lookup_putMember, List.map_cons, List.reverse_cons,
      List.lookup_append, Option.or_assoc, lookup_member]
    congr 1
    split_ifs <;> rfl

theorem Written.ascending_membersValue (number : Numeral → Json)
    (members : List (Spaced Pieces × Spaced Written)) :
    Ascending (membersValue number [] members) :=
  membersValue_induction (motive := Ascending) (fun _ _ _ hread => hread.putMember _ _)
    List.Pairwise.nil

/-! ### Renderings -/

/-- **A plain token**: a text, or a whole number in its plain form. -/
def Token.Plain : Token → Prop
  | number n => ∃ i, (Json.integer i).IsWholeNumber ∧ n.Spells i
  | text ps => ps.string?.isSome

/-- **A written value is a rendering of a value** without fractions. Blanks are free, and so is the
form of a text. A whole number has its plain form. Of the members with one key the last one counts,
and those before it are renderings of any other values. -/
inductive Written.Renders : Json → Written → Prop
  | null : Renders .null .null
  | bool (b : Bool) : Renders (.bool b) (.bool b)
  | integer {i : Int} {n : Numeral} (hi : (Json.integer i).IsWholeNumber) (hn : n.Spells i) :
    Renders (.integer i) (.number n)
  | text {s : String} {ps : Pieces} (hs : ps.string? = some s) : Renders (.text s) (.text ps)
  | list {gap : Blanks} (items : List (Json × Spaced Written))
    (hitems : ∀ x ∈ items, Renders x.1 x.2.item) :
    Renders (.list (items.map Prod.fst)) (.list gap (items.map Prod.snd))
  | object {gap : Blanks} {members : List (String × Json)}
    (entries : List ((String × Json) × (Spaced Pieces × Spaced Written)))
    (hkeys : ∀ e ∈ entries, e.2.1.item.string? = some e.1.1)
    (hvalues : ∀ e ∈ entries, Renders e.1.2 e.2.2.item) (hsorted : Ascending members)
    (hlast : ∀ key, members.lookup key = (entries.map Prod.fst).reverse.lookup key) :
    Renders (.object members) (.object gap (entries.map Prod.snd))

namespace Written

variable {v : Json} {w : Written}

/-- **A rendering is read as the value**, where whole numbers are read off their spellings. -/
theorem Renders.value_eq {number : Numeral → Json}
    (hnumber : ∀ i n, (Json.integer i).IsWholeNumber → n.Spells i → number n = .integer i)
    (h : Renders v w) : w.value number = v := by
  induction h with
  | null => rfl
  | bool b => rfl
  | integer hi hn => exact hnumber _ _ hi hn
  | text hs => rw [value, Pieces.string, hs, Option.getD_some]
  | list items _ ih =>
    rw [value, itemsValue_eq_map, List.map_map]
    exact congrArg Json.list (List.map_congr_left ih)
  | object entries hkeys _ hsorted hlast ih =>
    refine congrArg Json.object ((ascending_membersValue number _).eq_of_lookup hsorted ?_)
    intro key
    have hread : (entries.map Prod.snd).map (fun m => (m.1.item.string, m.2.item.value number)) =
        entries.map Prod.fst := by
      rw [List.map_map]
      refine List.map_congr_left fun e he => Prod.ext ?_ (ih e he)
      exact congrArg (fun s => Option.getD s "") (hkeys e he)
    rw [lookup_membersValue, hread, hlast, List.lookup_nil, Option.or_none]

/-- The numerals and texts of a rendering are plain. -/
theorem Renders.plain (h : Renders v w) : ∀ t ∈ w.tokens, t.Plain := by
  induction h with
  | null => exact fun t ht => absurd ht List.not_mem_nil
  | bool b => exact fun t ht => absurd ht List.not_mem_nil
  | integer hi hn =>
    intro t ht
    rw [List.mem_singleton.mp ht]
    exact ⟨_, hi, hn⟩
  | text hs =>
    intro t ht
    rw [List.mem_singleton.mp ht]
    exact Option.isSome_of_mem hs
  | list items _ ih =>
    intro t ht
    obtain ⟨y, hy, ht⟩ := mem_itemsTokens.mp ht
    obtain ⟨x, hx, rfl⟩ := List.mem_map.mp hy
    exact ih x hx t ht
  | object entries hkeys _ _ _ ih =>
    intro t ht
    obtain ⟨m, hm, ht⟩ := mem_membersTokens.mp ht
    obtain ⟨e, he, rfl⟩ := List.mem_map.mp hm
    rcases ht with rfl | ht
    · exact Option.isSome_of_mem (hkeys e he)
    · exact ih e he t ht

/-- **What is written with plain tokens is a rendering** of what a correctly rounding reader makes
of it. -/
theorem renders_value (h : ∀ t ∈ w.tokens, t.Plain) : Renders (w.value Numeral.exact) w := by
  induction w using Written.induction with
  | null => exact .null
  | bool b => exact .bool b
  | number n =>
    obtain ⟨i, hi, hn⟩ := h (.number n) List.mem_cons_self
    rw [value, hn.exact_eq hi.isNumber]
    exact .integer hi hn
  | text ps =>
    obtain ⟨s, hs⟩ := Option.isSome_iff_exists.mp (h (.text ps) List.mem_cons_self)
    rw [value, Pieces.string, hs]
    exact .text hs
  | list gap items ih =>
    let entries := items.map fun x => (x.item.value Numeral.exact, x)
    have hlist : Renders (.list (entries.map Prod.fst)) (.list gap (entries.map Prod.snd)) := by
      refine .list entries (List.forall_mem_map.mpr fun x hx => ih x hx fun t ht => ?_)
      exact h t (mem_itemsTokens.mpr ⟨x, hx, ht⟩)
    simpa [entries, value, itemsValue_eq_map, Function.comp_def] using hlist
  | object gap members ih =>
    let entries := members.map fun m => ((m.1.item.string, m.2.item.value Numeral.exact), m)
    have hobject : Renders (.object (membersValue Numeral.exact [] members))
        (.object gap (entries.map Prod.snd)) := by
      refine .object entries ?_ ?_ (ascending_membersValue _ _) ?_
      · refine List.forall_mem_map.mpr fun m hm => ?_
        have hkey : m.1.item.string?.isSome := h _ (mem_membersTokens.mpr ⟨m, hm, .inl rfl⟩)
        obtain ⟨s, hs⟩ := Option.isSome_iff_exists.mp hkey
        change m.1.item.string? = some m.1.item.string
        rw [Pieces.string, hs, Option.getD_some]
      · refine List.forall_mem_map.mpr fun m hm => ih m hm fun t ht => ?_
        exact h t (mem_membersTokens.mpr ⟨m, hm, .inr ht⟩)
      · intro key
        rw [lookup_membersValue, List.lookup_nil, Option.or_none, List.map_map]
        rfl
    simpa [entries, value, Function.comp_def] using hobject

end Written
end Json

end HttpLoad
