import HttpLoad.Proofs.Bill.CreatedId

/-!
# The id among the members of an answer

Of an answer that is an object only the members named `id` are of any interest. Their names may be
written with escapes, and it does not matter where they stand, what else the object holds, how deep
that nests, and which blanks are in it. An answer has an id if there is one such member and its
value is a whole number of 64 bits.

## Main definitions

* `CreatedId.idMembers`: the members named `id`

## Main results

* `CreatedId.foldlM_idMembers`: the other members are passed over
* `CreatedId.parse?_object`: the id of an object, from its members named `id`
-/

namespace HttpLoad

namespace CreatedId

open Json Json.Written

/-- **The members named `id`**, in their order. A name may be written with escapes. -/
def idMembers (members : List (Spaced Pieces × Spaced Written)) :
    List (Spaced Pieces × Spaced Written) :=
  members.filter fun m => m.1.item.string? = some "id"

section

variable {m o : Spaced Pieces × Spaced Written}
  {members others : List (Spaced Pieces × Spaced Written)}

theorem string?_of_mem_idMembers (h : m ∈ idMembers members) : m.1.item.string? = some "id" :=
  of_decide_eq_true (List.mem_filter.mp h).2

theorem idMembers_cons_id (hname : m.1.item.string? = some "id") :
    idMembers (m :: members) = m :: idMembers members :=
  List.filter_cons_of_pos (decide_eq_true hname)

theorem idMembers_cons_other {key : String} (hname : m.1.item.string? = some key)
    (hkey : key ≠ "id") : idMembers (m :: members) = idMembers members := by
  refine List.filter_cons_of_neg ?_
  rw [hname, decide_eq_true_eq]
  exact fun h => hkey (Option.some.inj h)

/-- **The other members are passed over**, as long as their names are texts. -/
theorem foldlM_idMembers (hnames : ∀ m ∈ members, m.1.item.string?.isSome) (d : Draft) :
    members.foldlM takeMember d = (idMembers members).foldlM takeMember d := by
  induction members generalizing d with
  | nil => rfl
  | cons m members ih =>
    obtain ⟨hname, hnames⟩ := List.forall_mem_cons.mp hnames
    rcases key_cases m with hid | ⟨key, hother, hkey⟩ | hnone
    · rw [idMembers_cons_id hid, List.foldlM_cons, List.foldlM_cons]
      exact bind_congr fun next => ih hnames next
    · rw [idMembers_cons_other hother hkey, List.foldlM_cons, takeMember_other hother hkey]
      exact ih hnames d
    · rw [hnone] at hname
      cases hname

/-- An `id` that is given twice spoils the object, whatever the two values are. -/
theorem foldlM_takeMember_twice (hm : m.1.item.string? = some "id")
    (ho : o.1.item.string? = some "id") :
    (m :: o :: others).foldlM takeMember none = none := by
  rw [List.foldlM_cons, takeMember_id hm]
  cases idOf? m.2.item with
  | none => rfl
  | some id =>
    change (o :: others).foldlM takeMember (some id) = none
    rw [List.foldlM_cons, takeMember_id ho]
    rfl

end

section

variable {doc : Document} {gap : Blanks} {members : List (Spaced Pieces × Spaced Written)}
  {m : Spaced Pieces × Spaced Written} (hobject : doc.item = .object gap members)
  (hnames : ∀ m ∈ members, m.1.item.string?.isSome)

include hobject hnames

/-- The id of an object is read from its members named `id` alone. -/
theorem parse?_eq_foldlM : parse? doc.bytes =
    (((idMembers members).foldlM takeMember none).map fun d => d.getD none).getD none := by
  rw [parse?_bytes, hobject, answer?, foldlM_idMembers hnames]

/-- What is found under a single `id` is what its value gives. -/
theorem parse?_of_singleton (hm : idMembers members = [m]) :
    parse? doc.bytes = (idOf? m.2.item).getD none := by
  have hmem : m ∈ idMembers members := hm ▸ List.mem_singleton_self m
  have hname := string?_of_mem_idMembers hmem
  rw [parse?_eq_foldlM hobject hnames, hm, List.foldlM_cons, takeMember_id hname]
  cases idOf? m.2.item <;> rfl

/-- Two members named `id` are one too many. -/
theorem parse?_of_two_le (hlength : 2 ≤ (idMembers members).length) :
    parse? doc.bytes = none := by
  have hids (m) (h : m ∈ idMembers members) : m.1.item.string? = some "id" :=
    string?_of_mem_idMembers h
  rw [parse?_eq_foldlM hobject hnames]
  generalize idMembers members = ids at hlength hids ⊢
  rcases ids with _ | ⟨m, _ | ⟨o, others⟩⟩
  · exact absurd hlength (by simp)
  · exact absurd hlength (by simp)
  · obtain ⟨hm, hothers⟩ := List.forall_mem_cons.mp hids
    have ho := hothers o List.mem_cons_self
    rw [foldlM_takeMember_twice hm ho]
    rfl

/-- **The id of an answer that is an object** whose names are texts. Blanks, the order of the
members, and the names and values of the other ones are free. If one member is named `id` and its
value is a whole number of 64 bits, then that is the id. There is none if the value of the only such
member is anything else, if no member has the name, or if two have it. -/
theorem parse?_object :
    (∀ m n, idMembers members = [m] → IsSigned m.2.item n → parse? doc.bytes = some n) ∧
      (∀ m, idMembers members = [m] → (¬∃ n, IsSigned m.2.item n) → parse? doc.bytes = none) ∧
      (idMembers members = [] → parse? doc.bytes = none) ∧
      (2 ≤ (idMembers members).length → parse? doc.bytes = none) := by
  refine ⟨fun m n hm hn => ?_, fun m hm hnone => ?_, fun hnil => ?_,
    parse?_of_two_le hobject hnames⟩
  · rw [parse?_of_singleton hobject hnames hm, idOf?_eq_some_iff.mpr hn]
    rfl
  · rw [parse?_of_singleton hobject hnames hm]
    cases hid : idOf? m.2.item with
    | none => rfl
    | some id =>
      cases id with
      | none => rfl
      | some n => exact absurd ⟨n, idOf?_eq_some_iff.mp hid⟩ hnone
  · rw [parse?_eq_foldlM hobject hnames, hnil]
    rfl

end

/-! ## An answer with a text that looks like its end -/

/-- The key `id`, its first letter escaped. -/
def escapedId : Pieces := [.quad 0x30 0x30 0x36 0x39 0x69 (by decide), .plain 0x64 (by decide)]

def plainId : Pieces := [.plain 0x69 (by decide), .plain 0x64 (by decide)]

/-- The text `"\"}`, its quote escaped. -/
def quoteAndBrace : Pieces := [.short 0x22 0x22 (by decide), .plain 0x7d (by decide)]

def tab : Blanks := ⟨[0x09], List.all_eq_true.mp rfl⟩

/-- The object `{"}":[{"id":1},"\"}"],"\u0069d":-7}`, with tabs around its second name and before
the second value. -/
def guardedAnswer : Document := .tight (.object .none [
  (.tight [.plain 0x7d (by decide)], .tight (.list .none [
    .tight (.object .none [(.tight plainId, .tight (.number (.ofInt 1)))]),
    .tight (.text quoteAndBrace)])),
  (⟨tab, escapedId, tab⟩, ⟨tab, .number (.ofInt (-7)), .none⟩)])

/-- The id of the object is found behind that of an object further in, and behind texts with quotes
and braces, though its name is written with an escape. -/
theorem parse?_object_guardedAnswer :
    guardedAnswer.bytes =
        Bytes.ofString "\x7b\"\x7d\":[\x7b\"id\":1\x7d,\"\\\"\x7d\"],\t\"\\u0069d\"\t:\t-7\x7d" ∧
      parse? guardedAnswer.bytes = some (-7) := by
  refine ⟨by decide, ?_⟩
  have hobject : guardedAnswer.item = .object _ _ := rfl
  have hnamed := parse?_object hobject
    (List.forall_mem_cons.mpr ⟨by decide, List.forall_mem_singleton.mpr (by decide)⟩)
  exact hnamed.1 _ (-7) rfl ⟨.ofInt (-7), rfl, Numeral.spells_ofInt (-7), by decide, by decide⟩

end CreatedId

end HttpLoad
