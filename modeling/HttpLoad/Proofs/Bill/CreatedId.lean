import HttpLoad.Bill.Basic
import HttpLoad.Proofs.Json.Skipping
import HttpLoad.Proofs.Json.Undoing

/-!
# Which answers hold an id

An id is found in an object that has it as its only member of that name, whatever the other members
are: they are passed over. It is also found alone in a list, since a record may be written as the
list of its fields, and beside texts that are no UTF-8, as long as nobody reads them.

## Main definitions

* `CreatedId.answer?`: what is read of a written value
* `CreatedId.Holds`: a written value has an id in it

## Main results

* `CreatedId.parse?_bytes`: what is found in a whole text
* `CreatedId.parse?_eq_some_iff`: the answers that hold an id
-/

namespace HttpLoad

namespace CreatedId

open Json Json.Written

/-! ## What is found in a written value -/

/-- What the member `id` may hold: nothing, for `null`, or a whole number of 64 bits. -/
def idOf? : Written → Option (Option Int) := optional? signed?

/-- The draft behind a member with a key: an `id` may come only once. -/
def take (d : Draft) (key : String) (w : Written) : Option Draft :=
  if key = "id" then (if d.isSome then none else (idOf? w).map some) else some d

/-- The draft behind a member, whose key must be a text. -/
def takeMember (d : Draft) (m : Spaced Pieces × Spaced Written) : Option Draft :=
  m.1.item.string?.bind fun key => take d key m.2.item

/-- What is read of a written value as a whole: of an object the member, of a list the only item. -/
def answer? : Written → Option (Option Int)
  | .object _ members => (members.foldlM takeMember none).map fun d => d.getD none
  | .list _ [] => some none
  | .list _ [x] => idOf? x.item
  | _ => none

/-! ## The field -/

/-- The only field that is known. -/
def idField : Json.Field Draft := record.fields.head (List.cons_ne_nil _ _)

theorem fields_record : record.fields = [idField] := rfl

section

variable (d : Draft) (gap before : Blanks) (w : Written) {rest : Bytes} (hrest : Ends rest)

include hrest

/-- The field is read as what the member may hold. -/
theorem read_written : (idField.read d (gap.bytes ++ (w.bytes ++ rest))).toOption =
    (idOf? w).map fun id => (some id, rest) := by
  have hdecode (w : Written) : (decodeInteger "i64" (w.bytes ++ rest)).toOption =
      w.signed?.map fun i => (i, rest) := decodeInteger_written .none w "i64" hrest
  have hread := decodeOptional_written gap w hdecode
  refine (toOption_bind_ok _ fun read : Option Int × Bytes => (some read.1, read.2)).trans ?_
  rw [hread, Option.map_map]
  rfl

/-- **One member** is taken into the draft, or passed over if its name is another one. -/
theorem readMember_written (key : String) :
    (record.readMember d key (gap.bytes ++ 0x3a :: (before.bytes ++ (w.bytes ++ rest)))).toOption =
      (take d key w).map fun d => (d, rest) := by
  rw [Record.readMember, fields_record, take]
  by_cases hkey : key = "id"
  · subst hkey
    have hfind : [idField].find? (fun field => field.name == "id") = some idField := rfl
    rw [hfind, if_pos rfl]
    cases d with
    | some id => rfl
    | none =>
      simp only [readColon_blanks, bind, Except.bind]
      refine (read_written none before w hrest).trans ?_
      rw [Option.isSome_none, if_neg (by decide), Option.map_map]
      rfl
  · have hfind : [idField].find? (fun field => field.name == key) = none := by
      simp [idField, record, Ne.symm hkey]
    rw [hfind, if_neg hkey]
    simp only [readColon_blanks, skipValue_written before w hrest, bind, Except.bind]
    rfl

end

/-! ## Members -/

/-- What a draft comes to with what stands behind the member: the next one, or the end. -/
def afterMember (fuel : Nat) (d : Draft) : Bytes ⊕ Bytes → Option (Option Int × Bytes)
  | .inl next => (record.decodeMembers fuel d next).toOption
  | .inr rest => some (d.getD none, rest)

/-- **One member** is taken, and then what stands behind it. -/
theorem decodeMembers_member (fuel : Nat) (d : Draft) (key : Spaced Pieces) (x : Spaced Written)
    {tail : Bytes} (htail : Ends tail) {between : Bytes ⊕ Bytes}
    (hbetween : betweenMembers tail = .ok between) :
    (record.decodeMembers (fuel + 1) d (key.item.quoted ++ (key.after.bytes ++ 0x3a ::
        (x.before.bytes ++ (x.item.bytes ++ tail))))).toOption =
      (takeMember d (key, x)).bind fun d => afterMember fuel d between := by
  have htext := readText_pieces key.item
    (key.after.bytes ++ 0x3a :: (x.before.bytes ++ (x.item.bytes ++ tail)))
  rw [Pieces.quoted, List.cons_append, List.append_assoc, List.singleton_append,
    Record.decodeMembers, takeMember]
  cases hstring : key.item.string? with
  | none =>
    rw [hstring] at htext
    obtain ⟨fault, hfault⟩ := toOption_eq_none_iff.mp htext
    rw [hfault]
    rfl
  | some name =>
    rw [hstring, Option.map_some, toOption_eq_some_iff] at htext
    have hmember := readMember_written d key.after x.before x.item htail name
    rw [htext, Option.bind_some]
    simp only
    cases htake : take d name x.item with
    | none =>
      rw [htake] at hmember
      obtain ⟨fault, hfault⟩ := toOption_eq_none_iff.mp hmember
      rw [hfault]
      rfl
    | some next =>
      rw [htake, Option.map_some, toOption_eq_some_iff] at hmember
      rw [hmember]
      simp only [hbetween]
      cases between <;> rfl

/-- The members of an object are taken one after the other. -/
theorem decodeMembers_written (fuel : Nat) (d : Draft) (key : Spaced Pieces) (x : Spaced Written)
    (members : List (Spaced Pieces × Spaced Written)) (rest : Bytes)
    (hfuel : members.length < fuel) :
    (record.decodeMembers fuel d (key.item.quoted ++ (key.after.bytes ++ 0x3a ::
        (x.before.bytes ++ (x.item.bytes ++ (x.after.bytes ++
          (membersBytes false members ++ 0x7d :: rest))))))).toOption =
      (((key, x) :: members).foldlM takeMember d).map fun d => (d.getD none, rest) := by
  induction members generalizing fuel d key x with
  | nil =>
    obtain ⟨fuel, rfl⟩ := Nat.exists_eq_succ_of_ne_zero (Nat.ne_of_gt hfuel)
    refine (decodeMembers_member fuel d key x (ends_blanks _ (ends_cons (by decide) _))
      (betweenMembers_end _ _)).trans ?_
    rw [List.foldlM_cons]
    cases takeMember d (key, x) <;> rfl
  | cons m members ih =>
    obtain ⟨key', y⟩ := m
    obtain ⟨fuel, rfl⟩ := Nat.exists_eq_succ_of_ne_zero (Nat.ne_of_gt (Nat.zero_lt_of_lt hfuel))
    rw [membersBytes_cons]
    simp only [comma, keyBytes, Bool.false_eq_true, if_false, List.append_assoc, List.cons_append,
      List.nil_append]
    refine (decodeMembers_member fuel d key x (ends_blanks _ (ends_cons (by decide) _))
      (betweenMembers_member _ _ _)).trans ?_
    rw [List.foldlM_cons]
    cases takeMember d (key, x) with
    | none => rfl
    | some next => exact ih fuel next key' y (Nat.lt_of_succ_lt_succ hfuel)

theorem length_le_membersBytes (first : Bool) (members : List (Spaced Pieces × Spaced Written)) :
    members.length ≤ (membersBytes first members).length := by
  induction members generalizing first with
  | nil => exact Nat.zero_le _
  | cons m members ih =>
    obtain ⟨key, x⟩ := m
    have hrest := ih false
    rw [membersBytes_cons]
    simp only [keyBytes, List.length_append, List.length_cons]
    omega

/-! ## Whole answers -/

theorem closeList_end (gap : Blanks) (rest : Bytes) :
    Record.closeList (gap.bytes ++ 0x5d :: rest) = .ok rest := by
  rw [Record.closeList, skipBlanks_blanks, skipBlanks_cons (by decide)]
  rfl

/-- A list of fields ends behind the last one. -/
theorem closeList_comma (gap : Blanks) (rest : Bytes) :
    (Record.closeList (gap.bytes ++ 0x2c :: rest)).toOption = none := by
  rw [Record.closeList, skipBlanks_blanks, skipBlanks_cons (by decide)]
  simp only
  split <;> rfl

section

variable (gap : Blanks) {rest : Bytes}

/-- A list is read as the id alone. -/
theorem decode_list (inner : Blanks) (items : List (Spaced Written)) :
    (record.decode (gap.bytes ++ ((Written.list inner items).bytes ++ rest))).toOption =
      (answer? (.list inner items)).map fun id => (id, rest) := by
  rw [Record.decode, skipBlanks_written, Written.bytes]
  simp only [List.cons_append, List.append_assoc, List.nil_append, fields_record]
  cases items with
  | nil =>
    rw [itemsBytes, List.nil_append, Record.decodeFields, if_pos rfl, firstItem_end]
    rfl
  | cons x items =>
    have hread := read_written record.start .none x.item
      (ends_blanks x.after (ends_itemsBytes items rest))
    change (idField.read record.start (x.item.bytes ++ _)).toOption = _ at hread
    rw [itemsBytes_cons]
    simp only [comma, if_true, List.nil_append, List.append_assoc]
    rw [Record.decodeFields, if_pos rfl, firstItem_item]
    simp only
    cases hid : idOf? x.item with
    | none =>
      rw [hid] at hread
      have hanswer : answer? (.list inner (x :: items)) = none := by
        cases items with
        | nil => exact hid
        | cons y items => rfl
      rw [hanswer]
      obtain ⟨fault, hfault⟩ := toOption_eq_none_iff.mp hread
      rw [hfault]
      rfl
    | some id =>
      rw [hid, Option.map_some, toOption_eq_some_iff] at hread
      rw [hread]
      simp only [Record.decodeFields]
      cases items with
      | nil =>
        rw [itemsBytes, List.nil_append, closeList_end, answer?, hid]
        rfl
      | cons y items =>
        obtain ⟨fault, hfault⟩ := toOption_eq_none_iff.mp
          (closeList_comma x.after (y.before.bytes ++ (y.item.bytes ++ (y.after.bytes ++
            (itemsBytes false items ++ 0x5d :: rest)))))
        simp only [itemsBytes_cons, comma, Bool.false_eq_true, if_false, List.append_assoc,
          List.cons_append, List.nil_append]
        rw [hfault]
        rfl

/-- An object is read member by member. -/
theorem decode_object (inner : Blanks) (members : List (Spaced Pieces × Spaced Written)) :
    (record.decode (gap.bytes ++ ((Written.object inner members).bytes ++ rest))).toOption =
      (answer? (.object inner members)).map fun id => (id, rest) := by
  rw [Record.decode, skipBlanks_written, Written.bytes]
  simp only [List.cons_append, List.append_assoc, List.nil_append]
  cases members with
  | nil =>
    rw [membersBytes, List.nil_append, firstMember_end]
    rfl
  | cons m members =>
    obtain ⟨key, x⟩ := m
    have hlength := length_le_membersBytes false members
    rw [membersBytes_cons]
    simp only [comma, keyBytes, if_true, List.nil_append, List.append_assoc, List.cons_append,
      firstMember_quoted]
    rw [decodeMembers_written, answer?, Option.map_map]
    · rfl
    · simp only [List.length_append, List.length_cons]
      omega

/-- Nothing else is read. -/
theorem decode_scalar {w : Written} (hw : w.IsScalar) :
    (record.decode (gap.bytes ++ (w.bytes ++ rest))).toOption = none := by
  obtain ⟨b, bytes, hbytes, hlist, hobject⟩ := hw.exists_eq_cons
  rw [Record.decode, skipBlanks_written, hbytes, List.cons_append]
  split
  next h => exact absurd (List.cons.inj h).1 hlist
  next h => exact absurd (List.cons.inj h).1 hobject
  next => rfl

/-- **What is read of a written value** as a whole. -/
theorem decode_written (w : Written) : (record.decode (gap.bytes ++ (w.bytes ++ rest))).toOption =
    (answer? w).map fun id => (id, rest) := by
  cases w with
  | list inner items => exact decode_list gap inner items
  | object inner members => exact decode_object gap inner members
  | null => exact decode_scalar gap (w := .null) trivial
  | bool b => exact decode_scalar gap (w := .bool b) trivial
  | number n => exact decode_scalar gap (w := .number n) trivial
  | text ps => exact decode_scalar gap (w := .text ps) trivial

end

/-- **What is found in a whole text** is what the text holds. -/
theorem parse?_bytes (doc : Document) : parse? doc.bytes = (answer? doc.item).getD none := by
  have hread := @decode_written doc.before doc.after.bytes doc.item
  rw [parse?, decodeAll, Document.bytes]
  cases hanswer : answer? doc.item with
  | none =>
    rw [hanswer] at hread
    obtain ⟨fault, hfault⟩ := toOption_eq_none_iff.mp hread
    rw [hfault]
    rfl
  | some id =>
    rw [hanswer, Option.map_some, toOption_eq_some_iff] at hread
    rw [hread]
    simp only [bind, Except.bind, readEnd_blanks]
    rfl

/-! ## Whatever is read is written -/

theorem takesWritten_idField (d : Draft) : TakesWritten (idField.read d) := by
  intro bytes rest next h
  obtain ⟨⟨id, tail⟩, hread, hresult⟩ := bind_eq_ok_iff.mp h
  obtain ⟨-, rfl⟩ := Prod.mk.inj (Except.ok.inj hresult)
  exact TakesWritten.optional (takesWritten_decodeInteger "i64") hread

theorem exists_of_readMember {d next : Draft} {key : String} {bytes rest : Bytes}
    (h : record.readMember d key bytes = .ok (next, rest)) :
    ∃ (gap before : Blanks) (w : Written),
      bytes = gap.bytes ++ 0x3a :: (before.bytes ++ (w.bytes ++ rest)) := by
  unfold Record.readMember at h
  split at h
  next field hfield =>
    obtain rfl : field = idField := List.mem_singleton.mp (List.mem_of_find?_eq_some hfield)
    split at h
    next => exact absurd h (by simp)
    next =>
      obtain ⟨tail, hcolon, hread⟩ := bind_eq_ok_iff.mp h
      obtain ⟨gap, rfl⟩ := exists_of_readColon hcolon
      obtain ⟨before, w, rfl⟩ := takesWritten_idField d hread
      exact ⟨gap, before, w, rfl⟩
  next =>
    obtain ⟨tail, hcolon, hrest⟩ := bind_eq_ok_iff.mp h
    obtain ⟨last, hskip, hresult⟩ := bind_eq_ok_iff.mp hrest
    obtain ⟨gap, rfl⟩ := exists_of_readColon hcolon
    obtain ⟨before, w, rfl⟩ := exists_written_of_skipValue hskip
    obtain ⟨-, rfl⟩ := Prod.mk.inj (Except.ok.inj hresult)
    exact ⟨gap, before, w, rfl⟩

/-- Whatever is decoded as the members of an object is written members and a brace. -/
theorem exists_of_decodeMembers {fuel : Nat} {d : Draft} {bytes rest : Bytes} {id : Option Int}
    (h : record.decodeMembers fuel d bytes = .ok (id, rest)) :
    ∃ (key : Spaced Pieces) (x : Spaced Written) (members : List (Spaced Pieces × Spaced Written)),
      bytes = membersBytes true ((key, x) :: members) ++ 0x7d :: rest := by
  induction fuel generalizing d bytes with
  | zero => exact absurd h (by simp [Record.decodeMembers])
  | succ fuel ih =>
    unfold Record.decodeMembers at h
    split at h
    next hzero => exact absurd hzero (Nat.succ_ne_zero _)
    next tail hfuel =>
      obtain rfl := Nat.succ.inj hfuel
      split at h
      next => exact absurd h (by simp)
      next key tail htext =>
        obtain ⟨ps, rfl, -⟩ := exists_pieces_of_readText htext
        split at h
        next => exact absurd h (by simp)
        next next tail hmember =>
          obtain ⟨gap, before, w, rfl⟩ := exists_of_readMember hmember
          split at h
          next => exact absurd h (by simp)
          next hbetween =>
            obtain ⟨after, rfl⟩ := exists_of_betweenMembers_end hbetween
            obtain ⟨-, rfl⟩ := Prod.mk.inj (Except.ok.inj h)
            refine ⟨⟨.none, ps, gap⟩, ⟨before, w, after⟩, [], ?_⟩
            simp [membersBytes, comma, keyBytes, Blanks.none, Pieces.quoted]
          next hbetween =>
            obtain ⟨after, before', rfl⟩ := exists_of_betweenMembers_member hbetween
            obtain ⟨key', x, members, rfl⟩ := ih h
            -- the blanks that were taken with the comma belong to the next key
            refine ⟨⟨.none, ps, gap⟩, ⟨before, w, after⟩,
              (⟨before'.append key'.before, key'.item, key'.after⟩, x) :: members, ?_⟩
            simp [comma, keyBytes, Blanks.append, Blanks.none, Pieces.quoted]
    all_goals exact absurd h (by simp)

theorem exists_of_closeList {bytes rest : Bytes} (h : Record.closeList bytes = .ok rest) :
    ∃ gap : Blanks, bytes = gap.bytes ++ 0x5d :: rest := by
  obtain ⟨gap, tail, rfl, htail⟩ := exists_blanks bytes
  rw [Record.closeList, htail] at h
  clear htail
  split at h
  next => exact ⟨gap, by rw [Except.ok.inj h]⟩
  next => split at h <;> exact absurd h (by simp)
  all_goals exact absurd h (by simp)

/-- Whatever is decoded as the fields of a list is a written list behind its bracket. -/
theorem exists_of_decodeFields {bytes rest : Bytes} {id : Option Int}
    (h : record.decodeFields 0 record.fields record.start bytes = .ok (id, rest)) :
    ∃ (gap : Blanks) (items : List (Spaced Written)),
      bytes = gap.bytes ++ (itemsBytes true items ++ 0x5d :: rest) := by
  rw [fields_record, Record.decodeFields, if_pos rfl] at h
  split at h
  next => exact absurd h (by simp)
  next hfirst =>
    obtain ⟨gap, rfl⟩ := exists_of_firstItem_end hfirst
    obtain ⟨-, rfl⟩ := Prod.mk.inj (Except.ok.inj h)
    exact ⟨gap, [], by simp [itemsBytes]⟩
  next hfirst =>
    obtain ⟨gap, rfl⟩ := exists_of_firstItem_item hfirst
    split at h
    next => exact absurd h (by simp)
    next hread =>
      obtain ⟨before, w, rfl⟩ := takesWritten_idField _ hread
      rw [Record.decodeFields] at h
      split at h
      next => exact absurd h (by simp)
      next hclose =>
        obtain ⟨after, rfl⟩ := exists_of_closeList hclose
        obtain ⟨-, rfl⟩ := Prod.mk.inj (Except.ok.inj h)
        exact ⟨gap, [⟨before, w, after⟩], by simp [itemsBytes, comma]⟩

/-- **Whatever is decoded is a written value.** -/
theorem takesWritten_decode : TakesWritten record.decode := by
  intro bytes rest id h
  obtain ⟨gap, tail, rfl, htail⟩ := exists_blanks bytes
  rw [Record.decode, htail] at h
  clear htail
  split at h
  next =>
    obtain ⟨inner, items, rfl⟩ := exists_of_decodeFields h
    exact ⟨gap, .list inner items, by simp [Written.bytes]⟩
  next =>
    split at h
    next => exact absurd h (by simp)
    next hfirst =>
      obtain ⟨inner, rfl⟩ := exists_of_firstMember_end hfirst
      obtain ⟨-, rfl⟩ := Prod.mk.inj (Except.ok.inj h)
      exact ⟨gap, .object inner [], by simp [Written.bytes, membersBytes]⟩
    next hfirst =>
      obtain ⟨inner, rfl⟩ := exists_of_firstMember_member hfirst
      obtain ⟨key, x, members, rfl⟩ := exists_of_decodeMembers h
      exact ⟨gap, .object inner ((key, x) :: members), by simp [Written.bytes]⟩
  next => exact absurd h (by simp)

/-- An answer that holds an id is a whole text. -/
theorem exists_document_of_parse? {body : Bytes} {n : Int} (h : parse? body = some n) :
    ∃ doc : Document, doc.bytes = body := by
  rw [parse?] at h
  split at h
  next hdecode =>
    obtain ⟨⟨id, rest⟩, hread, hrest⟩ := bind_eq_ok_iff.mp hdecode
    obtain ⟨⟨⟩, hend, -⟩ := bind_eq_ok_iff.mp hrest
    obtain ⟨before, w, rfl⟩ := takesWritten_decode hread
    obtain ⟨after, rfl⟩ := exists_of_readEnd hend
    exact ⟨⟨before, w, after⟩, rfl⟩
  next => exact absurd h (by simp)

/-! ## Which answers hold an id -/

/-- **A written value has an id in it**: an object with one member of that name, whose other keys
are texts, or a list of nothing but the id. -/
inductive Holds : Written → Int → Prop
  | member {gap : Blanks} {front back : List (Spaced Pieces × Spaced Written)}
    {m : Spaced Pieces × Spaced Written} {n : Int} (hname : m.1.item.string? = some "id")
    (hid : IsSigned m.2.item n)
    (hothers : ∀ o ∈ front ++ back, ∃ key, o.1.item.string? = some key ∧ key ≠ "id") :
    Holds (.object gap (front ++ m :: back)) n
  | lone {gap : Blanks} {x : Spaced Written} {n : Int} (hid : IsSigned x.item n) :
    Holds (.list gap [x]) n

theorem idOf?_eq_some_iff {w : Written} {n : Int} : idOf? w = some (some n) ↔ IsSigned w n := by
  rw [← signed?_eq_some_iff]
  cases w <;> simp [idOf?, optional?, signed?]

section

variable {m : Spaced Pieces × Spaced Written}

theorem takeMember_id (hname : m.1.item.string? = some "id") (d : Draft) :
    takeMember d m = if d.isSome then none else (idOf? m.2.item).map some := by
  rw [takeMember, hname, Option.bind_some, take, if_pos rfl]

theorem takeMember_other {key : String} (hname : m.1.item.string? = some key) (hkey : key ≠ "id")
    (d : Draft) : takeMember d m = some d := by
  rw [takeMember, hname, Option.bind_some, take, if_neg hkey]

/-- A key is the known one, another text, or no text at all. -/
theorem key_cases (m : Spaced Pieces × Spaced Written) :
    m.1.item.string? = some "id" ∨ (∃ key, m.1.item.string? = some key ∧ key ≠ "id") ∨
      m.1.item.string? = none := by
  cases m.1.item.string? with
  | none => exact .inr (.inr rfl)
  | some key =>
    by_cases hkey : key = "id"
    · exact .inl (congrArg some hkey)
    · exact .inr (.inl ⟨key, rfl, hkey⟩)

end

/-- Behind the id no other one may come, and all keys must be texts. -/
theorem foldlM_takeMember_some {id : Option Int} {d : Draft}
    {members : List (Spaced Pieces × Spaced Written)} :
    members.foldlM takeMember (some id) = some d ↔ d = some id ∧
      ∀ o ∈ members, ∃ key, o.1.item.string? = some key ∧ key ≠ "id" := by
  induction members with
  | nil => simp [eq_comm]
  | cons m members ih =>
    rw [List.foldlM_cons, List.forall_mem_cons]
    rcases key_cases m with hname | ⟨key, hname, hkey⟩ | hname
    · rw [takeMember_id hname]
      simp [hname]
    · rw [takeMember_other hname hkey]
      simp only [Option.bind_eq_bind, Option.bind_some, ih]
      simp [hname, hkey]
    · simp [takeMember, hname]

/-- The id is one of the members, and the others have keys that are other texts. -/
def HoldsOne (id : Option Int) (members : List (Spaced Pieces × Spaced Written)) : Prop :=
  ∃ front m back, members = front ++ m :: back ∧ m.1.item.string? = some "id" ∧
    idOf? m.2.item = some id ∧ ∀ o ∈ front ++ back, ∃ key, o.1.item.string? = some key ∧ key ≠ "id"

section

variable {id : Option Int} {m : Spaced Pieces × Spaced Written}
  {members : List (Spaced Pieces × Spaced Written)}

theorem holdsOne_cons_id (hname : m.1.item.string? = some "id") :
    HoldsOne id (m :: members) ↔ idOf? m.2.item = some id ∧
      ∀ o ∈ members, ∃ key, o.1.item.string? = some key ∧ key ≠ "id" := by
  constructor
  · rintro ⟨front, o, back, hsplit, -, hid, hothers⟩
    cases front with
    | nil =>
      obtain ⟨rfl, rfl⟩ := List.cons.inj hsplit
      exact ⟨hid, hothers⟩
    | cons f front =>
      obtain ⟨rfl, rfl⟩ := List.cons.inj hsplit
      obtain ⟨key, hkey, hne⟩ := hothers m List.mem_cons_self
      exact absurd (Option.some.inj (hkey.symm.trans hname)) hne
  · exact fun ⟨hid, hothers⟩ => ⟨[], m, members, rfl, hname, hid, hothers⟩

theorem holdsOne_cons_other {key : String} (hname : m.1.item.string? = some key)
    (hkey : key ≠ "id") : HoldsOne id (m :: members) ↔ HoldsOne id members := by
  constructor
  · rintro ⟨front, o, back, hsplit, hid, hvalue, hothers⟩
    cases front with
    | nil =>
      obtain ⟨rfl, rfl⟩ := List.cons.inj hsplit
      exact absurd (Option.some.inj (hname.symm.trans hid)) hkey
    | cons f front =>
      obtain ⟨rfl, rfl⟩ := List.cons.inj hsplit
      exact ⟨front, o, back, rfl, hid, hvalue, fun o ho => hothers o (List.mem_cons_of_mem _ ho)⟩
  · rintro ⟨front, o, back, rfl, hid, hvalue, hothers⟩
    exact ⟨m :: front, o, back, rfl, hid, hvalue,
      List.forall_mem_cons.mpr ⟨⟨key, hname, hkey⟩, hothers⟩⟩

theorem not_holdsOne_cons_none (hname : m.1.item.string? = none) : ¬HoldsOne id (m :: members) := by
  rintro ⟨front, o, back, hsplit, hid, -, hothers⟩
  cases front with
  | nil =>
    obtain ⟨rfl, -⟩ := List.cons.inj hsplit
    exact absurd (hname.symm.trans hid) (by simp)
  | cons f front =>
    obtain ⟨rfl, -⟩ := List.cons.inj hsplit
    obtain ⟨key, hkey, -⟩ := hothers m List.mem_cons_self
    exact absurd (hname.symm.trans hkey) (by simp)

/-- **An id is taken from the members** if it is one of them and the others do not get in the
way. -/
theorem foldlM_takeMember_none :
    members.foldlM takeMember none = some (some id) ↔ HoldsOne id members := by
  induction members with
  | nil => simp [HoldsOne]
  | cons m members ih =>
    rw [List.foldlM_cons]
    rcases key_cases m with hname | ⟨key, hname, hkey⟩ | hname
    · rw [takeMember_id hname, holdsOne_cons_id hname, Option.isSome_none, if_neg (by decide)]
      cases hvalue : idOf? m.2.item with
      | none => simp
      | some v =>
        simp only [Option.map_some, Option.bind_eq_bind, Option.bind_some, foldlM_takeMember_some,
          Option.some.injEq]
        exact and_congr_left' eq_comm
    · rw [takeMember_other hname hkey, holdsOne_cons_other hname hkey]
      exact ih
    · rw [takeMember, hname]
      exact iff_of_false (by simp) (not_holdsOne_cons_none hname)

end

/-- **What is read of a written value is an id** exactly if the value holds it. -/
theorem answer?_eq_some_iff {w : Written} {n : Int} : answer? w = some (some n) ↔ Holds w n := by
  constructor
  · intro h
    cases w with
    | object gap members =>
      obtain ⟨d, hd, hn⟩ := Option.map_eq_some_iff.mp h
      cases d with
      | none => exact absurd hn (by simp)
      | some id =>
        obtain rfl : id = some n := hn
        obtain ⟨front, m, back, rfl, hname, hid, hothers⟩ := foldlM_takeMember_none.mp hd
        exact .member hname (idOf?_eq_some_iff.mp hid) hothers
    | list gap items =>
      rcases items with _ | ⟨x, _ | ⟨y, items⟩⟩
      · exact absurd h (by simp [answer?])
      · exact .lone (idOf?_eq_some_iff.mp h)
      · exact absurd h (by simp [answer?])
    | _ => exact absurd h (by simp [answer?])
  · intro h
    cases h with
    | member hname hid hothers =>
      have htaken := foldlM_takeMember_none.mpr
        ⟨_, _, _, rfl, hname, idOf?_eq_some_iff.mpr hid, hothers⟩
      rw [answer?, htaken]
      rfl
    | lone hid => exact idOf?_eq_some_iff.mpr hid

/-- **The answers that hold an id** are the whole texts whose value has it in it. Such a text need
be neither an object nor UTF-8. -/
theorem parse?_eq_some_iff (body : Bytes) (n : Int) :
    parse? body = some n ↔ ∃ doc : Document, doc.bytes = body ∧ Holds doc.item n := by
  constructor
  · intro h
    obtain ⟨doc, rfl⟩ := exists_document_of_parse? h
    rw [parse?_bytes] at h
    refine ⟨doc, rfl, answer?_eq_some_iff.mp ?_⟩
    cases hanswer : answer? doc.item with
    | none => exact absurd h (by rw [hanswer]; simp)
    | some id =>
      rw [hanswer] at h
      exact congrArg some h
  · rintro ⟨doc, rfl, h⟩
    rw [parse?_bytes, answer?_eq_some_iff.mpr h]
    rfl

/-- An object with an id, and with a text that is no UTF-8. -/
def strayAnswer : Bytes :=
  Bytes.ofString "\x7b\"note\":\"" ++ 0xff :: Bytes.ofString "\",\"id\":7\x7d"

/-- **An id is found beyond objects of UTF-8**: in a list of nothing but a number, which is no
object, and beside a text that is no UTF-8. -/
theorem parse?_beyond_objects :
    parse? (Bytes.ofString "[7]") = some 7 ∧
      (¬ ∃ (doc : Document) (gap : Blanks) (members : List (Spaced Pieces × Spaced Written)),
        doc.bytes = Bytes.ofString "[7]" ∧ doc.item = .object gap members) ∧
      parse? strayAnswer = some 7 ∧ Bytes.toString? strayAnswer = none := by
  refine ⟨by decide, ?_, by decide, by decide⟩
  rintro ⟨doc, gap, members, hbytes, hitem⟩
  -- the first byte that is no blank is a brace on one side and a bracket on the other
  have hskip := skipBlanks_written doc.before doc.item doc.after.bytes
  have hlist : skipBlanks (Bytes.ofString "[7]") = Bytes.ofString "[7]" := by decide
  rw [← Document.bytes, hbytes, hitem, hlist] at hskip
  exact absurd (List.cons.inj hskip).1 (by decide)

end CreatedId

end HttpLoad
