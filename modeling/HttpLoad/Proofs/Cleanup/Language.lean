import HttpLoad.Bill.Batch
import HttpLoad.Cleanup.Store
import HttpLoad.Proofs.Basic

/-!
# The language of the pattern for bill numbers

What fits a pattern is said for each way in which a pattern can begin. A text that is escaped fits
only itself, so the pattern of a marker is fitted by the texts that begin with the marker and a
dash.

## Main definitions

* `Like.dangles pattern`: the pattern ends with a backslash that has nothing to take a meaning from
* `BillTable`: bills by id and number, with what a deletion by a pattern takes out and leaves

## Main results

* `accepts_escape_append`: an escaped text fits itself and nothing else
* `accepts_billPattern_iff`: the texts that fit the pattern of a marker
* `billPattern_language`: these texts, no dangling backslash, and no bill of the marker left
* `Like.accepts_numberFor_iff`: the bills that fit the pattern of a marker
* `Like.accepts_defaultMarker_iff`: markers made from the time keep runs apart
* `delete_takes_iff`: the bills that a deletion takes, by the markers of their runs
* `delete_takes_another_run`: two runs that are not kept apart
-/

namespace HttpLoad

namespace Like

/-! ## How a text fits a pattern -/

theorem mem_suffixes {text rest : List Char} : rest ∈ suffixes text ↔ rest <:+ text := by
  induction text with
  | nil => simp [suffixes]
  | cons c cs ih => simp [suffixes, ih, List.suffix_cons_iff]

theorem accepts_percent_iff {pattern text : List Char} :
    accepts ('%' :: pattern) text = true ↔
      ∃ skipped rest, text = skipped ++ rest ∧ accepts pattern rest = true := by
  simp only [accepts, List.any_eq_true, mem_suffixes]
  constructor
  · rintro ⟨rest, ⟨skipped, rfl⟩, hrest⟩
    exact ⟨skipped, rest, rfl, hrest⟩
  · rintro ⟨skipped, rest, rfl, hrest⟩
    exact ⟨rest, List.suffix_append .., hrest⟩

theorem accepts_underscore_iff {pattern text : List Char} :
    accepts ('_' :: pattern) text = true ↔
      ∃ c rest, text = c :: rest ∧ accepts pattern rest = true := by
  constructor
  · cases text with
    | nil => simp [accepts]
    | cons c rest => exact fun h => ⟨c, rest, rfl, h⟩
  · rintro ⟨c, rest, rfl, hrest⟩
    exact hrest

theorem accepts_escaped_iff {c : Char} {pattern text : List Char} :
    accepts ('\\' :: c :: pattern) text = true ↔
      ∃ rest, text = c :: rest ∧ accepts pattern rest = true := by
  constructor
  · cases text with
    | nil => simp [accepts]
    | cons d rest =>
      simp only [accepts, Bool.and_eq_true, beq_iff_eq]
      rintro ⟨rfl, hrest⟩
      exact ⟨rest, rfl, hrest⟩
  · rintro ⟨rest, rfl, hrest⟩
    simpa [accepts] using hrest

/-- A character without a meaning of its own is matched like an escaped one. -/
theorem accepts_literal {c : Char} (hc : isSpecial c = false) (pattern text : List Char) :
    accepts (c :: pattern) text = accepts ('\\' :: c :: pattern) text := by
  simp only [isSpecial, Bool.or_eq_false_iff, beq_eq_false_iff_ne] at hc
  obtain ⟨⟨hpercent, hunderscore⟩, hbackslash⟩ := hc
  cases text <;> rw [accepts, accepts] <;> simp_all

/-- **An escaped text fits itself and nothing else.** -/
theorem accepts_escape_append {cs pattern text : List Char} :
    accepts (escape cs ++ pattern) text = true ↔
      ∃ rest, text = cs ++ rest ∧ accepts pattern rest = true := by
  induction cs generalizing text with
  | nil => simp [escape]
  | cons c cs ih =>
    -- with a backslash in front or not, one character of the text takes one of the pattern
    have hstep : accepts (escape (c :: cs) ++ pattern) text = true ↔
        ∃ rest, text = c :: rest ∧ accepts (escape cs ++ pattern) rest = true := by
      cases hc : isSpecial c with
      | true => simpa [escape, hc] using accepts_escaped_iff
      | false => simpa [escape, hc, accepts_literal hc] using accepts_escaped_iff
    rw [hstep]
    simp only [ih]
    constructor
    · rintro ⟨_, rfl, rest, rfl, hrest⟩
      exact ⟨rest, rfl, hrest⟩
    · rintro ⟨rest, rfl, hrest⟩
      exact ⟨_, rfl, rest, rfl, hrest⟩

/-- **The texts that fit the pattern of a marker** begin with the marker and a dash. -/
theorem accepts_billPattern_iff {marker : String} {text : List Char} :
    accepts (billPattern marker).toList text = true ↔ marker.toList ++ ['-'] <+: text := by
  rw [billPattern, String.toList_ofList, accepts_escape_append]
  simp only [accepts_literal (show isSpecial '-' = false from rfl), accepts_escaped_iff,
    accepts_percent_iff]
  constructor
  · rintro ⟨_, rfl, rest, rfl, -⟩
    exact ⟨rest, by simp⟩
  · rintro ⟨rest, rfl⟩
    exact ⟨'-' :: rest, by simp, rest, rfl, rest, [], by simp, rfl⟩

/-! ## Backslashes at the end -/

/-- Whether a pattern ends with a backslash that has no character to take the meaning from. -/
def dangles : List Char → Bool
  | [] => false
  | ['\\'] => true
  | '\\' :: _ :: pattern => dangles pattern
  | _ :: pattern => dangles pattern

theorem dangles_cons {c : Char} (hc : c ≠ '\\') (pattern : List Char) :
    dangles (c :: pattern) = dangles pattern := by
  rw [dangles] <;> simp_all

theorem dangles_escape_append (cs pattern : List Char) :
    dangles (escape cs ++ pattern) = dangles pattern := by
  induction cs with
  | nil => rfl
  | cons c cs ih =>
    cases hc : isSpecial c with
    | true => simpa [escape, hc, dangles] using ih
    | false =>
      have hbackslash : c ≠ '\\' := by
        rintro rfl
        exact absurd hc (by decide)
      simpa [escape, hc, dangles_cons hbackslash] using ih

/-- The pattern of a marker does not end with a backslash of its own. -/
theorem dangles_billPattern (marker : String) : dangles (billPattern marker).toList = false := by
  rw [billPattern, String.toList_ofList, dangles_escape_append]
  decide

end Like

/-! ## Bills and tables of bills -/

theorem dash_prefix_iff {front text : String} :
    front.toList ++ ['-'] <+: text.toList ↔ ∃ rest, text = front ++ "-" ++ rest := by
  constructor
  · rintro ⟨rest, hrest⟩
    exact ⟨String.ofList rest, String.toList_inj.mp (by simp [← hrest])⟩
  · rintro ⟨rest, rfl⟩
    exact ⟨rest.toList, by simp⟩

theorem Bill.toList_numberFor (marker : String) (index : Nat) :
    (Bill.numberFor marker index).toList = marker.toList ++ '-' :: paddedDecimal 3 index := by
  simp [Bill.numberFor, Bill.indexText]

/-- The bills of a marker fit its pattern. -/
theorem Like.accepts_numberFor (marker : String) (index : Nat) :
    Like.accepts (Like.billPattern marker).toList (Bill.numberFor marker index).toList = true := by
  rw [Like.accepts_billPattern_iff, Bill.toList_numberFor]
  exact ⟨paddedDecimal 3 index, by simp⟩

/-- **A table of bills**: the id and the number of each. -/
abbrev BillTable := List (Int × String)

namespace BillTable

/-- Whether a bill has a number that fits the pattern of a marker. -/
def isOf (marker : String) (row : Int × String) : Bool :=
  Like.accepts (Like.billPattern marker).toList row.2.toList

/-- **A deletion by the pattern of a marker**: the ids of the deleted bills, and the table without
them. -/
def delete (table : BillTable) (marker : String) : List Int × BillTable :=
  ((table.filter (isOf marker)).map Prod.fst, table.filter fun row => !isOf marker row)

/-- The store that holds a table. -/
def store (table : BillTable) : BillStore := ⟨fun marker => .ok (table.delete marker).1⟩

theorem deletedIds_cleanup (table : BillTable) (marker : String) :
    (cleanup table.store marker).1.deletedIds = (table.delete marker).1 := rfl

theorem isOf_numberFor (marker : String) (id : Int) (index : Nat) :
    isOf marker (id, Bill.numberFor marker index) = true := Like.accepts_numberFor marker index

end BillTable

/-- **What the pattern of a marker takes.** It is fitted by exactly the texts that begin with the
marker and a dash, no backslash is left alone at its end, and it is fitted by every bill of the
marker: a cleanup deletes all of them, and none is left. -/
theorem billPattern_language (marker : String) :
    (∀ text : String, Like.accepts (Like.billPattern marker).toList text.toList = true ↔
        ∃ rest, text = marker ++ "-" ++ rest) ∧
      Like.dangles (Like.billPattern marker).toList = false ∧
      (∀ index, Like.accepts (Like.billPattern marker).toList
        (Bill.numberFor marker index).toList = true) ∧
      ∀ (table : BillTable) (id : Int) (index : Nat),
        ((id, Bill.numberFor marker index) ∈ table →
          id ∈ (cleanup table.store marker).1.deletedIds) ∧
        (id, Bill.numberFor marker index) ∉ (table.delete marker).2 := by
  refine ⟨fun text => ?_, Like.dangles_billPattern marker, Like.accepts_numberFor marker,
    fun table id index => ⟨fun hrow => ?_, fun hrow => ?_⟩⟩
  · rw [Like.accepts_billPattern_iff, dash_prefix_iff]
  · rw [BillTable.deletedIds_cleanup]
    exact List.mem_map_of_mem
      (List.mem_filter.mpr ⟨hrow, BillTable.isOf_numberFor marker id index⟩)
  · have hkept := (List.mem_filter.mp hrow).2
    simp [BillTable.isOf_numberFor] at hkept

/-!
## Whose bills a cleanup takes

The index of a bill is written in digits, so the last dash of its number is the one in front of the
index. The pattern of a marker asks for some dash only. It therefore takes the bills of the marker,
and with them the bills of every run whose marker begins with this one and a dash.
-/

/-! ### Digits and dashes -/

/-- Behind the last dash of a text no further one can begin: what starts with `front` and a dash is
the text up to its last dash, or goes on within it. -/
theorem append_dash_prefix_iff {front back digits : List Char} (hdash : '-' ∉ digits) :
    front ++ ['-'] <+: back ++ '-' :: digits ↔ front = back ∨ front ++ ['-'] <+: back := by
  constructor
  · rintro ⟨rest, h⟩
    rw [List.append_assoc, List.append_eq_append_iff] at h
    rcases h with ⟨between, rfl, h⟩ | ⟨between, rfl, h⟩
    · cases between with
      | nil => exact .inl (by simp)
      | cons c between =>
        obtain ⟨rfl, -⟩ := List.cons.inj h
        exact .inr ⟨between, by simp⟩
    · cases between with
      | nil => exact .inl (by simp)
      | cons c between =>
        obtain ⟨-, rfl⟩ := List.cons.inj h
        simp at hdash
  · rintro (rfl | h)
    · exact ⟨digits, by simp⟩
    · exact h.trans (List.prefix_append ..)

/-! ### The bills of other runs -/

namespace Like

/-- **The bills that fit the pattern of a marker** are those of the marker, and those of the markers
that begin with it and a dash. -/
theorem accepts_numberFor_iff {marker other : String} {index : Nat} :
    accepts (billPattern marker).toList (Bill.numberFor other index).toList = true ↔
      marker = other ∨ ∃ rest, other = marker ++ "-" ++ rest := by
  have hdash : '-' ∉ paddedDecimal 3 index := fun h =>
    absurd (isDigit_of_mem_paddedDecimal h) (by decide)
  rw [accepts_billPattern_iff, Bill.toList_numberFor, append_dash_prefix_iff hdash,
    String.toList_inj, dash_prefix_iff]

/-- **Runs whose markers are made from the time** do not take each other's bills. -/
theorem accepts_defaultMarker_iff {time otherTime index : Nat} :
    accepts (billPattern (defaultMarker time)).toList
        (Bill.numberFor (defaultMarker otherTime) index).toList = true ↔ time = otherTime := by
  rw [accepts_numberFor_iff]
  constructor
  · rintro (h | ⟨rest, h⟩)
    · have hdigits := congrArg String.toList h
      simp only [defaultMarker, String.toList_append, String.toList_ofList,
        List.append_cancel_left_eq] at hdigits
      exact decimalDigits_injective hdigits
    · have hdigits := congrArg String.toList h
      simp only [defaultMarker, String.toList_append, String.toList_ofList, List.append_assoc,
        List.append_cancel_left_eq] at hdigits
      have hdash : '-' ∈ decimalDigits otherTime := by simp [hdigits]
      exact absurd (isDigit_of_mem_decimalDigits hdash) (by decide)
  · rintro rfl
    exact .inl rfl

end Like

/-- **The bills that a deletion takes.** A bill of a run stays in the table under a deletion by a
marker unless the run's marker is that one, or begins with it and a dash. -/
theorem delete_takes_iff (table : BillTable) (marker other : String) (index : Nat) (id : Int) :
    (Like.accepts (Like.billPattern marker).toList (Bill.numberFor other index).toList = true ↔
        marker = other ∨ ∃ rest, other = marker ++ "-" ++ rest) ∧
      ((id, Bill.numberFor other index) ∈ (table.delete marker).2 ↔
        (id, Bill.numberFor other index) ∈ table ∧ marker ≠ other ∧
          ∀ rest, other ≠ marker ++ "-" ++ rest) := by
  refine ⟨Like.accepts_numberFor_iff, ?_⟩
  have htaken : BillTable.isOf marker (id, Bill.numberFor other index) = true ↔
      marker = other ∨ ∃ rest, other = marker ++ "-" ++ rest := Like.accepts_numberFor_iff
  rw [BillTable.delete, List.mem_filter, Bool.not_eq_true', ← Bool.not_eq_true, htaken, not_or,
    not_exists]

/-- Two runs that are not kept apart: a deletion by the marker of one takes a bill of the other, and
leaves nothing. -/
theorem delete_takes_another_run :
    (¬ ∀ (marker other : String) (index : Nat), marker ≠ other →
        Like.accepts (Like.billPattern marker).toList
          (Bill.numberFor other index).toList = false) ∧
      BillTable.delete [(1, Bill.numberFor "run" 1), (2, Bill.numberFor "run-2" 1)] "run" =
        ([1, 2], []) := by
  refine ⟨fun hapart => ?_, by decide⟩
  have h := hapart "run" "run-2" 1 (by decide)
  exact absurd h (by decide)

end HttpLoad
