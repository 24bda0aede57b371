/-
  What JSON is read as, part by part.

  Reading passes over JSON twice.  First every integer is given a width and every object becomes a
  document, whatever its keys are; then the documents with a tag are replaced, from the outside in.
  `Json.Reads` puts the two passes together.  Read in this way, an array is made of what its items
  are read as and an object without tags of what its members are read as (`Json.reads_array`,
  `Json.reads_object`), so that nobody has to follow the two passes again.

  An integer keeps its number, but not its width: `Value.narrowed` is the integer in the width that
  JSON integers are given, and what does not depend on the width is seen from the number
  (`Value.apply_narrowed`).
-/
import DocStore.Json.Convert
import Mathlib.Data.List.Forall2

namespace DocStore

/-! ## Integers -/

namespace Value

/-- The number of some 64-bit integer. -/
def FitsLong (n : Int) : Prop :=
  Int64.minValue.toInt ≤ n ∧ n ≤ Int64.maxValue.toInt

theorem fitsLong_natCast {n : Nat} (h : n < UInt32.size) : FitsLong n := by
  rw [FitsLong, Int64.toInt_minValue, Int64.toInt_maxValue]
  have hsize : UInt32.size = 4294967296 := rfl
  omega

theorem fitsLong_int32 (n : Int32) : FitsLong n.toInt :=
  ⟨Int.le_trans (by decide) n.minValue_le_toInt, Int.le_trans n.toInt_le (by decide)⟩

theorem fitsLong_int64 (n : Int64) : FitsLong n.toInt :=
  ⟨n.minValue_le_toInt, n.toInt_le⟩

/-- A 32-bit integer where the number is not negative and fits, else a 64-bit integer. -/
def narrowed (n : Int) : Value :=
  if 0 ≤ n ∧ n ≤ Int32.maxValue.toInt then int32 (Int32.ofInt n) else int64 (Int64.ofInt n)

/-- An integer that is not too great is read in the narrower width if it fits there. -/
theorem ofInteger_of_le {n : Int} (h : n ≤ Int64.maxValue.toInt) :
    ofInteger n = .ok (narrowed n) := by
  unfold ofInteger narrowed
  by_cases hneg : 0 ≤ n
  · by_cases hsmall : n ≤ Int32.maxValue.toInt
    · rw [if_pos hneg, if_pos hsmall, if_pos ⟨hneg, hsmall⟩]
    · rw [if_pos hneg, if_neg hsmall, if_pos h, if_neg fun hboth => hsmall hboth.2]
  · rw [if_neg hneg, if_neg fun hboth => hneg hboth.1]

theorem ofInteger_of_lt {n : Int} (h : Int64.maxValue.toInt < n) :
    ofInteger n = .error (.integerTooGreat n) := by
  have hmax : Int32.maxValue.toInt < Int64.maxValue.toInt := by decide
  have hpos : 0 ≤ Int64.maxValue.toInt := by decide
  rw [ofInteger, if_pos (by omega), if_neg (by omega), if_neg (by omega)]

/-- What does not depend on the width of an integer is seen from its number. -/
theorem apply_narrowed {α : Type} {f : Value → α} {g : Int → α}
    (h32 : ∀ n, f (int32 n) = g n.toInt) (h64 : ∀ n, f (int64 n) = g n.toInt) {n : Int}
    (hfits : FitsLong n) : f (narrowed n) = g n := by
  rw [FitsLong, Int64.toInt_minValue, Int64.toInt_maxValue] at hfits
  unfold narrowed
  split
  · rename_i h
    rw [Int32.toInt_maxValue] at h
    rw [h32, Int32.toInt_ofInt_of_le (by omega) (by omega)]
  · rw [h64, Int64.toInt_ofInt_of_le (by omega) (by omega)]

/-- In whichever width it is held, the integer is the same. -/
theorem integer?_narrowed {n : Int} (h : FitsLong n) : Extended.integer? (narrowed n) = some n :=
  apply_narrowed (fun _ => rfl) (fun _ => rfl) h

end Value

/-! ## Arrays and objects -/

namespace Entries

/-- Entries that go together, one by one and key by key, still do after both were written. -/
theorem forall₂_place {α β : Type} {R : String × α → String × β → Prop} {entries : Entries α}
    {others : Entries β} (hkey : ∀ {a b}, R a b → a.1 = b.1) (h : List.Forall₂ R entries others)
    {key : String} {value : α} {other : β} (hnew : R (key, value) (key, other)) :
    List.Forall₂ R (entries.place key value) (others.place key other) := by
  induction h with
  | nil => exact .cons hnew .nil
  | @cons a b rest others hfirst hrest ih =>
    obtain ⟨k, v⟩ := a
    obtain ⟨l, w⟩ := b
    cases (show k = l from hkey hfirst)
    -- The keys agree, so both sides come to the same decision at every entry.
    rw [place, place]
    by_cases hlt : key < k
    · rw [if_pos hlt, if_pos hlt]
      exact .cons hnew (.cons hfirst hrest)
    · by_cases hk : k = key
      · rw [if_neg hlt, if_neg hlt, if_pos hk, if_pos hk]
        exact .cons hnew hrest
      · rw [if_neg hlt, if_neg hlt, if_neg hk, if_neg hk]
        exact .cons hfirst ih

end Entries

namespace Json

open Value Extended

/-- The JSON is read as the value. -/
def Reads (json : Json) (value : Value) : Prop :=
  ∃ plain, ofPlain json = .ok plain ∧ interpret .refused plain = .ok value

/-- The member of an object is read as the field of a document. -/
def ReadsUnder (member : String × Json) (field : String × Value) : Prop :=
  member.1 = field.1 ∧ Tag.ofKey? member.1 = none ∧ member.2.Reads field.2

/-- An integer is read as itself. -/
theorem reads_integer {n : Int} (h : FitsLong n) : (integer n).Reads (narrowed n) := by
  refine ⟨narrowed n, ofInteger_of_le h.2, ?_⟩
  unfold narrowed
  split <;> rfl

/-- Items that are read one by one are read together. -/
theorem ofPlainItems_of_reads {items : List Json} {values : List Value}
    (h : List.Forall₂ Reads items values) :
    ∃ plains, ofPlainItems items = .ok plains ∧ interpretItems .refused plains = .ok values := by
  induction h with
  | nil => exact ⟨[], rfl, rfl⟩
  | cons hfirst _ ih =>
    obtain ⟨plain, hplain, hvalue⟩ := hfirst
    obtain ⟨plains, hplains, hvalues⟩ := ih
    refine ⟨plain :: plains, ?_, ?_⟩
    · rw [ofPlainItems, hplain, hplains]
      rfl
    · rw [interpretItems, hvalue, hvalues]
      rfl

/-- So an array is read as the array of what its items are read as. -/
theorem reads_array {items : List Json} {values : List Value}
    (h : List.Forall₂ Reads items values) : (array items).Reads (.array values) := by
  obtain ⟨plains, hplains, hvalues⟩ := ofPlainItems_of_reads h
  refine ⟨.array plains, ?_, ?_⟩
  · rw [ofPlain, hplains]
    rfl
  · rw [interpret, hvalues]
    rfl

/-- Members are read together if each is, under a key that is no tag. -/
theorem ofPlainMembers_of_reads {members : List (String × Json)} {fields : List (String × Value)}
    (h : List.Forall₂ ReadsUnder members fields) :
    ∃ plains, ofPlainMembers members = .ok plains ∧
      interpretFields .refused plains = .ok (.ordinary fields) := by
  induction h with
  | nil => exact ⟨[], rfl, rfl⟩
  | @cons member field _ _ hfirst _ ih =>
    obtain ⟨key, json⟩ := member
    obtain ⟨_, value⟩ := field
    obtain ⟨rfl, htag, plain, hplain, hvalue⟩ := hfirst
    obtain ⟨plains, hplains, hfields⟩ := ih
    refine ⟨(key, plain) :: plains, ?_, ?_⟩
    · rw [ofPlainMembers, hplain, hplains]
      rfl
    · rw [interpretFields, hvalue, hfields]
      · rfl
      · exact htag

/-- So an object without tags is read as a document. -/
theorem reads_object {members : List (String × Json)} {fields : List (String × Value)}
    (h : List.Forall₂ ReadsUnder members fields) : (object members).Reads (.document fields) := by
  obtain ⟨plains, hplains, hfields⟩ := ofPlainMembers_of_reads h
  refine ⟨.document plains, ?_, ?_⟩
  · rw [ofPlain, hplains]
    rfl
  · rw [interpret, hfields]
    rfl

/-- An object whose members are read as fields is the document of these fields. -/
theorem ofJson_of_reads {members : List (String × Json)} {fields : List (String × Value)}
    (h : List.Forall₂ ReadsUnder members fields) :
    Document.ofJson (.object members) = .ok fields := by
  obtain ⟨plains, hplains, hfields⟩ := ofPlainMembers_of_reads h
  rw [Document.ofJson, Document.ofObject, hplains]
  show ((interpretFields .refused plains >>= _).mapError StoreError.ofDecode) = _
  rw [hfields]
  rfl

/-- What cannot be read as plain values cannot be read as a document. -/
theorem ofJson_of_error {members : List (String × Json)} {error : DecodeError}
    (h : ofPlainMembers members = .error error) :
    Document.ofJson (.object members) = .error (.ofDecode error) := by
  rw [Document.ofJson, Document.ofObject, h]
  rfl

end Json

end DocStore
