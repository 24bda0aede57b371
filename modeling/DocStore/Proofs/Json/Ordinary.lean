/-
  Ordinary JSON survives the form of a document.

  An integer changes its kind with its sign and its size when it is read, and a key that begins with
  a dollar may be a tag.  Neither is noticed by who keeps JSON without tags in a document: it is
  read without error, and what is written for the document is the same JSON, key by key and at every
  depth.  `Json.value` says what it is read as; that and how it is written again are shown in one
  induction (`Json.reads_value`), which goes through because a member whose key is less than those
  behind it is written in front of them again.

  `Json.Ordinary` asks for more than that there are no tags, but the rest is no restriction: objects
  hold their members in key order, and no text spells a double that is not finite.

  The one limit is the greatest integer of a document.  Reading gives every integer a width before
  anything else, so no greater one is ever passed over (`Json.le_of_ofPlain`).
-/
import DocStore.Proofs.Json.Reading
import DocStore.Proofs.Store.Held

namespace DocStore

/-- An entry goes in front of entries that all have greater keys. -/
theorem Entries.place_of_lt {α : Type} {entries : Entries α} {key : String} (value : α)
    (h : ∀ entry ∈ entries, key < entry.1) :
    entries.place key value = (key, value) :: entries := by
  cases entries with
  | nil => rfl
  | cons entry rest => exact if_pos (h entry List.mem_cons_self)

namespace Json

open Value Extended

mutual

/-- The JSON and all JSON inside it. -/
def parts : Json → List Json
  | array items => array items :: partsItems items
  | object members => object members :: partsMembers members
  | json => [json]

def partsItems : List Json → List Json
  | [] => []
  | item :: rest => item.parts ++ partsItems rest

def partsMembers : List (String × Json) → List Json
  | [] => []
  | (_, json) :: rest => json.parts ++ partsMembers rest

end

/-- Apart from what is inside it, the JSON is ordinary: an object has its members in key order and
    no tag, and a double is finite. -/
def Ordinary : Json → Prop
  | double x => x.isFinite = true
  | object members => Entries.Ordered members ∧ ∀ member ∈ members, Tag.ofKey? member.1 = none
  | _ => True

instance : DecidablePred Ordinary
  | double x => inferInstanceAs (Decidable (x.isFinite = true))
  | object members => inferInstanceAs (Decidable (List.Pairwise (fun a b => a.1 < b.1) members ∧
      ∀ member ∈ members, Tag.ofKey? member.1 = none))
  | null | bool _ | integer _ | string _ | array _ => .isTrue trivial

/-- Apart from what is inside it, the JSON is no integer that is too great or too small. -/
def Fits : Json → Prop
  | integer n => FitsLong n
  | _ => True

mutual

/-- What ordinary JSON is read as. -/
def value : Json → Value
  | null => .null
  | bool b => .bool b
  | integer n => narrowed n
  | double x => .double x
  | string s => .string s
  | array items => .array (valueItems items)
  | object members => .document (valueMembers members)

def valueItems : List Json → List Value
  | [] => []
  | item :: rest => item.value :: valueItems rest

def valueMembers : List (String × Json) → List (String × Value)
  | [] => []
  | (key, json) :: rest => (key, json.value) :: valueMembers rest

end

/-- In whichever width it is held, an integer is written the same. -/
theorem toJson_narrowed {n : Int} (h : FitsLong n) : (narrowed n).toJson = integer n :=
  apply_narrowed (fun _ => rfl) (fun _ => rfl) h

mutual

/-- Ordinary JSON is read as its value, which is written as the same JSON. -/
theorem reads_value : ∀ json : Json, (∀ part ∈ json.parts, part.Ordinary ∧ part.Fits) →
    json.Reads json.value ∧ json.value.toJson = json
  | null, _ | bool _, _ | string _, _ => ⟨⟨_, rfl, rfl⟩, rfl⟩
  | integer n, h => by
    have hfits : FitsLong n := (h _ (List.mem_singleton.2 rfl)).2
    exact ⟨reads_integer hfits, toJson_narrowed hfits⟩
  | double x, h => by
    have hfinite : x.isFinite = true := (h _ (List.mem_singleton.2 rfl)).1
    exact ⟨⟨_, rfl, rfl⟩, if_pos hfinite⟩
  -- Of an array or an object it is also known that it is ordinary and fits itself.
  | array items, h => by
    rw [parts, List.forall_mem_cons] at h
    obtain ⟨hreads, hsame⟩ := reads_valueItems items h.2
    exact ⟨reads_array hreads, congrArg array hsame⟩
  | object members, h => by
    rw [parts, List.forall_mem_cons] at h
    obtain ⟨hreads, hsame⟩ := reads_valueMembers members h.1.1 h.2
    exact ⟨reads_object hreads, congrArg object hsame⟩

theorem reads_valueItems : ∀ items : List Json,
    (∀ part ∈ partsItems items, part.Ordinary ∧ part.Fits) →
      List.Forall₂ Reads items (valueItems items) ∧ toJsonItems (valueItems items) = items
  | [], _ => ⟨.nil, rfl⟩
  | item :: rest, h => by
    rw [partsItems, List.forall_mem_append] at h
    obtain ⟨hfirst, hitem⟩ := reads_value item h.1
    obtain ⟨hreads, hrest⟩ := reads_valueItems rest h.2
    refine ⟨.cons hfirst hreads, ?_⟩
    rw [valueItems, toJsonItems, hitem, hrest]

theorem reads_valueMembers : ∀ members : List (String × Json), (object members).Ordinary →
    (∀ part ∈ partsMembers members, part.Ordinary ∧ part.Fits) →
      List.Forall₂ ReadsUnder members (valueMembers members) ∧
        toJsonFields (valueMembers members) = members
  | [], _, _ => ⟨.nil, rfl⟩
  | (key, json) :: rest, ⟨hordered, htags⟩, h => by
    obtain ⟨hleast, hordered⟩ := List.pairwise_cons.1 hordered
    rw [List.forall_mem_cons] at htags
    rw [partsMembers, List.forall_mem_append] at h
    obtain ⟨hfirst, hjson⟩ := reads_value json h.1
    obtain ⟨hreads, hrest⟩ := reads_valueMembers rest ⟨hordered, htags.2⟩ h.2
    refine ⟨.cons ⟨rfl, htags.1, hfirst⟩ hreads, ?_⟩
    rw [valueMembers, toJsonFields, hjson, hrest, Entries.place_of_lt json hleast]

end

/-! ## Integers that are too great -/

mutual

theorem le_of_ofPlain : ∀ (json : Json) {plain : Value}, ofPlain json = .ok plain →
    ∀ n, integer n ∈ json.parts → n ≤ Int64.maxValue.toInt
  | integer m, _, h, n, hmem => by
    cases List.mem_singleton.1 hmem
    -- Reading stops at an integer that is too great.
    by_contra hgreat
    rw [ofPlain, ofInteger_of_lt (Int.not_le.1 hgreat)] at h
    cases h
  | array items, _, h, n, hmem => by
    obtain ⟨plains, hplains, -⟩ := bind_eq_ok_iff.1 h
    rcases List.mem_cons.1 hmem with hself | hmem
    · cases hself
    · exact le_of_ofPlainItems items hplains n hmem
  | object members, _, h, n, hmem => by
    obtain ⟨plains, hplains, -⟩ := bind_eq_ok_iff.1 h
    rcases List.mem_cons.1 hmem with hself | hmem
    · cases hself
    · exact le_of_ofPlainMembers members hplains n hmem
  | null, _, _, n, hmem | bool _, _, _, n, hmem | double _, _, _, n, hmem
  | string _, _, _, n, hmem => by
    cases List.mem_singleton.1 hmem

theorem le_of_ofPlainItems : ∀ (items : List Json) {plains : List Value},
    ofPlainItems items = .ok plains →
      ∀ n, integer n ∈ partsItems items → n ≤ Int64.maxValue.toInt
  | item :: rest, _, h, n, hmem => by
    obtain ⟨plain, hplain, h⟩ := bind_eq_ok_iff.1 h
    obtain ⟨plains, hplains, -⟩ := bind_eq_ok_iff.1 h
    rcases List.mem_append.1 hmem with hmem | hmem
    · exact le_of_ofPlain item hplain n hmem
    · exact le_of_ofPlainItems rest hplains n hmem

theorem le_of_ofPlainMembers : ∀ (members : List (String × Json)) {plains : List (String × Value)},
    ofPlainMembers members = .ok plains →
      ∀ n, integer n ∈ partsMembers members → n ≤ Int64.maxValue.toInt
  | (key, json) :: rest, _, h, n, hmem => by
    obtain ⟨plain, hplain, h⟩ := bind_eq_ok_iff.1 h
    obtain ⟨plains, hplains, -⟩ := bind_eq_ok_iff.1 h
    rcases List.mem_append.1 hmem with hmem | hmem
    · exact le_of_ofPlain json hplain n hmem
    · exact le_of_ofPlainMembers rest hplains n hmem

end

end Json

/-- **Ordinary JSON survives.**  Take a JSON object that is ordinary at every depth: members stand
    in key order, no object has a tag, and doubles are finite.  If all integers in it are of 64
    bits, it is read as a document, and what is written for that document is the same object.  If
    some integer in it is greater, it cannot be read. -/
theorem ordinary_json_survives {members : Entries Json}
    (ordinary : ∀ part ∈ (Json.object members).parts, part.Ordinary) :
    ((∀ n, Json.integer n ∈ (Json.object members).parts →
        Int64.minValue.toInt ≤ n ∧ n ≤ Int64.maxValue.toInt) →
      ∃ doc, Document.ofJson (.object members) = .ok doc ∧
        Document.toJson doc = .object members) ∧
    ((∃ n, Json.integer n ∈ (Json.object members).parts ∧ Int64.maxValue.toInt < n) →
      ∃ reason, Document.ofJson (.object members) = .error (.serialization reason)) := by
  constructor
  · intro fits
    have hparts : ∀ part ∈ (Json.object members).parts, part.Ordinary ∧ part.Fits := by
      -- Only integers can fail to fit, and of these it is assumed.
      intro part hmem
      refine ⟨ordinary part hmem, ?_⟩
      cases part with
      | integer n => exact fits n hmem
      | _ => trivial
    rw [Json.parts, List.forall_mem_cons] at hparts
    obtain ⟨hreads, hsame⟩ := Json.reads_valueMembers members hparts.1.1 hparts.2
    exact ⟨Json.valueMembers members, Json.ofJson_of_reads hreads, congrArg Json.object hsame⟩
  · rintro ⟨n, hmem, hgreat⟩
    -- Whatever else is wrong, it is an error; without one, no integer would be too great.
    cases hplain : Value.ofPlainMembers members with
    | error error => exact ⟨error.message, Json.ofJson_of_error hplain⟩
    | ok plains =>
      have hmember : Json.integer n ∈ Json.partsMembers members :=
        (List.mem_cons.1 hmem).resolve_left nofun
      have hle := Json.le_of_ofPlainMembers members hplain n hmember
      omega

/-- Integers at the bounds of both widths, under keys of which one looks like a tag. -/
def boundaryObject : Entries Json :=
  [("$set", .array [.integer (-9223372036854775808), .integer (-1), .integer 2147483647]),
    ("in", .object [("n", .integer 2147483648), ("x", .double ⟨0x3FF8000000000000⟩)]),
    ("max", .integer 9223372036854775807)]

/-- An integer behind the last bound. -/
def overflowingObject : Entries Json :=
  [("in", .object [("n", .integer 9223372036854775808)])]

/-- The first object comes back as it was, although its integers became values of two kinds, and the
    second is refused. -/
theorem boundaryObject_survives :
    (∀ part ∈ (Json.object boundaryObject).parts, part.Ordinary) ∧
    (∀ n, Json.integer n ∈ (Json.object boundaryObject).parts →
      Int64.minValue.toInt ≤ n ∧ n ≤ Int64.maxValue.toInt) ∧
    (∃ doc, Document.ofJson (.object boundaryObject) = .ok doc ∧
      doc = [("$set", .array [.int64 Int64.minValue, .int64 (-1), .int32 Int32.maxValue]),
        ("in", .document [("n", .int64 2147483648), ("x", .double ⟨0x3FF8000000000000⟩)]),
        ("max", .int64 Int64.maxValue)] ∧
      Document.toJson doc = .object boundaryObject) ∧
    (∀ part ∈ (Json.object overflowingObject).parts, part.Ordinary) ∧
    (∃ n, Json.integer n ∈ (Json.object overflowingObject).parts ∧
      Int64.maxValue.toInt < n) ∧
    ∃ reason, Document.ofJson (.object overflowingObject) = .error (.serialization reason) := by
  have hordinary : ∀ part ∈ (Json.object boundaryObject).parts, part.Ordinary := by decide
  have hfits : ∀ n, Json.integer n ∈ (Json.object boundaryObject).parts →
      Int64.minValue.toInt ≤ n ∧ n ≤ Int64.maxValue.toInt := by
    intro n hmem
    simp only [boundaryObject, Json.parts, Json.partsMembers, Json.partsItems, List.cons_append,
      List.nil_append, List.mem_cons, Json.integer.injEq, reduceCtorEq, List.not_mem_nil,
      false_or, or_false] at hmem
    rw [Int64.toInt_minValue, Int64.toInt_maxValue]
    omega
  have hoverflowing : ∀ part ∈ (Json.object overflowingObject).parts, part.Ordinary := by decide
  have hgreat : ∃ n, Json.integer n ∈ (Json.object overflowingObject).parts ∧
      Int64.maxValue.toInt < n :=
    ⟨9223372036854775808, .tail _ (.tail _ (.head _)), by decide⟩
  obtain ⟨doc, hread, hsame⟩ := (ordinary_json_survives hordinary).1 hfits
  refine ⟨hordinary, hfits, ⟨doc, hread, ?_, hsame⟩, hoverflowing, hgreat,
    (ordinary_json_survives hoverflowing).2 hgreat⟩
  cases hread
  rfl

end DocStore
