/-
  A trip through JSON makes no difference to queries.

  What comes back is not the document that was sent: its keys stand in order, its integers have the
  width that JSON integers are given, and the options of regular expressions are in order, all of
  this at every depth.  `Value.returned` says so exactly (`Value.reads_returned`).

  Nothing of it is seen by a comparison (`Value.comparand_returned`), and a test asks of a document
  for comparands alone.  So every predicate holds of both documents or of neither, and sorting puts
  them in the same place.
-/
import DocStore.Proofs.Json.Tagged
import DocStore.Proofs.Query.Spelling
import DocStore.Proofs.View.RoundTrip

namespace DocStore

namespace Value

mutual

/-- The value once it has been written as JSON and read back. -/
def returned : Value → Value
  | int32 n => narrowed n.toInt
  | int64 n => narrowed n.toInt
  | array items => array (returnedItems items)
  | document fields => document (returnedFields fields)
  | regex pattern options => regex pattern options.sorted
  | codeWithScope s scope => codeWithScope s (returnedFields scope)
  | value => value

def returnedItems : List Value → List Value
  | [] => []
  | item :: rest => item.returned :: returnedItems rest

/-- The fields in key order; of fields with one key the first counts. -/
def returnedFields : List (String × Value) → Entries Value
  | [] => []
  | (key, value) :: rest => (returnedFields rest).place key value.returned

end

/-- Apart from what is inside it, the value comes back: it is no double that is not finite and no
    bytes, and it has no tag. -/
def Returns : Value → Prop
  | double x => x.isFinite = true
  | document fields => ∀ field ∈ fields, Extended.Tag.ofKey? field.1 = none
  | binary _ _ => False
  | _ => True

mutual

/-- What is written is read back. -/
theorem reads_returned : ∀ x : Value, (∀ part ∈ x.parts, part.Returns) →
    x.toJson.Reads x.returned
  | null, _ | bool _, _ | string _, _ => ⟨_, rfl, rfl⟩
  | int32 n, _ => Json.reads_integer (fitsLong_int32 n)
  | int64 n, _ => Json.reads_integer (fitsLong_int64 n)
  | double x, h => by
    have hfinite : x.isFinite = true := h _ (List.mem_singleton.2 rfl)
    rw [toJson, if_pos hfinite]
    exact ⟨_, rfl, rfl⟩
  | array items, h =>
    Json.reads_array (reads_returnedItems items ((forall_parts_array trivial).1 h))
  | document fields, h => by
    obtain ⟨htags, hparts⟩ := forall_parts_document.1 h
    exact Json.reads_object (reads_returnedFields fields htags hparts)
  | codeWithScope s scope, h => by
    obtain ⟨htags, hparts⟩ := forall_parts_document.1 ((forall_parts_codeWithScope trivial).1 h)
    exact Json.reads_codeWithScope s (Json.reads_object (reads_returnedFields scope htags hparts))
  | binary _ _, h => (List.forall_mem_singleton.1 h).elim
  | dateTime ms, _ => Json.reads_dateTime ms
  | objectId id, _ => Json.reads_objectId id
  | regex pattern options, _ => Json.reads_regex pattern options
  | timestamp time increment, _ => Json.reads_timestamp time increment
  | decimal x, _ => Json.reads_decimal x
  | pointer collection id, _ => Json.reads_pointer collection id
  | undefined, _ | minKey, _ | maxKey, _ | symbol _, _ | code _, _ =>
    Json.reads_tagged rfl rfl rfl

theorem reads_returnedItems : ∀ items : List Value, (∀ part ∈ partsItems items, part.Returns) →
    List.Forall₂ Json.Reads (toJsonItems items) (returnedItems items)
  | [], _ => .nil
  | item :: rest, h => by
    rw [partsItems, List.forall_mem_append] at h
    exact .cons (reads_returned item h.1) (reads_returnedItems rest h.2)

theorem reads_returnedFields : ∀ fields : List (String × Value),
    (∀ field ∈ fields, Extended.Tag.ofKey? field.1 = none) →
      (∀ part ∈ partsFields fields, part.Returns) →
        List.Forall₂ Json.ReadsUnder (toJsonFields fields) (returnedFields fields)
  | [], _, _ => .nil
  | (key, value) :: rest, htags, h => by
    rw [List.forall_mem_cons] at htags
    rw [partsFields, List.forall_mem_append] at h
    exact Entries.forall₂_place (fun hsame => hsame.1) (reads_returnedFields rest htags.2 h.2)
      ⟨rfl, htags.1, reads_returned value h.1⟩

end

/-- A comparison sees the number of an integer. -/
theorem comparand_narrowed {n : Int} (h : FitsLong n) : (narrowed n).comparand = .integer n :=
  apply_narrowed (fun _ => rfl) (fun _ => rfl) h

mutual

/-- Comparisons do not see the trip. -/
theorem comparand_returned : ∀ x : Value, x.returned.comparand = x.comparand
  | int32 n => comparand_narrowed (fitsLong_int32 n)
  | int64 n => comparand_narrowed (fitsLong_int64 n)
  | array items => congrArg Comparand.array (comparandItems_returned items)
  | document fields => congrArg Comparand.map (comparandFields_returned fields)
  | regex _ _ | codeWithScope _ _ => rfl
  | null | bool _ | double _ | dateTime _ | string _ | objectId _ | undefined | minKey | maxKey
  | timestamp _ _ | binary _ _ | symbol _ | code _ | decimal _ | pointer _ _ => rfl

theorem comparandItems_returned : ∀ items : List Value,
    comparandItems (returnedItems items) = comparandItems items
  | [] => rfl
  | item :: rest => by
    rw [returnedItems, comparandItems, comparandItems, comparand_returned item,
      comparandItems_returned rest]

theorem comparandFields_returned : ∀ fields : List (String × Value),
    comparandFields (returnedFields fields) = comparandFields fields
  | [] => rfl
  | (key, value) :: rest => by
    rw [returnedFields, comparandFields_place, comparandFields, comparand_returned value,
      comparandFields_returned rest]

end

end Value

/-- A document comes back from its JSON as `returnedFields` says. -/
theorem Document.ofJson_toJson {doc : Document}
    (h : ∀ part ∈ (Value.document doc).parts, part.Returns) :
    ofJson doc.toJson = .ok (Value.returnedFields doc) := by
  obtain ⟨htags, hparts⟩ := Value.forall_parts_document.1 h
  exact Json.ofJson_of_reads (Value.reads_returnedFields doc htags hparts)

/-- What is found in two documents with one comparand sorts in the same way. -/
theorem compareValues_congr {found found' : Option Value}
    (h : found.map Value.comparand = found'.map Value.comparand) (x : Option Value) :
    compareValues found x = compareValues found' x := by
  rw [compareValues, compareValues, h]

/-- **A trip through JSON is invisible to queries.**  Take a document in which, at every depth, all
    doubles are finite, no value is bytes and no document has a tag.  It can be read back from the
    JSON that is written for it, and what comes back satisfies the same predicates as the document
    and has, at every path, a value that sorts in the same way. -/
theorem json_trip_is_invisible {doc : Document}
    (finite : ∀ x, Value.double x ∈ (Value.document doc).parts → x.isFinite = true)
    (no_bytes : ∀ subtype bytes, Value.binary subtype bytes ∉ (Value.document doc).parts)
    (untagged : ∀ fields, Value.document fields ∈ (Value.document doc).parts →
      ∀ field ∈ fields, Extended.Tag.ofKey? field.1 = none) :
    ∃ back, Document.ofJson doc.toJson = .ok back ∧
      (∀ e : Expr, e.matches back = e.matches doc) ∧
      ∀ path x,
        compareValues (Document.lookup back path) x = compareValues (doc.lookup path) x := by
  have hreturns : ∀ part ∈ (Value.document doc).parts, part.Returns := by
    intro part hmem
    cases part with
    | double x => exact finite x hmem
    | binary subtype bytes => exact no_bytes subtype bytes hmem
    | document fields => exact untagged fields hmem
    | _ => trivial
  have hsame := Value.comparandFields_returned doc
  refine ⟨Value.returnedFields doc, Document.ofJson_toJson hreturns, ?_, ?_⟩
  · exact Expr.matches_of_comparand_eq hsame
  · intro path
    exact compareValues_congr (Document.comparand_lookup hsame path)

/-- A note with its keys out of order, integers in widths that JSON does not give, and a date. -/
def sentNote : Document :=
  [("n", .int64 7), ("at", .dateTime 253402300800000),
    ("in", .document [("z", .double ⟨0x3FF8000000000000⟩), ("a", .array [.int32 (-1), .null])])]

/-- What comes back of it. -/
def arrivedNote : Document :=
  [("at", .dateTime 253402300800000),
    ("in", .document [("a", .array [.int64 (-1), .null]), ("z", .double ⟨0x3FF8000000000000⟩)]),
    ("n", .int32 7)]

theorem sentNote_parts : (Value.document sentNote).parts =
    [.document sentNote, .int64 7, .dateTime 253402300800000,
      .document [("z", .double ⟨0x3FF8000000000000⟩), ("a", .array [.int32 (-1), .null])],
      .double ⟨0x3FF8000000000000⟩, .array [.int32 (-1), .null], .int32 (-1), .null] := rfl

/-- The two notes are different documents, but not to a query. -/
theorem arrivedNote_is_sentNote :
    (∀ x, Value.double x ∈ (Value.document sentNote).parts → x.isFinite = true) ∧
    (∀ subtype bytes, Value.binary subtype bytes ∉ (Value.document sentNote).parts) ∧
    (∀ fields, Value.document fields ∈ (Value.document sentNote).parts →
      ∀ field ∈ fields, Extended.Tag.ofKey? field.1 = none) ∧
    Document.ofJson sentNote.toJson = .ok arrivedNote ∧
    (∀ e : Expr, e.matches arrivedNote = e.matches sentNote) ∧
    ∀ path x, compareValues (arrivedNote.lookup path) x =
      compareValues (sentNote.lookup path) x := by
  have hfinite : ∀ x, Value.double x ∈ (Value.document sentNote).parts → x.isFinite = true := by
    intro x hmem
    have hx : x = ⟨0x3FF8000000000000⟩ := by simpa [sentNote_parts] using hmem
    rw [hx]
    decide
  have hbytes : ∀ subtype bytes,
      Value.binary subtype bytes ∉ (Value.document sentNote).parts := by
    simp [sentNote_parts]
  have huntagged : ∀ fields, Value.document fields ∈ (Value.document sentNote).parts →
      ∀ field ∈ fields, Extended.Tag.ofKey? field.1 = none := by
    intro fields hmem
    have hfields : fields = sentNote ∨ fields =
        [("z", .double ⟨0x3FF8000000000000⟩), ("a", .array [.int32 (-1), .null])] := by
      simpa [sentNote_parts] using hmem
    rcases hfields with rfl | rfl <;> decide
  obtain ⟨back, hback, hmatches, hcompare⟩ :=
    json_trip_is_invisible hfinite hbytes huntagged
  have harrived : Document.ofJson sentNote.toJson = .ok arrivedNote := rfl
  rw [harrived] at hback
  cases hback
  exact ⟨hfinite, hbytes, huntagged, harrived, hmatches, hcompare⟩

end DocStore
