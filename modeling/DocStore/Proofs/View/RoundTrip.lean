/-
  Which definitions come back from a design document as they were.

  A literal comes back as it was exactly if it is durable: no document inside it has a key that is a
  tag, no date inside it lies behind the last one of the calendar, and all regular expressions
  inside it have their options in order.  That durable literals come back is what
  `Value.reread_of_portable` says.

  For the converse, no two changes may undo each other.  They cannot, because a document with a tag
  never comes back as a document at all: if writing takes it for a tagged value, that value is read
  as a value of its own kind (`Extended.exists_of_interpret_document`), and if it does not, reading
  stops at the first tag and gives a tagged value or fails
  (`Extended.asDocument?_of_tagged`).  So the first part of a literal that is not durable shows.
-/
import DocStore.Proofs.Store.Held
import DocStore.Proofs.View.Reread

namespace DocStore

namespace Value

mutual

/-- The value and all values inside it.  The scope of code is a document. -/
def parts : Value → List Value
  | array items => array items :: partsItems items
  | document fields => document fields :: partsFields fields
  | codeWithScope s scope => codeWithScope s scope :: document scope :: partsFields scope
  | value => [value]

def partsItems : List Value → List Value
  | [] => []
  | item :: rest => item.parts ++ partsItems rest

def partsFields : List (String × Value) → List Value
  | [] => []
  | (_, value) :: rest => value.parts ++ partsFields rest

end

/-- Apart from what is inside it, the value does not stand for another one: it has no tag, no date
    that the calendar does not reach, and no options out of order. -/
def Plain : Value → Prop
  | document fields => ∀ field ∈ fields, Extended.Tag.ofKey? field.1 = none
  | dateTime ms => ms.toInt ≤ Calendar.lastMoment
  | regex _ options => options.sorted = options
  | _ => True

/-- All parts of the value are plain. -/
def Durable (value : Value) : Prop :=
  ∀ part ∈ value.parts, part.Plain

section

variable {P : Value → Prop} {items : List Value} {fields scope : List (String × Value)} {s : String}

/-- An array is nothing but its items to a property that holds of every array. -/
theorem forall_parts_array (h : P (array items)) :
    (∀ part ∈ (array items).parts, P part) ↔ ∀ part ∈ partsItems items, P part := by
  rw [parts, List.forall_mem_cons]
  exact and_iff_right h

/-- A document counts as a part of itself: its keys are what plainness is about. -/
theorem forall_parts_document : (∀ part ∈ (document fields).parts, P part) ↔
    P (document fields) ∧ ∀ part ∈ partsFields fields, P part := by
  rw [parts]
  exact List.forall_mem_cons

/-- Code with a scope is its scope to a property that holds of all code. -/
theorem forall_parts_codeWithScope (h : P (codeWithScope s scope)) :
    (∀ part ∈ (codeWithScope s scope).parts, P part) ↔
      ∀ part ∈ (document scope).parts, P part := by
  rw [parts, parts, List.forall_mem_cons]
  exact and_iff_right h

/-- An array is as durable as what is in it. -/
theorem durable_array : (array items).Durable ↔ ∀ part ∈ partsItems items, part.Plain :=
  forall_parts_array trivial

/-- A document is as durable as its values, but its own keys count, too. -/
theorem durable_document : (document fields).Durable ↔
    (∀ field ∈ fields, Extended.Tag.ofKey? field.1 = none) ∧
      ∀ part ∈ partsFields fields, part.Plain :=
  forall_parts_document

/-- The scope of code is judged as the document that it is. -/
theorem durable_codeWithScope : (codeWithScope s scope).Durable ↔ (document scope).Durable :=
  forall_parts_codeWithScope trivial

/-- A date is durable if the calendar reaches it. -/
theorem durable_dateTime {ms : Int64} :
    (dateTime ms).Durable ↔ ms.toInt ≤ Calendar.lastMoment :=
  List.forall_mem_singleton

/-- A regular expression is durable if its options are in order. -/
theorem durable_regex {pattern options : Text.NulFree} :
    (regex pattern options).Durable ↔ options.sorted = options :=
  List.forall_mem_singleton

end

/-! ## Durable literals come back

  A durable value is portable and has its options in order already, so it is what it comes back
  as. -/

mutual

/-- A durable value is portable, and there is nothing to put in order. -/
theorem portable_of_durable : ∀ value : Value, value.Durable →
    value.Portable ∧ value.arranged = value
  -- Induction on the value; lists of items and of fields go along.
  | array items, h => by
    have hitems := portableItems_of_plain items (durable_array.1 h)
    exact ⟨hitems.1, by rw [arranged, hitems.2]⟩
  | document fields, h => by
    have hfields := portableFields_of_plain fields (durable_document.1 h)
    exact ⟨hfields.1, by rw [arranged, hfields.2]⟩
  | codeWithScope s scope, h => by
    have hscope := portableFields_of_plain scope (durable_document.1 (durable_codeWithScope.1 h))
    exact ⟨hscope.1, by rw [arranged, hscope.2]⟩
  | dateTime _, h => ⟨durable_dateTime.1 h, rfl⟩
  | regex _ _, h => ⟨trivial, by rw [arranged, durable_regex.1 h]⟩
  | null, _ | bool _, _ | int32 _, _ | int64 _, _ | double _, _ | string _, _ | objectId _, _
  | undefined, _ | minKey, _ | maxKey, _ | timestamp _ _, _ | binary _ _, _ | symbol _, _
  | code _, _ | decimal _, _ | pointer _ _, _ => ⟨trivial, rfl⟩

theorem portableItems_of_plain : ∀ items : List Value, (∀ part ∈ partsItems items, part.Plain) →
    PortableItems items ∧ arrangedItems items = items
  | [], _ => ⟨trivial, rfl⟩
  | item :: rest, h => by
    rw [partsItems, List.forall_mem_append] at h
    have hitem := portable_of_durable item h.1
    have hrest := portableItems_of_plain rest h.2
    exact ⟨⟨hitem.1, hrest.1⟩, by rw [arrangedItems, hitem.2, hrest.2]⟩

theorem portableFields_of_plain : ∀ fields : List (String × Value),
    (∀ field ∈ fields, Extended.Tag.ofKey? field.1 = none) ∧
      (∀ part ∈ partsFields fields, part.Plain) →
        PortableFields fields ∧ arrangedFields fields = fields
  | [], _ => ⟨trivial, rfl⟩
  | (key, value) :: rest, ⟨hkeys, h⟩ => by
    rw [List.forall_mem_cons] at hkeys
    rw [partsFields, List.forall_mem_append] at h
    have hvalue := portable_of_durable value h.1
    have hrest := portableFields_of_plain rest ⟨hkeys.2, h.2⟩
    exact ⟨⟨hkeys.1, hvalue.1, hrest.1⟩, by rw [arrangedFields, hvalue.2, hrest.2]⟩

end

end Value

/-! ## Tagged values are no documents

  There are two places where a document is taken for another value: writing condenses what looks
  like a tagged value, and reading interprets it.  Both make leaves, whatever the tag, apart from
  code with a scope.  This goes through the table of tags once on each side. -/

/-- A value without values inside it; the options of a regular expression are in order. -/
def Value.Leaf : Value → Prop
  | array _ => False
  | document _ => False
  | codeWithScope _ _ => False
  | regex _ options => options.sorted = options
  | _ => True

/-- Documents have values inside them. -/
theorem Value.Leaf.asDocument? {value : Value} (h : value.Leaf) : value.asDocument? = none := by
  cases value with
  | document fields => exact h.elim
  | _ => rfl

namespace Extended

open Value

/-- What this gives, if anything, is a leaf. -/
def GivesLeaf (found : Option Value) : Prop :=
  ∀ value, found = some value → value.Leaf

theorem givesLeaf_none : GivesLeaf none :=
  fun _ h => nomatch h

theorem givesLeaf_some {value : Value} (h : value.Leaf) : GivesLeaf (some value) := by
  rintro _ ⟨⟩
  exact h

/-- It is the last step that gives the value. -/
theorem givesLeaf_bind {α : Type} {f : α → Option Value} {found : Option α}
    (h : ∀ a, GivesLeaf (f a)) : GivesLeaf (found.bind f) := by
  cases found with
  | none => exact givesLeaf_none
  | some a => exact h a

/-- Every value that the function makes is a leaf. -/
theorem givesLeaf_map {α : Type} {f : α → Value} {found : Option α} (h : ∀ a, (f a).Leaf) :
    GivesLeaf (found.map f) := by
  cases found with
  | none => exact givesLeaf_none
  | some a => exact givesLeaf_some (h a)

/-- Giving it under a condition adds no other value. -/
theorem givesLeaf_if {p : Prop} [Decidable p] {found : Option Value} (h : GivesLeaf found) :
    GivesLeaf (if p then found else none) := by
  split
  · exact h
  · exact givesLeaf_none

/-- A value spelled as text is a leaf, whatever its tag. -/
theorem givesLeaf_ofText? (tag : Tag) (s : String) : GivesLeaf (tag.ofText? s) := by
  cases tag with
  | oid => exact givesLeaf_map fun _ => trivial
  | symbol => exact givesLeaf_some trivial
  | numberInt => exact givesLeaf_map fun _ => trivial
  | numberLong => exact givesLeaf_map fun _ => trivial
  | numberDouble => exact givesLeaf_map fun _ => trivial
  | numberDecimal => exact givesLeaf_map fun _ => trivial
  | code => exact givesLeaf_some trivial
  | date => exact givesLeaf_map fun _ => trivial
  | _ => exact givesLeaf_none

theorem givesLeaf_binary? (base64 subtype : String) : GivesLeaf (binary? base64 subtype) := by
  unfold binary?
  split
  · exact givesLeaf_some trivial
  · exact givesLeaf_none

/-- Regular expressions get their options put in order where they are made. -/
theorem givesLeaf_regex? (pattern options : String) : GivesLeaf (regex? pattern options) :=
  givesLeaf_bind fun _ => givesLeaf_bind
    fun options => givesLeaf_some (Text.NulFree.sorted_sorted options)

theorem givesLeaf_condensedBinary? (fields : Document) :
    GivesLeaf (condensedBinary? fields) := by
  unfold condensedBinary?
  split
  · exact givesLeaf_binary? _ _
  · exact givesLeaf_none
  · exact givesLeaf_if (givesLeaf_some trivial)
  · exact givesLeaf_none

theorem givesLeaf_condensedTimestamp? (fields : Document) :
    GivesLeaf (condensedTimestamp? fields) := by
  unfold condensedTimestamp?
  split
  · exact givesLeaf_some trivial
  · exact givesLeaf_bind fun _ => givesLeaf_bind fun _ => givesLeaf_some trivial
  · exact givesLeaf_none

theorem givesLeaf_condensedRegex? (fields : Document) : GivesLeaf (condensedRegex? fields) := by
  unfold condensedRegex?
  split
  · exact givesLeaf_regex? _ _
  · exact givesLeaf_none

theorem givesLeaf_condensedPointer? (fields : Document) :
    GivesLeaf (condensedPointer? fields) := by
  unfold condensedPointer?
  split
  · exact givesLeaf_some trivial
  · exact givesLeaf_none

/-- What writing puts in the place of a tagged document is a leaf. -/
theorem givesLeaf_condensed? (tag : Tag) (payload : Value) :
    GivesLeaf (condensed? tag payload) := by
  unfold condensed?
  split
  · exact givesLeaf_condensedBinary? _
  · exact givesLeaf_condensedTimestamp? _
  · exact givesLeaf_condensedRegex? _
  · exact givesLeaf_condensedPointer? _
  · exact givesLeaf_if (givesLeaf_map fun _ => trivial)
  · exact givesLeaf_some trivial
  · exact givesLeaf_if (givesLeaf_some trivial)
  · exact givesLeaf_if (givesLeaf_some trivial)
  · exact givesLeaf_some trivial
  · exact givesLeaf_ofText? _ _
  · exact givesLeaf_none

theorem givesLeaf_date? (value : Value) : GivesLeaf (date? value) := by
  unfold date?
  split
  · exact givesLeaf_some trivial
  · exact givesLeaf_ofText? _ _
  · exact givesLeaf_map fun _ => trivial

/-- What reading puts in the place of a tagged document is a leaf. -/
theorem givesLeaf_payload? (trailing : Trailing) (tag : Tag) (value : Value) :
    GivesLeaf (payload? trailing tag value) := by
  unfold payload?
  split
  · exact givesLeaf_map fun _ => trivial
  · exact givesLeaf_map fun _ => trivial
  · exact givesLeaf_bind fun _ => givesLeaf_bind fun _ => givesLeaf_bind
      fun _ => givesLeaf_binary? _ _
  · exact givesLeaf_map fun _ => trivial
  · exact givesLeaf_bind fun _ => givesLeaf_bind fun _ => givesLeaf_bind
      fun _ => givesLeaf_some trivial
  · exact givesLeaf_bind fun _ => givesLeaf_bind fun _ => givesLeaf_bind
      fun _ => givesLeaf_regex? _ _
  · exact givesLeaf_bind fun _ => givesLeaf_bind fun _ => givesLeaf_bind
      fun _ => givesLeaf_some trivial
  · exact givesLeaf_date? _
  · exact givesLeaf_if (givesLeaf_some trivial)
  · exact givesLeaf_if (givesLeaf_some trivial)
  · exact givesLeaf_some trivial
  · exact givesLeaf_bind fun _ => givesLeaf_ofText? _ _

/-- What this gives, if anything, is no document. -/
def NoDocument (found : Option Value) : Prop :=
  ∀ value, found = some value → value.asDocument? = none

/-- Leaves are no documents. -/
theorem GivesLeaf.noDocument {found : Option Value} (h : GivesLeaf found) : NoDocument found :=
  fun value hvalue => (h value hvalue).asDocument?

/-- The value of a tagged document is no document, be it a leaf or code with a scope. -/
theorem noDocument_special? (fields : List (String × Value)) : NoDocument (special? fields) := by
  unfold special?
  split
  · exact (givesLeaf_bind fun tag => givesLeaf_condensed? tag _).noDocument
  · rintro _ ⟨⟩
    rfl
  · rintro _ ⟨⟩
    rfl
  · exact fun _ h => nomatch h

/-! ## What is read as a document

  A tag anywhere among the fields ends the reading of a document with another value or an error.
  So where a document comes back, it had no tag, and was not taken for a tagged value when it was
  written. -/

variable {trailing : Trailing} {key s : String} {value : Value}
  {fields rest read scope : List (String × Value)}

/-- Code with a scope is made of a text and a document, and of nothing else. -/
theorem withScope_eq_ok {code found : Value} (h : withScope code found = .ok value) :
    ∃ s fields, text? code = some s ∧ found = .document fields ∧
      value = .codeWithScope s fields := by
  unfold withScope at h
  split at h
  · cases h
  · rename_i s fields hcode
    cases h
    exact ⟨s, fields, hcode, rfl, rfl⟩
  · cases h

/-- Fields behind a tag are dropped or refused, but never change the value. -/
theorem finish_eq_ok {outcome : Outcome} (h : finish trailing value rest = .ok outcome) :
    outcome = .tagged value := by
  unfold finish at h
  split at h
  · cases h
    rfl
  · split at h
    · cases h
      rfl
    · cases h

/-- A field that is a tag makes one value of the whole document: a leaf, or code with a scope that
    was read from one of the fields. -/
theorem exists_of_tag {outcome : Outcome} (htag : Tag.ofKey? key ≠ none)
    (h : interpretFields trailing ((key, value) :: rest) = .ok outcome) :
    ∃ tagged, outcome = .tagged tagged ∧ (tagged.Leaf ∨
      ∃ s scope, tagged = .codeWithScope s scope ∧
        ∃ field ∈ (key, value) :: rest, interpret trailing field.2 = .ok (.document scope)) := by
  unfold interpretFields at h
  split at h
  · -- The key is a tag, so this case does not arise.
    rename_i hnone
    exact absurd hnone htag
  · split at h
    · -- The scope stands behind the code.
      obtain ⟨read, hread, h⟩ := bind_eq_ok_iff.1 h
      obtain ⟨whole, hwhole, h⟩ := bind_eq_ok_iff.1 h
      obtain ⟨s, scope, -, rfl, rfl⟩ := withScope_eq_ok hwhole
      exact ⟨_, finish_eq_ok h, Or.inr ⟨s, scope, rfl, _,
        List.mem_cons_of_mem _ List.mem_cons_self, hread⟩⟩
    · cases h
  · split at h
    · -- The scope stands in front of the code.
      obtain ⟨read, hread, h⟩ := bind_eq_ok_iff.1 h
      obtain ⟨whole, hwhole, h⟩ := bind_eq_ok_iff.1 h
      obtain ⟨s, scope, -, rfl, rfl⟩ := withScope_eq_ok hwhole
      exact ⟨_, finish_eq_ok h, Or.inr ⟨s, scope, rfl, _, List.mem_cons_self, hread⟩⟩
    · cases h
  · split at h
    · -- Any other tag gives its payload, which is a leaf.
      rename_i tagged hpayload
      exact ⟨tagged, finish_eq_ok h, Or.inl (givesLeaf_payload? _ _ _ tagged hpayload)⟩
    · cases h

/-- Either is no document itself. -/
theorem asDocument?_of_tag {outcome : Outcome} (htag : Tag.ofKey? key ≠ none)
    (h : interpretFields trailing ((key, value) :: rest) = .ok outcome) :
    ∃ tagged, outcome = .tagged tagged ∧ tagged.asDocument? = none := by
  obtain ⟨tagged, rfl, hleaf | ⟨_, _, rfl, -⟩⟩ := exists_of_tag htag h
  · exact ⟨tagged, rfl, hleaf.asDocument?⟩
  · exact ⟨_, rfl, rfl⟩

/-- Fields that are read as those of an ordinary document begin with no tag. -/
theorem interpretFields_cons_ordinary
    (h : interpretFields trailing ((key, value) :: rest) = .ok (.ordinary read)) :
    Tag.ofKey? key = none ∧ ∃ first others, interpret trailing value = .ok first ∧
      interpretFields trailing rest = .ok (.ordinary others) ∧ read = (key, first) :: others := by
  by_cases htag : Tag.ofKey? key = none
  · unfold interpretFields at h
    rw [htag] at h
    obtain ⟨first, hfirst, h⟩ := bind_eq_ok_iff.1 h
    obtain ⟨outcome, houtcome, h⟩ := bind_eq_ok_iff.1 h
    cases outcome with
    | tagged whole => cases h
    | ordinary others =>
      cases h
      exact ⟨htag, first, others, hfirst, houtcome, rfl⟩
  · -- A tag in front makes one value of all fields, and not an ordinary document.
    obtain ⟨_, houtcome, -⟩ := asDocument?_of_tag htag h
    cases houtcome

/-- If reading fields ends with one value for all of them, that value is no document. -/
theorem asDocument?_of_tagged (h : interpretFields trailing fields = .ok (.tagged value)) :
    value.asDocument? = none := by
  -- The value comes from the first tag, so the fields in front of it are skipped.
  induction fields with
  | nil => cases h
  | cons field rest ih =>
    obtain ⟨key, first⟩ := field
    by_cases htag : Tag.ofKey? key = none
    · unfold interpretFields at h
      rw [htag] at h
      obtain ⟨_, -, h⟩ := bind_eq_ok_iff.1 h
      obtain ⟨outcome, houtcome, h⟩ := bind_eq_ok_iff.1 h
      cases outcome with
      | ordinary others => cases h
      | tagged whole =>
        cases h
        exact ih houtcome
    · obtain ⟨_, houtcome, hnone⟩ := asDocument?_of_tag htag h
      cases houtcome
      exact hnone

/-- What is read as a document is one, and none of its fields is a tag. -/
theorem exists_of_interpret_document (h : interpret trailing value = .ok (.document read)) :
    ∃ fields, value = .document fields ∧
      interpretFields trailing fields = .ok (.ordinary read) := by
  cases value with
  | document fields =>
    obtain ⟨outcome, houtcome, h⟩ := bind_eq_ok_iff.1 h
    cases outcome with
    | ordinary others =>
      cases h
      exact ⟨fields, rfl, houtcome⟩
    | tagged whole =>
      cases h
      cases asDocument?_of_tagged houtcome
  | array items =>
    obtain ⟨_, -, h⟩ := bind_eq_ok_iff.1 h
    cases h
  -- Code with a scope stays code with a scope.
  | codeWithScope s scope =>
    obtain ⟨_, -, h⟩ := bind_eq_ok_iff.1 h
    obtain ⟨_, _, -, -, h⟩ := withScope_eq_ok h
    cases h
  | _ => cases h

/-- So what was written for a document was its fields. -/
theorem interpretFields_of_whole (h : interpret trailing (whole fields) = .ok (.document read)) :
    interpretFields trailing fields = .ok (.ordinary read) := by
  obtain ⟨given, hgiven, hread⟩ := exists_of_interpret_document h
  rw [whole] at hgiven
  cases hspecial : special? fields with
  | none =>
    rw [hspecial] at hgiven
    cases hgiven
    exact hread
  -- Writing took the document for a tagged value.  That is no document, so none is read.
  | some value =>
    rw [hspecial, Option.getD_some] at hgiven
    have hnone := noDocument_special? fields value hspecial
    rw [hgiven] at hnone
    cases hnone

/-- And what was written for the scope of code is read as the scope. -/
theorem interpret_of_codeWithScope (h : interpret trailing
    (whole [("$code", .string s), ("$scope", value)]) = .ok (.codeWithScope s scope)) :
    interpret trailing value = .ok (.document scope) := by
  by_cases hdoc : ∃ fields, value = .document fields
  · obtain ⟨fields, rfl⟩ := hdoc
    -- The two fields were written as code with a scope.
    obtain ⟨outcome, houtcome, h⟩ := bind_eq_ok_iff.1 h
    obtain ⟨_, _, -, hvalue, h⟩ := withScope_eq_ok h
    cases h
    rw [interpret, houtcome]
    exact congrArg Except.ok hvalue
  · -- The scope is no document, so the two fields were written as they stand, and are read as tags.
    have hwhole : whole [("$code", .string s), ("$scope", value)] =
        .document [("$code", .string s), ("$scope", value)] := by
      cases value with
      | document fields => exact absurd ⟨fields, rfl⟩ hdoc
      | _ => rfl
    rw [hwhole] at h
    obtain ⟨outcome, houtcome, h⟩ := bind_eq_ok_iff.1 h
    obtain ⟨read, hread, hfinish⟩ := bind_eq_ok_iff.1
      (show (interpret trailing value >>= _) = .ok outcome from houtcome)
    obtain ⟨tagged, htagged, hend⟩ := bind_eq_ok_iff.1 hfinish
    obtain ⟨_, _, -, rfl, rfl⟩ := withScope_eq_ok htagged
    cases finish_eq_ok hend
    cases h
    exact hread

/-! ## Nothing else comes back

  The converse of the above, by induction on the value.  It is here that changes made by writing
  might be undone by reading; the lemmas before say that they are not. -/

mutual

/-- A value that is read as it was when it was written is durable. -/
theorem durable_of_interpret_condense : ∀ value : Value,
    interpret trailing (condense value) = .ok value → value.Durable
  | .array items, h => by
    rw [condense] at h
    obtain ⟨read, hread, h⟩ := bind_eq_ok_iff.1 h
    cases h
    exact durable_array.2 (plain_of_interpretItems items hread)
  | .document fields, h => by
    rw [condense] at h
    exact durable_document.2 (plain_of_interpretFields fields (interpretFields_of_whole h))
  | .codeWithScope s scope, h => by
    rw [condense] at h
    have hscope := interpretFields_of_whole (interpret_of_codeWithScope h)
    exact durable_codeWithScope.2 (durable_document.2 (plain_of_interpretFields scope hscope))
  | .dateTime ms, h =>
    durable_dateTime.2 (withinCalendar_eq_iff.1 (Value.dateTime.inj (Except.ok.inj h)))
  | .regex pattern options, h => by
    -- Writing and reading both put the options in order.
    have hsame : options.sorted.sorted = options := (Value.regex.inj (Except.ok.inj h)).2
    rw [Text.NulFree.sorted_sorted] at hsame
    exact durable_regex.2 hsame
  | .null, _ | .bool _, _ | .int32 _, _ | .int64 _, _ | .double _, _ | .string _, _
  | .objectId _, _ | .undefined, _ | .minKey, _ | .maxKey, _ | .timestamp _ _, _ | .binary _ _, _
  | .symbol _, _ | .code _, _ | .decimal _, _ | .pointer _ _, _ => by
    exact List.forall_mem_singleton.2 trivial

theorem plain_of_interpretItems : ∀ items : List Value,
    interpretItems trailing (condenseItems items) = .ok items →
      ∀ part ∈ partsItems items, part.Plain
  | [], _ => nofun
  | item :: rest, h => by
    rw [condenseItems] at h
    obtain ⟨first, hfirst, h⟩ := bind_eq_ok_iff.1 h
    obtain ⟨others, hothers, h⟩ := bind_eq_ok_iff.1 h
    cases h
    rw [partsItems, List.forall_mem_append]
    exact ⟨durable_of_interpret_condense item hfirst, plain_of_interpretItems rest hothers⟩

theorem plain_of_interpretFields : ∀ fields : List (String × Value),
    interpretFields trailing (condenseFields fields) = .ok (.ordinary fields) →
      (∀ field ∈ fields, Tag.ofKey? field.1 = none) ∧ ∀ part ∈ partsFields fields, part.Plain
  | [], _ => ⟨nofun, nofun⟩
  | (key, value) :: rest, h => by
    rw [condenseFields] at h
    -- A tag in front would have made one value of all fields.
    obtain ⟨hkey, first, others, hfirst, hothers, hsame⟩ := interpretFields_cons_ordinary h
    cases hsame
    have hrest := plain_of_interpretFields rest hothers
    rw [partsFields, List.forall_mem_append, List.forall_mem_cons]
    exact ⟨⟨hkey, hrest.1⟩, durable_of_interpret_condense value hfirst, hrest.2⟩

end

end Extended

/-- A literal comes back as it was exactly if it is durable. -/
theorem Value.reread_eq_iff {literal : Value} : literal.reread = .ok literal ↔ literal.Durable := by
  constructor
  · intro h
    exact Extended.durable_of_interpret_condense literal h
  · intro h
    obtain ⟨hportable, harranged⟩ := portable_of_durable literal h
    rw [reread_of_portable hportable, harranged]

/-! ## Definitions -/

/-- What is read inside a constructor is what stood there if the whole is. -/
theorem wrapped_eq_ok_iff {ε α β : Type} {read : Except ε α} {wrap : α → β} {a : α}
    (hwrap : ∀ {b}, wrap b = wrap a → b = a) :
    (read >>= fun b => pure (wrap b)) = .ok (wrap a) ↔ read = .ok a := by
  rw [bind_eq_ok_iff]
  constructor
  · rintro ⟨b, hread, h⟩
    rw [hread, hwrap (Except.ok.inj h)]
  · intro h
    exact ⟨a, h, rfl⟩

namespace Expr

mutual

/-- The values that a predicate compares with. -/
def literals : Expr → List Value
  | .and exprs => literalsOfItems exprs
  | .or exprs => literalsOfItems exprs
  | .field _ _ literal => [literal]

def literalsOfItems : List Expr → List Value
  | [] => []
  | e :: rest => e.literals ++ literalsOfItems rest

end

mutual

/-- A predicate comes back as it was exactly if all its literals are durable. -/
theorem reread_eq_iff : ∀ e : Expr,
    e.reread = .ok e ↔ ∀ literal ∈ e.literals, literal.Durable
  | .and exprs => by
    rw [literals, ← rereadItems_eq_iff exprs, reread]
    exact wrapped_eq_ok_iff Expr.and.inj
  | .or exprs => by
    rw [literals, ← rereadItems_eq_iff exprs, reread]
    exact wrapped_eq_ok_iff Expr.or.inj
  | .field name op literal => by
    rw [literals, List.forall_mem_singleton, ← Value.reread_eq_iff, reread]
    exact wrapped_eq_ok_iff fun h => (Expr.field.inj h).2.2

theorem rereadItems_eq_iff : ∀ exprs : List Expr,
    rereadItems exprs = .ok exprs ↔ ∀ literal ∈ literalsOfItems exprs, literal.Durable
  | [] => ⟨fun _ => nofun, fun _ => rfl⟩
  | e :: rest => by
    rw [literalsOfItems, List.forall_mem_append, ← reread_eq_iff e, ← rereadItems_eq_iff rest,
      rereadItems, bind_eq_ok_iff]
    constructor
    · rintro ⟨first, hfirst, h⟩
      obtain ⟨others, hothers, h⟩ := bind_eq_ok_iff.1 h
      cases h
      exact ⟨hfirst, hothers⟩
    · rintro ⟨hfirst, hothers⟩
      exact ⟨e, hfirst, bind_eq_ok_iff.2 ⟨rest, hothers, rfl⟩⟩

end

end Expr

namespace Definition

/-- What comes back of a definition from the design document that was made of it. -/
theorem ofDesign_toDesign (view : Definition) (name : String) :
    ofDesign (view.toDesign name) name =
      (view.predicate.reread.mapError StoreError.ofDecode).map fun predicate =>
        ⟨predicate, view.projection⟩ := by
  refine ofDesign_of_stored ?_
  show (Entries.get? [(name, Value.document [("map", view.toStored)])] name).bind
    (fun value => value.asDocument?.bind fun view => view.get? "map") = _
  rw [Entries.get?_cons, if_pos rfl]
  rfl

/-- The projection and the name of a view have no say in it. -/
theorem ofDesign_toDesign_eq_iff {view : Definition} {name : String} :
    ofDesign (view.toDesign name) name = .ok view ↔
      ∀ literal ∈ view.predicate.literals, literal.Durable := by
  rw [ofDesign_toDesign, ← Expr.reread_eq_iff]
  obtain ⟨predicate, projection⟩ := view
  cases hread : predicate.reread with
  -- A literal that cannot be read again is not durable.
  | error e => exact ⟨fun h => (nomatch h), fun h => (nomatch h)⟩
  | ok read =>
    constructor
    · intro h
      cases h
      rfl
    · intro h
      cases h
      rfl

end Definition

/-- **A stored definition comes back as it was exactly if its literals are durable.**  For every
    definition and every name of a view, the design document made of the definition gives back the
    same definition if and only if every part of every literal in its predicate is plain: no
    document has a key that is a tag, no date lies behind the last one of the calendar, and the
    options of regular expressions are in order.  The scope of code is a document here.
    Otherwise another definition comes back, or an error that says that it cannot be read. -/
theorem stored_definition_round_trip (view : Definition) (name : String) :
    (Definition.ofDesign (view.toDesign name) name = .ok view ↔
      ∀ literal ∈ view.predicate.literals, ∀ part ∈ literal.parts, part.Plain) ∧
    ((∃ other, Definition.ofDesign (view.toDesign name) name = .ok other) ∨
      ∃ reason, Definition.ofDesign (view.toDesign name) name =
        .error (.serialization reason)) := by
  refine ⟨Definition.ofDesign_toDesign_eq_iff, ?_⟩
  rw [Definition.ofDesign_toDesign]
  cases view.predicate.reread with
  | ok predicate => exact Or.inl ⟨_, rfl⟩
  | error e => exact Or.inr ⟨e.message, rfl⟩

/-- The tags that extended JSON is best known for; there are more. -/
def commonTags : List String :=
  ["$oid", "$symbol", "$numberInt", "$numberLong", "$numberDouble", "$date", "$undefined",
    "$minKey", "$maxKey", "$code", "$timestamp", "$regularExpression"]

/-- No document inside the value has one of these keys. -/
def Value.Without (keys : List String) (value : Value) : Prop :=
  ∀ fields, .document fields ∈ value.parts → ∀ field ∈ fields, field.1 ∉ keys

/-- The definition that compares one field with this literal. -/
def comparingWith (literal : Value) : Definition :=
  ⟨.field "x" .eq literal, .all⟩

/-- One part that is not plain is enough. -/
theorem Definition.not_round_trip {literal : Value} (name : String) (part : Value)
    (hmem : part ∈ literal.parts) (hpart : ¬ part.Plain) :
    ofDesign ((comparingWith literal).toDesign name) name ≠ .ok (comparingWith literal) := by
  intro h
  have hdurable := ofDesign_toDesign_eq_iff.1 h literal (List.mem_singleton.2 rfl)
  exact hpart (hdurable part hmem)

/-- The first moment that the calendar does not reach. -/
def afterCalendar : Value := .dateTime 253402300800000

/-- A regular expression with options out of order. -/
def optionsOutOfOrder : Value := .regex ⟨"a", by decide⟩ ⟨"mi", by decide⟩

/-- A document with a tag that is none of the common ones. -/
def taggedUuid : Value := .document [("$uuid", .string "00112233-4455-6677-8899-aabbccddeeff")]

/-- So definitions without any of the common tags need not come back: one with another tag does not,
    nor do one with a date behind the calendar and one with options out of order. -/
theorem round_trip_fails_without_common_tags :
    (taggedUuid.Without commonTags ∧
      Definition.ofDesign ((comparingWith taggedUuid).toDesign "v") "v" ≠
        .ok (comparingWith taggedUuid)) ∧
    (afterCalendar.Without commonTags ∧
      Definition.ofDesign ((comparingWith afterCalendar).toDesign "v") "v" ≠
        .ok (comparingWith afterCalendar)) ∧
    (optionsOutOfOrder.Without commonTags ∧
      Definition.ofDesign ((comparingWith optionsOutOfOrder).toDesign "v") "v" ≠
        .ok (comparingWith optionsOutOfOrder)) := by
  refine ⟨⟨?_, ?_⟩, ⟨?_, ?_⟩, ?_, ?_⟩
  · intro fields hmem field hfield
    rcases List.mem_cons.1 hmem with h | h
    · cases h
      cases List.mem_singleton.1 hfield
      decide
    · cases List.mem_singleton.1 h
  · refine Definition.not_round_trip "v" taggedUuid List.mem_cons_self ?_
    intro hplain
    have hnone := hplain _ List.mem_cons_self
    revert hnone
    decide
  · intro fields hmem
    cases List.mem_singleton.1 hmem
  · refine Definition.not_round_trip "v" afterCalendar List.mem_cons_self ?_
    show ¬ (253402300800000 : Int64).toInt ≤ Calendar.lastMoment
    decide
  · intro fields hmem
    cases List.mem_singleton.1 hmem
  · refine Definition.not_round_trip "v" optionsOutOfOrder List.mem_cons_self ?_
    intro hplain
    -- What has been put in order is in order, and these are not.
    have hordered := Text.NulFree.pairwise_sorted ⟨"mi", by decide⟩
    rw [show Text.NulFree.sorted ⟨"mi", by decide⟩ = ⟨"mi", by decide⟩ from hplain] at hordered
    revert hordered
    decide

end DocStore
