/-
  What is read from a design document, written and read once more.

  Reading takes tagged documents for the values that they stand for and puts options in order, so
  what it returns has no tags left at any depth and no options out of order
  (`Extended.settled_of_interpret`).  Tagged documents make leaves, or code with a scope that was
  read as a document itself (`Extended.exists_of_tag`), so no tag gets back in that way.

  Writing such a literal changes nothing, and reading it again changes only its dates: dates are
  brought into the calendar when they are read as dates, but not when they are read from a tag.  So
  a definition that was read is stable exactly if none of its dates lies behind the calendar, and
  otherwise it comes back with those dates brought into it.
-/
import DocStore.Proofs.View.RoundTrip

namespace DocStore

namespace Value

/-! ## Settled values

  Plainness falls into two halves.  Reading establishes one of them, and the other one is what it
  does not establish. -/

/-- Nothing is left to read here but a date. -/
def Read : Value → Prop
  | document fields => ∀ field ∈ fields, Extended.Tag.ofKey? field.1 = none
  | regex _ options => options.sorted = options
  | _ => True

/-- If this is a date, the calendar reaches it. -/
def Timely : Value → Prop
  | dateTime ms => ms.toInt ≤ Calendar.lastMoment
  | _ => True

/-- What keeps a value from being plain is something left to read, or a date. -/
theorem plain_iff {value : Value} : value.Plain ↔ value.Read ∧ value.Timely := by
  -- Only documents and regular expressions are left to read, and only dates are late.
  cases value with
  | document fields => exact (and_iff_left trivial).symm
  | regex pattern options => exact (and_iff_left trivial).symm
  | _ => exact (and_iff_right trivial).symm

/-- Nothing is left to read in the value but dates. -/
def Settled (value : Value) : Prop :=
  ∀ part ∈ value.parts, part.Read

/-- Durable is settled, with all dates in the calendar. -/
theorem durable_iff {value : Value} :
    value.Durable ↔ value.Settled ∧ ∀ part ∈ value.parts, part.Timely := by
  unfold Durable Settled
  constructor
  · intro h
    exact ⟨fun part hpart => (plain_iff.1 (h part hpart)).1,
      fun part hpart => (plain_iff.1 (h part hpart)).2⟩
  · rintro ⟨hread, htimely⟩ part hpart
    exact plain_iff.2 ⟨hread part hpart, htimely part hpart⟩

section

variable {items : List Value} {fields scope : List (String × Value)} {s : String}

/-- An array is as settled as what is in it. -/
theorem settled_array : (array items).Settled ↔ ∀ part ∈ partsItems items, part.Read :=
  forall_parts_array trivial

/-- A settled document has no tags, and settled values. -/
theorem settled_document : (document fields).Settled ↔
    (∀ field ∈ fields, Extended.Tag.ofKey? field.1 = none) ∧
      ∀ part ∈ partsFields fields, part.Read :=
  forall_parts_document

/-- Code with a scope is as settled as the scope. -/
theorem settled_codeWithScope : (codeWithScope s scope).Settled ↔ (document scope).Settled :=
  forall_parts_codeWithScope trivial

/-- A regular expression is settled once its options are in order. -/
theorem settled_regex {pattern options : Text.NulFree} :
    (regex pattern options).Settled ↔ options.sorted = options :=
  List.forall_mem_singleton

/-- There is nothing inside a leaf that could be read. -/
theorem Leaf.settled {value : Value} (h : value.Leaf) : value.Settled := by
  cases value with
  | array _ => exact h.elim
  | document _ => exact h.elim
  | codeWithScope _ _ => exact h.elim
  | regex _ _ => exact settled_regex.2 h
  | _ => exact List.forall_mem_singleton.2 trivial

end

mutual

/-- The value with all dates inside it brought into the calendar. -/
def inCalendar : Value → Value
  | array items => array (inCalendarItems items)
  | document fields => document (inCalendarFields fields)
  | codeWithScope s scope => codeWithScope s (inCalendarFields scope)
  | dateTime ms => dateTime (Extended.withinCalendar ms)
  | value => value

def inCalendarItems : List Value → List Value
  | [] => []
  | item :: rest => item.inCalendar :: inCalendarItems rest

def inCalendarFields : List (String × Value) → List (String × Value)
  | [] => []
  | (key, value) :: rest => (key, value.inCalendar) :: inCalendarFields rest

end

end Value

namespace Extended

open Value

variable {trailing : Trailing} {read : Value} {fields : List (String × Value)} {outcome : Outcome}

/-! ## Reading settles

  By induction on what is read, with its parts.  The fields of a document need an induction of
  their own, since what comes of them depends on where the first tag stands. -/

/-- A settled field without a tag in front of what has been read leaves that settled. -/
theorem Outcome.settled_cons {key : String} {first : Value} (hkey : Tag.ofKey? key = none)
    (hfirst : first.Settled) (h : outcome.value.Settled) :
    (outcome.cons key first).value.Settled := by
  cases outcome with
  | tagged whole => exact h
  | ordinary others =>
    obtain ⟨hkeys, hparts⟩ := settled_document.1 h
    refine settled_document.2 ⟨List.forall_mem_cons.2 ⟨hkey, hkeys⟩, ?_⟩
    rw [partsFields, List.forall_mem_append]
    exact ⟨hfirst, hparts⟩

/-- Fields whose values settle make a settled value. -/
theorem settled_of_fields
    (hvalues : ∀ field ∈ fields, ∀ {read}, interpret trailing field.2 = .ok read → read.Settled)
    (h : interpretFields trailing fields = .ok outcome) : outcome.value.Settled := by
  -- Induction on the fields up to the first tag, which decides about all that follow.
  induction fields generalizing outcome with
  | nil =>
    cases h
    exact settled_document.2 ⟨List.forall_mem_nil _, List.forall_mem_nil _⟩
  | cons field rest ih =>
    obtain ⟨key, value⟩ := field
    by_cases htag : Tag.ofKey? key = none
    · unfold interpretFields at h
      rw [htag] at h
      obtain ⟨first, hfirst, h⟩ := bind_eq_ok_iff.1 h
      obtain ⟨others, hothers, h⟩ := bind_eq_ok_iff.1 h
      cases h
      rw [List.forall_mem_cons] at hvalues
      exact Outcome.settled_cons htag (hvalues.1 hfirst) (ih hvalues.2 hothers)
    · -- The value of a tag is a leaf, or code whose scope was read from one of the fields.
      obtain ⟨_, rfl, hleaf | ⟨s, scope, rfl, field, hfield, hscope⟩⟩ := exists_of_tag htag h
      · exact hleaf.settled
      · exact settled_codeWithScope.2 (hvalues field hfield hscope)

mutual

/-- Whatever is read is settled. -/
theorem settled_of_interpret : ∀ (value : Value) {read : Value},
    interpret trailing value = .ok read → read.Settled
  | .array items, _, h => by
    obtain ⟨_, hitems, h⟩ := bind_eq_ok_iff.1 h
    cases h
    exact settled_array.2 (read_of_interpretItems items hitems)
  | .document fields, _, h => by
    obtain ⟨_, houtcome, h⟩ := bind_eq_ok_iff.1 h
    cases h
    exact settled_of_fields (settled_of_mem fields) houtcome
  | .codeWithScope _ scope, _, h => by
    obtain ⟨outcome, houtcome, h⟩ := bind_eq_ok_iff.1 h
    obtain ⟨_, _, -, hscope, rfl⟩ := withScope_eq_ok h
    have hsettled := settled_of_fields (settled_of_mem scope) houtcome
    rw [hscope] at hsettled
    exact settled_codeWithScope.2 hsettled
  | .regex _ options, _, h => by
    cases h
    exact settled_regex.2 (Text.NulFree.sorted_sorted options)
  | .null, _, h | .bool _, _, h | .int32 _, _, h | .int64 _, _, h | .double _, _, h
  | .dateTime _, _, h | .string _, _, h | .objectId _, _, h | .undefined, _, h | .minKey, _, h
  | .maxKey, _, h | .timestamp _ _, _, h | .binary _ _, _, h | .symbol _, _, h | .code _, _, h
  | .decimal _, _, h | .pointer _ _, _, h => by
    cases h
    exact List.forall_mem_singleton.2 trivial

theorem read_of_interpretItems : ∀ (items : List Value) {read : List Value},
    interpretItems trailing items = .ok read → ∀ part ∈ partsItems read, part.Read
  | [], _, h => by
    cases h
    exact List.forall_mem_nil _
  | item :: rest, _, h => by
    obtain ⟨first, hfirst, h⟩ := bind_eq_ok_iff.1 h
    obtain ⟨others, hothers, h⟩ := bind_eq_ok_iff.1 h
    cases h
    rw [partsItems, List.forall_mem_append]
    exact ⟨settled_of_interpret item hfirst, read_of_interpretItems rest hothers⟩

theorem settled_of_mem : ∀ (fields : List (String × Value)), ∀ field ∈ fields, ∀ {read : Value},
    interpret trailing field.2 = .ok read → read.Settled
  | [], _, hmem, _, _ => nomatch hmem
  | (_, value) :: rest, field, hmem, _, h => by
    rcases List.mem_cons.1 hmem with rfl | hmem
    · exact settled_of_interpret value h
    · exact settled_of_mem rest field hmem h

end

/-! ## Settled values, written and read

  The two halves of rereading: writing does nothing, and reading moves late dates. -/

mutual

/-- Writing does nothing to a settled value. -/
theorem condense_of_settled : ∀ value : Value, value.Settled → condense value = value
  | .array items, h => by
    rw [condense, condenseItems_of_read items (settled_array.1 h)]
  | .document fields, h => by
    obtain ⟨hkeys, hparts⟩ := settled_document.1 h
    rw [condense, condenseFields_of_read fields hparts, whole_of_untagged hkeys]
  | .codeWithScope _ scope, h => by
    obtain ⟨hkeys, hparts⟩ := settled_document.1 (settled_codeWithScope.1 h)
    rw [condense, condenseFields_of_read scope hparts, whole_of_untagged hkeys]
    rfl
  | .regex _ _, h => congrArg _ (settled_regex.1 h)
  | .null, _ | .bool _, _ | .int32 _, _ | .int64 _, _ | .double _, _ | .dateTime _, _ | .string _, _
  | .objectId _, _ | .undefined, _ | .minKey, _ | .maxKey, _ | .timestamp _ _, _ | .binary _ _, _
  | .symbol _, _ | .code _, _ | .decimal _, _ | .pointer _ _, _ => rfl

theorem condenseItems_of_read : ∀ items : List Value, (∀ part ∈ partsItems items, part.Read) →
    condenseItems items = items
  | [], _ => rfl
  | item :: rest, h => by
    rw [partsItems, List.forall_mem_append] at h
    rw [condenseItems, condense_of_settled item h.1, condenseItems_of_read rest h.2]

theorem condenseFields_of_read : ∀ fields : List (String × Value),
    (∀ part ∈ partsFields fields, part.Read) → condenseFields fields = fields
  | [], _ => rfl
  | (_, value) :: rest, h => by
    rw [partsFields, List.forall_mem_append] at h
    rw [condenseFields, condense_of_settled value h.1, condenseFields_of_read rest h.2]

end

mutual

/-- Reading does nothing to a settled value but bringing its dates into the calendar. -/
theorem interpret_of_settled : ∀ value : Value, value.Settled →
    interpret trailing value = .ok value.inCalendar
  | .array items, h => by
    rw [interpret, interpretItems_of_read items (settled_array.1 h)]
    rfl
  | .document fields, h => by
    rw [interpret, interpretFields_of_read fields (settled_document.1 h)]
    rfl
  | .codeWithScope _ scope, h => by
    rw [interpret, interpretFields_of_read scope (settled_document.1 (settled_codeWithScope.1 h))]
    rfl
  | .regex _ _, h => congrArg (Except.ok ∘ Value.regex _) (settled_regex.1 h)
  | .null, _ | .bool _, _ | .int32 _, _ | .int64 _, _ | .double _, _ | .dateTime _, _ | .string _, _
  | .objectId _, _ | .undefined, _ | .minKey, _ | .maxKey, _ | .timestamp _ _, _ | .binary _ _, _
  | .symbol _, _ | .code _, _ | .decimal _, _ | .pointer _ _, _ => rfl

theorem interpretItems_of_read : ∀ items : List Value, (∀ part ∈ partsItems items, part.Read) →
    interpretItems trailing items = .ok (inCalendarItems items)
  | [], _ => rfl
  | item :: rest, h => by
    rw [partsItems, List.forall_mem_append] at h
    rw [interpretItems, interpret_of_settled item h.1, interpretItems_of_read rest h.2]
    rfl

theorem interpretFields_of_read : ∀ fields : List (String × Value),
    (∀ field ∈ fields, Tag.ofKey? field.1 = none) ∧ (∀ part ∈ partsFields fields, part.Read) →
      interpretFields trailing fields = .ok (.ordinary (inCalendarFields fields))
  | [], _ => rfl
  | (_, value) :: rest, ⟨hkeys, hparts⟩ => by
    rw [List.forall_mem_cons] at hkeys
    rw [partsFields, List.forall_mem_append] at hparts
    rw [interpretFields, interpret_of_settled value hparts.1,
      interpretFields_of_read rest ⟨hkeys.2, hparts.2⟩]
    · rfl
    · exact hkeys.1

end

end Extended

/-- A settled literal comes back with its dates brought into the calendar. -/
theorem Value.reread_of_settled {literal : Value} (h : literal.Settled) :
    literal.reread = .ok literal.inCalendar := by
  rw [reread, Extended.condense_of_settled literal h, Extended.interpret_of_settled literal h]

/-! ## Predicates

  All literals of a predicate that was read are settled, because each was read by itself. -/

namespace Expr

mutual

/-- The predicate with all dates in its literals brought into the calendar. -/
def inCalendar : Expr → Expr
  | .and exprs => .and (inCalendarItems exprs)
  | .or exprs => .or (inCalendarItems exprs)
  | .field name op literal => .field name op literal.inCalendar

def inCalendarItems : List Expr → List Expr
  | [] => []
  | e :: rest => e.inCalendar :: inCalendarItems rest

end

mutual

/-- So does a predicate over settled literals. -/
theorem reread_of_settled : ∀ e : Expr, (∀ literal ∈ e.literals, literal.Settled) →
    e.reread = .ok e.inCalendar
  | .and exprs, h => by
    rw [reread, rereadItems_of_settled exprs h]
    rfl
  | .or exprs, h => by
    rw [reread, rereadItems_of_settled exprs h]
    rfl
  | .field _ _ literal, h => by
    rw [reread, Value.reread_of_settled (List.forall_mem_singleton.1 h)]
    rfl

theorem rereadItems_of_settled : ∀ exprs : List Expr,
    (∀ literal ∈ literalsOfItems exprs, literal.Settled) →
      rereadItems exprs = .ok (inCalendarItems exprs)
  | [], _ => rfl
  | e :: rest, h => by
    rw [literalsOfItems, List.forall_mem_append] at h
    rw [rereadItems, reread_of_settled e h.1, rereadItems_of_settled rest h.2]
    rfl

end

/-- The literal of a comparison that was read is settled. -/
theorem settled_of_comparisonOfStored {fields : Document} {e : Expr}
    (h : comparisonOfStored fields = .ok e) : ∀ literal ∈ e.literals, literal.Settled := by
  obtain ⟨_, -, h⟩ := bind_eq_ok_iff.1 h
  obtain ⟨name, -, h⟩ := bind_eq_ok_iff.1 h
  obtain ⟨_, -, h⟩ := bind_eq_ok_iff.1 h
  obtain ⟨word, -, h⟩ := bind_eq_ok_iff.1 h
  split at h
  · -- The operator is known, so the literal was read.
    obtain ⟨value, -, h⟩ := bind_eq_ok_iff.1 h
    obtain ⟨literal, hliteral, h⟩ := bind_eq_ok_iff.1 h
    cases h
    exact List.forall_mem_singleton.2 (Extended.settled_of_interpret value hliteral)
  · cases h

/-- The literals of a predicate that was read are settled. -/
theorem settled_of_ofStored (stored : Value) : ∀ {e : Expr}, ofStored stored = .ok e →
    ∀ literal ∈ e.literals, literal.Settled := by
  -- Reading refuses whatever is none of the three forms, so the other cases give nothing.
  refine ofStored.induct
    (fun stored => ∀ {e}, ofStored stored = .ok e → ∀ literal ∈ e.literals, literal.Settled)
    (fun items => ∀ {exprs}, ofStoredItems items = .ok exprs →
      ∀ literal ∈ literalsOfItems exprs, literal.Settled)
    ?conjunction ?disjunction ?comparison ?other ?nil ?cons stored
  case conjunction =>
    intro items ih _ h
    obtain ⟨exprs, hexprs, h⟩ := bind_eq_ok_iff.1 h
    cases h
    exact ih hexprs
  case disjunction =>
    intro items ih _ h
    obtain ⟨exprs, hexprs, h⟩ := bind_eq_ok_iff.1 h
    cases h
    exact ih hexprs
  case comparison =>
    intro fields _ h
    exact settled_of_comparisonOfStored h
  case other =>
    intro stored hand hor hfield _ h
    rw [ofStored] at h
    · cases h
    · exact hand
    · exact hor
    · exact hfield
  case nil =>
    intro _ h
    cases h
    exact List.forall_mem_nil _
  case cons =>
    intro item rest ih ihrest _ h
    obtain ⟨first, hfirst, h⟩ := bind_eq_ok_iff.1 h
    obtain ⟨others, hothers, h⟩ := bind_eq_ok_iff.1 h
    cases h
    rw [literalsOfItems, List.forall_mem_append]
    exact ⟨ih hfirst, ihrest hothers⟩

end Expr

/-! ## Definitions -/

namespace Definition

/-- The definition with all dates in its literals brought into the calendar. -/
def inCalendar (view : Definition) : Definition :=
  ⟨view.predicate.inCalendar, view.projection⟩

/-- Written as an array or as a document, a definition holds its predicate in stored form. -/
theorem exists_of_ofStored {stored : Value} {view : Definition} (h : ofStored stored = .ok view) :
    ∃ predicate, Expr.ofStored predicate = .ok view.predicate := by
  -- Both forms end in reading the two parts.
  have ofParts : ∀ {predicate projection : Value}, ofParts predicate projection = .ok view →
      ∃ predicate, Expr.ofStored predicate = .ok view.predicate := by
    intro predicate projection h
    obtain ⟨e, he, h⟩ := bind_eq_ok_iff.1 h
    obtain ⟨_, -, h⟩ := bind_eq_ok_iff.1 h
    cases h
    exact ⟨predicate, he⟩
  unfold ofStored at h
  split at h
  · obtain ⟨_, -, h⟩ := bind_eq_ok_iff.1 h
    obtain ⟨_, -, h⟩ := bind_eq_ok_iff.1 h
    exact ofParts h
  · exact ofParts h
  · cases h

/-- The literals of a definition that was read from a design document are settled. -/
theorem settled_of_ofDesign {design : Document} {name : String} {view : Definition}
    (h : ofDesign design name = .ok view) :
    ∀ literal ∈ view.predicate.literals, literal.Settled := by
  unfold ofDesign at h
  split at h
  · rename_i stored _
    cases hstored : ofStored stored with
    | error e =>
      rw [hstored] at h
      cases h
    | ok read =>
      rw [hstored] at h
      cases h
      obtain ⟨predicate, hpredicate⟩ := exists_of_ofStored hstored
      exact Expr.settled_of_ofStored predicate hpredicate
  · cases h

/-- A definition with settled literals comes back with its dates brought into the calendar. -/
theorem ofDesign_toDesign_of_settled {view : Definition}
    (h : ∀ literal ∈ view.predicate.literals, literal.Settled) (name : String) :
    ofDesign (view.toDesign name) name = .ok view.inCalendar := by
  rw [ofDesign_toDesign, Expr.reread_of_settled view.predicate h]
  rfl

end Definition

/-- **A definition that was read is stable up to the calendar.**  Whatever a design document holds,
    a definition that is read from it, written under any name and read again, comes back as it was
    but for its dates: each of them is brought into the calendar.  So it comes back exactly as it
    was if and only if no date at any depth of its literals lies behind the calendar's last one. -/
theorem read_definition_is_stable {design : Document} {name : String} {view : Definition}
    (h : Definition.ofDesign design name = .ok view) (other : String) :
    Definition.ofDesign (view.toDesign other) other = .ok view.inCalendar ∧
    (Definition.ofDesign (view.toDesign other) other = .ok view ↔
      ∀ literal ∈ view.predicate.literals, ∀ part ∈ literal.parts, part.Timely) := by
  have hsettled := Definition.settled_of_ofDesign h
  refine ⟨Definition.ofDesign_toDesign_of_settled hsettled other, ?_⟩
  rw [Definition.ofDesign_toDesign_eq_iff]
  constructor
  · intro hdurable literal hliteral
    exact (Value.durable_iff.1 (hdurable literal hliteral)).2
  · intro htimely literal hliteral
    exact Value.durable_iff.2 ⟨hsettled literal hliteral, htimely literal hliteral⟩

/-- A design document that compares one field with this, as written by hand: the definition is an
    array and its keys stand in another order. -/
def designComparingWith (literal : Value) : Document :=
  [("views", .document [("v", .document [("map", .array
    [.document [("field",
      .document [("value", literal), ("op", .string "eq"), ("field", .string "x")])],
    .string "all"])])])]

/-- Tagged documents inside an array, with the calendar's last date among them. -/
def taggedItems : Value :=
  .array [.document [("$symbol", .string "s")],
    .document [("$undefined", .bool true), ("unit", .null)],
    .document [("$date", .int64 253402300799999)]]

/-- They are read as values, and these are stable under any name. -/
theorem tagged_items_are_stable :
    Definition.ofDesign (designComparingWith taggedItems) "v" =
      .ok (comparingWith (.array [.symbol "s", .undefined, .dateTime 253402300799999])) ∧
    Definition.ofDesign ((comparingWith (.array [.symbol "s", .undefined,
        .dateTime 253402300799999])).toDesign "w") "w" =
      .ok (comparingWith (.array [.symbol "s", .undefined, .dateTime 253402300799999])) := by
  have hread : Definition.ofDesign (designComparingWith taggedItems) "v" =
      .ok (comparingWith (.array [.symbol "s", .undefined, .dateTime 253402300799999])) := rfl
  exact ⟨hread, (read_definition_is_stable hread "w").1⟩

/-- The moment behind the calendar's last one, under a tag. -/
def taggedAfterCalendar : Value :=
  .document [("$date", .int64 253402300800000)]

/-- It is read as a date that is not stable: the calendar's last one comes back. -/
theorem late_date_is_not_stable :
    Definition.ofDesign (designComparingWith taggedAfterCalendar) "v" =
      .ok (comparingWith afterCalendar) ∧
    Definition.ofDesign ((comparingWith afterCalendar).toDesign "v") "v" =
      .ok (comparingWith (.dateTime 253402300799999)) ∧
    comparingWith (.dateTime 253402300799999) ≠ comparingWith afterCalendar := by
  -- Both readings are computed; that the dates differ is read off the definitions.
  refine ⟨rfl, rfl, fun hsame => ?_⟩
  have hliteral := (Expr.field.inj (Definition.mk.inj hsame).1).2.2
  exact absurd (Value.dateTime.inj hliteral) (by decide)

end DocStore
