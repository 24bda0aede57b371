/-
  A projection is an exact restriction.

  What a list of fields leaves of a document can be told without following the list: identifier and
  revision, then the other listed fields in the order in which the list first names them, each once
  and each with the value that the document has for it.  `Entries.pick` says this in one line, and
  `Projection.apply_fields_eq` that a projection does nothing else.

  The invariant that carries it is `Projection.gather_eq`: what stands behind the fields that are
  kept already is picked by those names of the list that are not kept.  A name that the document
  lacks is not kept and comes up again when the list repeats it, but nothing is picked for it.

  Projections one after another restrict to the fields that both name
  (`Projection.apply_fields_apply`), because looking fields up in a restricted document is looking
  up fewer names in the document.
-/
import DocStore.Proofs.Find.Rows

namespace DocStore

/-- Leaving names out of a list keeps the order in which the others come up first. -/
theorem eraseDups_filter (p : String → Bool) :
    ∀ names : List String, (names.filter p).eraseDups = names.eraseDups.filter p
  | [] => rfl
  | name :: rest => by
    have ih := eraseDups_filter p (rest.filter fun other => !other == name)
    rw [List.filter_filter] at ih
    rw [List.eraseDups_cons]
    by_cases hp : p name = true
    · rw [List.filter_cons_of_pos hp, List.filter_cons_of_pos hp, List.eraseDups_cons, ← ih,
        List.filter_filter]
      simp only [Bool.and_comm]
    · rw [List.filter_cons_of_neg hp, List.filter_cons_of_neg hp, ← ih]
      -- The name is left out, so none of the others has to be told apart from it.
      refine congrArg List.eraseDups (List.filter_congr fun other _ => ?_)
      by_cases hsame : other = name
      · simp [hsame, hp]
      · simp [hsame]
termination_by names => names.length
decreasing_by exact Nat.lt_succ_of_le (List.length_filter_le _ _)

namespace Entries

variable {α : Type} {entries : Entries α} {name : String} {value : α}

/-- The entries under these names, in the order of the names. -/
def pick (entries : Entries α) (names : List String) : Entries α :=
  names.filterMap fun name => (entries.get? name).map fun value => (name, value)

theorem pick_cons_of_some (h : entries.get? name = some value) (rest : List String) :
    entries.pick (name :: rest) = (name, value) :: entries.pick rest := by
  rw [pick, List.filterMap_cons, h]
  rfl

theorem pick_cons_of_none (h : entries.get? name = none) (rest : List String) :
    entries.pick (name :: rest) = entries.pick rest := by
  rw [pick, List.filterMap_cons, h]
  rfl

/-- In restricted entries, fewer names are found. -/
theorem pick_of_restricted {restricted : Entries α} {p : String → Bool}
    (h : ∀ name, restricted.get? name = if p name = true then entries.get? name else none)
    (names : List String) : restricted.pick names = entries.pick (names.filter p) := by
  rw [pick, pick, List.filterMap_filter]
  refine congrArg (List.filterMap · names) (funext fun name => ?_)
  rw [h name]
  split <;> rfl

/-- Names under which nothing stands may as well not be asked for. -/
theorem pick_filter {p : String → Bool} (h : ∀ name, ¬ p name = true → entries.get? name = none)
    (names : List String) : entries.pick (names.filter p) = entries.pick names := by
  refine (pick_of_restricted (fun name => ?_) names).symm
  split
  · rfl
  · exact h name ‹_›

/-- The names that are not kept once one more is kept. -/
theorem filter_not_contains_insert (entries : Entries α) (name : String) (value : α)
    (names : List String) :
    (names.filter fun other => !(entries.insert name value).contains other) =
      (names.filter fun other => !entries.contains other).filter fun other => !other == name := by
  rw [List.filter_filter]
  refine List.filter_congr fun other _ => ?_
  by_cases hsame : other = name
  · simp [hsame, contains]
  · rw [contains, get?_insert_of_ne _ _ (Ne.symm hsame), ← contains]
    simp [hsame]

end Entries

namespace Projection

/-- Behind what is kept already, gathering puts what is picked by the names that are not kept. -/
theorem gather_eq (doc : Document) : ∀ (names : List String) (kept : Document),
    gather doc kept names =
      kept ++ doc.pick (names.filter fun name => !kept.contains name).eraseDups
  | [], kept => (List.append_nil kept).symm
  | name :: rest, kept => by
    rw [gather]
    split
    · rename_i hkept
      rw [gather_eq doc rest kept, List.filter_cons_of_neg]
      simpa using hkept
    · rename_i hnew
      have hnew : kept.contains name = false := Bool.not_eq_true _ ▸ hnew
      rw [List.filter_cons_of_pos (by simpa using hnew), List.eraseDups_cons]
      split
      · rename_i value hvalue
        -- The name is kept from here on, and that is all that the rest of the list sees.
        have hfree := Entries.contains_eq_false_iff.1 hnew
        rw [gather_eq doc rest _, Entries.filter_not_contains_insert, Entries.insert_of_new _ hfree,
          Entries.pick_cons_of_some hvalue, List.append_assoc]
        rfl
      · rename_i hnone
        rw [gather_eq doc rest kept, Entries.pick_cons_of_none hnone,
          eraseDups_filter fun other => !other == name, Entries.pick_filter]
        intro other hother
        have hsame : other = name := by simpa using hother
        rw [hsame, hnone]

/-- The names of a list that ask for more than is left in any case. -/
def asked (names : List String) : List String :=
  (names.filter fun name => decide (name ≠ Field.id ∧ name ≠ Field.revision)).eraseDups

/-- A projection leaves what is picked by identifier, revision and the names of its list. -/
theorem apply_fields_eq (names : List String) (doc : Document) :
    (Projection.fields names).apply doc =
      doc.pick (Field.id :: Field.revision :: asked names) := by
  have hall : ∀ list : List String,
      (list.filter fun name => !Entries.contains ([] : Document) name) = list :=
    fun list => List.filter_eq_self.2 fun _ _ => rfl
  have hbeside : ((Field.revision :: names).filter fun name => !name == Field.id) =
      Field.revision :: names.filter fun name => !name == Field.id :=
    List.filter_cons_of_pos (by decide)
  rw [apply, gather_eq, List.nil_append, hall, List.eraseDups_cons, hbeside, List.eraseDups_cons,
    List.filter_filter, asked]
  refine congrArg (fun list => doc.pick (_ :: _ :: List.eraseDups list)) ?_
  exact List.filter_congr fun name _ => Bool.eq_iff_iff.2 (by simp [and_comm])

/-- A list of fields after another leaves what is named by both. -/
theorem apply_fields_apply (names others : List String) (doc : Document) :
    (Projection.fields others).apply ((Projection.fields names).apply doc) =
      (Projection.fields (others.filter fun name => decide (name ∈ names))).apply doc := by
  -- What the first projection has kept is a set of names; the second one picks from it.
  let kept : String → Bool :=
    fun name => decide (name = Field.id ∨ name = Field.revision ∨ name ∈ names)
  have hkept : ∀ name, ((Projection.fields names).apply doc).get? name =
      if kept name = true then doc.get? name else none := by
    intro name
    simpa [kept] using get?_apply_fields names doc name
  -- Identifier and revision are asked for in any case, so filtering leaves them where they are.
  have hasked : (asked others).filter kept =
      asked (others.filter fun name => decide (name ∈ names)) := by
    rw [asked, asked, ← eraseDups_filter, List.filter_filter, List.filter_filter]
    refine congrArg List.eraseDups (List.filter_congr fun name _ => ?_)
    by_cases hid : name = Field.id <;> by_cases hrevision : name = Field.revision <;>
      simp [kept, hid, hrevision]
  rw [apply_fields_eq, Entries.pick_of_restricted hkept, apply_fields_eq,
    List.filter_cons_of_pos (by simp [kept]), List.filter_cons_of_pos (by simp [kept]), hasked]

end Projection

/-- **A projection is an exact restriction, and restrictions compose.**  For every document and
    every list of fields, whatever it repeats, misses or names beside:
    what the projection leaves begins with identifier and revision, as far as the document has them;
    behind them stand the other listed fields that it has, each once, in the order in which the list
    first names them and with the values of the document;
    projecting what is left a second time changes nothing;
    and projecting it by another list leaves what the fields of that list leave that are in both. -/
theorem projection_is_exact_restriction (doc : Document) (select : List String) :
    let project := fun names => (Projection.ofSelect (some names)).apply
    project select doc = doc.pick (Field.id :: Field.revision ::
      (select.filter fun name => decide (name ≠ Field.id ∧ name ≠ Field.revision)).eraseDups) ∧
    project select (project select doc) = project select doc ∧
    ∀ others, project others (project select doc) =
      project (others.filter fun name => decide (name ∈ select)) doc := by
  intro project
  have composes : ∀ others, project others (project select doc) =
      project (others.filter fun name => decide (name ∈ select)) doc :=
    fun others => Projection.apply_fields_apply select others doc
  have hself : (select.filter fun name => decide (name ∈ select)) = select :=
    List.filter_eq_self.2 fun name hname => decide_eq_true hname
  refine ⟨Projection.apply_fields_eq select doc, ?_, composes⟩
  rw [composes select, hself]

/-- A list that repeats a field, misses one and names the revision. -/
example : (Projection.fields ["n", "_rev", "missing", "n", "t"]).apply
    [("t", .int32 1), ("_rev", .string "1-x"), ("n", .int32 2), ("_id", .string "a")] =
      [("_id", .string "a"), ("_rev", .string "1-x"), ("n", .int32 2), ("t", .int32 1)] := by
  decide

end DocStore
