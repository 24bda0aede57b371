/-
  Which names of stored views there are.

  Reading a name takes the namespace of design documents off the front, if it stands there as it is
  written, and then wants exactly one slash with something on either side (`ofText?_eq_some_iff`).
  The part in front of the slash is lower-cased, and that leaves it a part: it does not become
  empty and gets no slash.  So a name that was read is one that is read again as itself
  (`view_name_grammar`).

  Design documents are filed under their identifier in lower case, whatever case it was given in,
  the namespace included.  `ofText?_of_namespace` and `ofText?_of_other_case` say what the name of a
  view is read as that begins with such an identifier as it was given.
-/
import DocStore.Identity
import DocStore.Proofs.Text.Lowered
import DocStore.View.Name
import Mathlib.Data.List.Basic

namespace DocStore

/-- A name without the namespace of design documents in front, if it stands there. -/
def withoutNamespace (name : List Char) : List Char :=
  if designNamespace.toList <+: name then name.drop designNamespace.length else name

theorem withoutNamespace_append (rest : List Char) :
    withoutNamespace (designNamespace.toList ++ rest) = rest := by
  rw [withoutNamespace, if_pos (List.prefix_append _ _)]
  exact List.drop_left

/-! ## Reading a name -/

namespace ViewName

variable {name : String} {view : ViewName}

/-- Reading a name takes it off if it is there. -/
theorem rest_eq_withoutNamespace (name : List Char) :
    (Text.dropStart? designNamespace.toList name).getD name = withoutNamespace name := by
  cases h : Text.dropStart? designNamespace.toList name with
  | some rest =>
    rw [Text.dropStart?_eq_some_iff.1 h, withoutNamespace_append]
    rfl
  | none =>
    refine (if_neg ?_).symm
    rintro ⟨rest, hrest⟩
    rw [Text.dropStart?_eq_some_iff.2 hrest.symm] at h
    cases h

/-- A name is read exactly if one slash, with something on both sides, is left without the
    namespace. -/
theorem ofText?_eq_some_iff :
    ofText? name = some view ↔ ∃ design own : List Char,
      withoutNamespace name.toList = design ++ '/' :: own ∧ '/' ∉ design ∧ '/' ∉ own ∧
        design ≠ [] ∧ own ≠ [] ∧
        view = ⟨Text.lowerCase (String.ofList design), String.ofList own⟩ := by
  unfold ofText?
  dsimp only
  rw [rest_eq_withoutNamespace]
  constructor
  · intro h
    split at h
    · -- Two pieces are what one slash leaves, and neither may be empty.
      rename_i design own hpieces
      obtain ⟨hrest, hdesign, hown⟩ := Text.pieces_eq_pair_iff.1 hpieces
      split at h
      · cases h
      · rename_i hfull
        rw [Bool.or_eq_true, List.isEmpty_iff, List.isEmpty_iff, not_or] at hfull
        exact ⟨design, own, hrest, hdesign, hown, hfull.1, hfull.2, (Option.some.inj h).symm⟩
    · cases h
  · rintro ⟨design, own, hrest, hdesign, hown, hfirst, hsecond, rfl⟩
    rw [Text.pieces_eq_pair_iff.2 ⟨hrest, hdesign, hown⟩]
    have hfull : ¬ (design.isEmpty || own.isEmpty) = true := by
      rw [Bool.or_eq_true, List.isEmpty_iff, List.isEmpty_iff, not_or]
      exact ⟨hfirst, hsecond⟩
    exact if_neg hfull

/-- One slash that stands at neither end has something on either side. -/
theorem one_inner_slash_iff {cs : List Char} :
    (cs.count '/' = 1 ∧ cs.head? ≠ some '/' ∧ cs.getLast? ≠ some '/') ↔
      ∃ design own, cs = design ++ '/' :: own ∧ '/' ∉ design ∧ '/' ∉ own ∧
        design ≠ [] ∧ own ≠ [] := by
  constructor
  · rintro ⟨hcount, hhead, hlast⟩
    -- Cut at the first slash.  As there is one only, none is left behind it.
    have hmem : '/' ∈ cs := List.count_pos_iff.1 (by omega)
    obtain ⟨design, own, rfl, hdesign⟩ := List.eq_append_cons_of_mem hmem
    rw [List.count_append, List.count_cons_self, List.count_eq_zero_of_not_mem hdesign] at hcount
    have hown : '/' ∉ own := List.count_eq_zero.1 (by omega)
    refine ⟨design, own, rfl, hdesign, hown, ?_, ?_⟩
    · rintro rfl
      exact hhead rfl
    · rintro rfl
      exact hlast List.getLast?_concat
  · rintro ⟨design, own, rfl, hdesign, hown, hfirst, hsecond⟩
    -- One slash, not in front and not at the end, since both parts have something in them.
    refine ⟨?_, ?_, ?_⟩
    · rw [List.count_append, List.count_cons_self, List.count_eq_zero_of_not_mem hdesign,
        List.count_eq_zero_of_not_mem hown]
    · obtain ⟨d, rest, rfl⟩ := List.exists_cons_of_ne_nil hfirst
      intro h
      rw [Option.some.inj h] at hdesign
      exact hdesign List.mem_cons_self
    · obtain rfl | ⟨rest, c, rfl⟩ := List.eq_nil_or_concat' own
      · exact absurd rfl hsecond
      · rw [← List.cons_append, ← List.append_assoc, List.getLast?_concat]
        intro h
        rw [Option.some.inj h] at hown
        exact hown (List.mem_append_right _ List.mem_cons_self)

/-- The parts of a name that was read. -/
structure WellFormed (view : ViewName) : Prop where
  design_ne : view.design ≠ ""
  own_ne : view.view ≠ ""
  design_whole : '/' ∉ view.design.toList
  own_whole : '/' ∉ view.view.toList
  lower : Text.lowerCase view.design = view.design

theorem wellFormed_of_ofText? (h : ofText? name = some view) : view.WellFormed := by
  obtain ⟨design, own, -, hdesign, hown, hfirst, hsecond, rfl⟩ := ofText?_eq_some_iff.1 h
  refine ⟨?_, ?_, ?_, ?_, Text.lowerCase_lowerCase _⟩
  · intro hempty
    have hnil := congrArg String.toList hempty
    rw [Text.lowerCase, String.toList_ofList, String.toList_ofList] at hnil
    exact hfirst (Text.lowerFrom_eq_nil_iff.1 hnil)
  · intro hempty
    exact hsecond ((String.toList_ofList).symm.trans (congrArg String.toList hempty))
  · rw [Text.lowerCase, String.toList_ofList, String.toList_ofList]
    exact fun hmem => hdesign (Text.slash_mem_lowerFrom hmem)
  · rwa [String.toList_ofList]

/-- A well-formed name is read as what it is, with the namespace in front. -/
theorem WellFormed.ofText?_render (h : view.WellFormed) :
    ofText? (view.designId ++ "/" ++ view.view) = some view := by
  have htext : (view.designId ++ "/" ++ view.view).toList =
      designNamespace.toList ++ (view.design.toList ++ '/' :: view.view.toList) := by
    rw [String.toList_append, String.toList_append, designId, String.toList_append,
      List.append_assoc, List.append_assoc]
    rfl
  refine ofText?_eq_some_iff.2 ⟨view.design.toList, view.view.toList, ?_, h.design_whole,
    h.own_whole, fun hnil => h.design_ne (String.toList_eq_nil_iff.1 hnil),
    fun hnil => h.own_ne (String.toList_eq_nil_iff.1 hnil), ?_⟩
  · rw [htext, withoutNamespace_append]
  · rw [String.ofList_toList, String.ofList_toList, h.lower]

end ViewName

/-- **Which names of stored views there are, and what they are read as.**  Take the namespace of
    design documents off the front of a text, once and only if it stands there.  The text is the
    name of a view exactly if what is left has one slash, and that at neither end.  The design part
    of the name is then what stands in front of the slash, in lower case, and its own part is what
    stands behind it as it is.  Neither part is empty or has a slash, and the identifier of the
    design document, a slash and the own part are again a text that is read as this name. -/
theorem view_name_grammar (text : String) :
    let rest := withoutNamespace text.toList
    ((∃ name, ViewName.ofText? text = some name) ↔
      rest.count '/' = 1 ∧ rest.head? ≠ some '/' ∧ rest.getLast? ≠ some '/') ∧
    ∀ name, ViewName.ofText? text = some name →
      (∃ before behind, rest = before ++ '/' :: behind ∧
        name.design = Text.lowerCase (String.ofList before) ∧
        name.view = String.ofList behind) ∧
      name.design ≠ "" ∧ name.view ≠ "" ∧
      '/' ∉ name.design.toList ∧ '/' ∉ name.view.toList ∧
      ViewName.ofText? (name.designId ++ "/" ++ name.view) = some name := by
  intro rest
  constructor
  · rw [ViewName.one_inner_slash_iff]
    constructor
    · rintro ⟨name, hname⟩
      obtain ⟨design, own, hrest, hdesign, hown, hfirst, hsecond, -⟩ :=
        ViewName.ofText?_eq_some_iff.1 hname
      exact ⟨design, own, hrest, hdesign, hown, hfirst, hsecond⟩
    · rintro ⟨design, own, hrest, hdesign, hown, hfirst, hsecond⟩
      exact ⟨_, ViewName.ofText?_eq_some_iff.2
        ⟨design, own, hrest, hdesign, hown, hfirst, hsecond, rfl⟩⟩
  · intro name hname
    -- A name that was read is well formed, and well formed names read back.
    have hwf := ViewName.wellFormed_of_ofText? hname
    obtain ⟨design, own, hrest, -, -, -, -, rfl⟩ := ViewName.ofText?_eq_some_iff.1 hname
    exact ⟨⟨design, own, hrest, rfl, rfl⟩, hwf.design_ne, hwf.own_ne, hwf.design_whole,
      hwf.own_whole, hwf.ofText?_render⟩

/-- A name with the namespace and a capital is read, and what it is read as is read again. -/
theorem capital_report_is_read :
    ViewName.ofText? "_design/Reports/By_day" = some ⟨"reports", "By_day"⟩ ∧
    ViewName.ofText? "_design/reports/By_day" = some ⟨"reports", "By_day"⟩ := by
  have hread : ViewName.ofText? "_design/Reports/By_day" = some ⟨"reports", "By_day"⟩ := by decide
  obtain ⟨-, -, -, -, -, hagain⟩ := (view_name_grammar "_design/Reports/By_day").2 _ hread
  exact ⟨hread, hagain⟩

/-! ## Names that begin with the identifier of a design document -/

section

variable {id own : String}

/-- What stands behind as many characters as the namespace of design documents has. -/
def behindNamespace (id : String) : List Char :=
  id.toList.drop designNamespace.length

/-- An identifier that is filed in the namespace of design documents begins with it in some case. -/
theorem exists_namespace (h : isDesignId (Text.lowerCase id) = true) :
    ∃ start, id.toList = start ++ '/' :: behindNamespace id ∧
      Text.lowerFrom [] start ++ ['/'] = designNamespace.toList ∧
      start.length + 1 = designNamespace.length := by
  obtain ⟨rest, hrest⟩ := Text.startsWith_iff.1 h
  rw [Text.lowerCase, String.toList_ofList] at hrest
  have hmem : '/' ∈ Text.lowerFrom [] id.toList := by
    rw [← hrest]
    exact List.mem_append_left _ (by decide)
  obtain ⟨start, part, hid, hstart⟩ := List.eq_append_cons_of_mem (Text.slash_mem_lowerFrom hmem)
  rw [hid, Text.lowerFrom_append_slash] at hrest
  have hnamespace : designNamespace.toList = "_design".toList ++ ['/'] := by decide
  -- Both sides have their first slash behind the namespace.
  have hfirst : Text.lowerFrom [] start = "_design".toList := by
    have hwhole : '/' ∉ Text.lowerFrom [] start := mt Text.slash_mem_lowerFrom hstart
    have hpieces := Text.pieces_append_cons hwhole (Text.lowerFrom [] part)
    rw [← hrest, hnamespace, List.append_assoc, List.singleton_append,
      Text.pieces_append_cons (by decide)] at hpieces
    exact (List.cons.inj hpieces).1.symm
  have hlength : start.length = 7 := by
    rw [← Text.length_lowerFrom (by rw [hfirst]; decide), hfirst]
    decide
  have hprefix : (start ++ ['/']).length = designNamespace.length := by
    rw [List.length_append, hlength]
    decide
  have hbehind : behindNamespace id = part := by
    rw [behindNamespace, hid, List.append_cons, List.drop_left' hprefix]
  refine ⟨start, ?_, ?_, ?_⟩
  · rw [hbehind, hid]
  · rw [hfirst, hnamespace]
  · rw [← hprefix, List.length_append, List.length_singleton]

/-- Such an identifier is filed with the namespace and what stands behind it in lower case. -/
theorem filedUnder_of_design (h : isDesignId (Text.lowerCase id) = true) :
    filedUnder id = designNamespace ++ Text.lowerCase (String.ofList (behindNamespace id)) := by
  obtain ⟨start, hid, hstart, -⟩ := exists_namespace h
  rw [filedUnder, if_pos h, ← String.toList_inj, Text.lowerCase, Text.lowerCase,
    String.toList_append, String.toList_ofList, String.toList_ofList, String.toList_ofList, hid,
    Text.lowerFrom_append_slash, ← hstart, List.append_assoc]
  rfl

theorem toList_under (id own : String) :
    (id ++ "/" ++ own).toList = id.toList ++ '/' :: own.toList := by
  rw [String.toList_append, String.toList_append, List.append_assoc]
  rfl

/-- Behind an identifier that begins with the namespace as it is written, the name of a view is read
    as what is filed under that identifier. -/
theorem ofText?_of_namespace (h : Text.startsWith designNamespace id = true)
    (hpart : behindNamespace id ≠ []) (hwhole : '/' ∉ behindNamespace id) (hown : own ≠ "")
    (hownWhole : '/' ∉ own.toList) :
    ViewName.ofText? (id ++ "/" ++ own) =
      some ⟨Text.lowerCase (String.ofList (behindNamespace id)), own⟩ := by
  obtain ⟨part, hid⟩ := Text.startsWith_iff.1 h
  have hbehind : behindNamespace id = part := by
    rw [behindNamespace, ← hid]
    exact List.drop_left
  rw [hbehind] at hpart hwhole ⊢
  refine ViewName.ofText?_eq_some_iff.2 ⟨part, own.toList, ?_, hwhole, hownWhole, hpart,
    fun hnil => hown (String.toList_eq_nil_iff.1 hnil), ?_⟩
  · rw [toList_under, ← hid, List.append_assoc, withoutNamespace_append]
  · rw [String.ofList_toList]

/-- Behind an identifier that has the namespace in another case, there is a slash too many. -/
theorem ofText?_of_other_case (h : isDesignId (Text.lowerCase id) = true)
    (hcase : Text.startsWith designNamespace id = false) :
    ViewName.ofText? (id ++ "/" ++ own) = none := by
  obtain ⟨start, hid, -, hstart⟩ := exists_namespace h
  have hlength : designNamespace.toList.length ≤ id.toList.length := by
    rw [String.length_toList, ← hstart, hid, List.length_append, List.length_cons]
    omega
  -- The text does not begin with the namespace as it is written, so nothing is taken off.
  have hrest : withoutNamespace (id ++ "/" ++ own).toList = (id ++ "/" ++ own).toList := by
    refine if_neg fun hprefix => ?_
    rw [toList_under] at hprefix
    have hshort := List.prefix_of_prefix_length_le hprefix (List.prefix_append _ _) hlength
    rw [Text.startsWith_iff.2 hshort] at hcase
    cases hcase
  refine Option.eq_none_iff_forall_ne_some.2 fun view hview => ?_
  obtain ⟨design, rest, htext, hdesign, hwhole, -⟩ := ViewName.ofText?_eq_some_iff.1 hview
  -- A name that was read would have one slash, and this text has two.
  have hcount : (id ++ "/" ++ own).toList.count '/' = 1 := by
    rw [← hrest, htext, List.count_append, List.count_cons_self,
      List.count_eq_zero_of_not_mem hdesign, List.count_eq_zero_of_not_mem hwhole]
  rw [toList_under, hid, List.count_append, List.count_append, List.count_cons_self,
    List.count_cons_self] at hcount
  omega

end

end DocStore
