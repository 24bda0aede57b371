/-
  Cutting text at a separator.

  `pieces sep` gives what stands between the separators, empty pieces included, so a text without
  the separator is one piece and there is always one piece more than there are separators.
-/

namespace DocStore.Text

/-- What stands between the separators. -/
def pieces (sep : Char) : List Char → List (List Char)
  | [] => [[]]
  | c :: rest =>
      if c = sep then [] :: pieces sep rest
      else match pieces sep rest with
        | [] => [[c]]
        | piece :: more => (c :: piece) :: more

/-- The pieces of a text as texts. -/
def split (sep : Char) (text : String) : List String :=
  (pieces sep text.toList).map String.ofList

/-- The rest of a text behind `start`, if it begins with it. -/
def dropStart? : List Char → List Char → Option (List Char)
  | [], rest => some rest
  | _ :: _, [] => none
  | c :: start, d :: rest => if c = d then dropStart? start rest else none

/-- Whether a text begins with `start`. -/
def startsWith (start text : String) : Bool :=
  (dropStart? start.toList text.toList).isSome

/-- There is always a piece, an empty one if need be. -/
theorem pieces_ne_nil (sep : Char) (cs : List Char) : pieces sep cs ≠ [] := by
  cases cs with
  | nil => simp [pieces]
  | cons c rest =>
    by_cases h : c = sep
    · simp [pieces, h]
    · simp only [pieces, h, if_false]
      split <;> simp

/-- A text that is one piece is that piece. -/
theorem eq_of_pieces_eq_singleton {sep : Char} {cs piece : List Char}
    (h : pieces sep cs = [piece]) : piece = cs := by
  induction cs generalizing piece with
  | nil =>
    cases h
    rfl
  | cons c rest ih =>
    by_cases hc : c = sep
    · rw [pieces, if_pos hc] at h
      exact absurd (List.cons.inj h).2 (pieces_ne_nil sep rest)
    · rw [pieces, if_neg hc] at h
      cases hrest : pieces sep rest with
      | nil => exact absurd hrest (pieces_ne_nil sep rest)
      | cons first more =>
        rw [hrest] at h
        obtain ⟨rfl, rfl⟩ := List.cons.inj h
        rw [ih hrest]

/-- Without a separator nothing is cut. -/
theorem pieces_of_not_mem {sep : Char} {cs : List Char} (h : sep ∉ cs) : pieces sep cs = [cs] := by
  induction cs with
  | nil => rfl
  | cons c rest ih =>
    have hc : c ≠ sep := (List.ne_of_not_mem_cons h).symm
    rw [pieces, if_neg hc, ih (List.not_mem_of_not_mem_cons h)]

/-- The first separator ends the first piece. -/
theorem pieces_append_cons {sep : Char} {xs : List Char} (h : sep ∉ xs) (ys : List Char) :
    pieces sep (xs ++ sep :: ys) = xs :: pieces sep ys := by
  induction xs with
  | nil => rw [List.nil_append, pieces, if_pos rfl]
  | cons x xs ih =>
    have hx : x ≠ sep := (List.ne_of_not_mem_cons h).symm
    rw [List.cons_append, pieces, if_neg hx, ih (List.not_mem_of_not_mem_cons h)]

/-- One piece is left exactly where nothing was cut, and then it is all. -/
theorem pieces_eq_singleton_iff {sep : Char} {cs piece : List Char} :
    pieces sep cs = [piece] ↔ piece = cs ∧ sep ∉ cs := by
  constructor
  · intro h
    refine ⟨eq_of_pieces_eq_singleton h, fun hmem => ?_⟩
    obtain ⟨xs, ys, rfl, hxs⟩ := List.eq_append_cons_of_mem hmem
    rw [pieces_append_cons hxs] at h
    exact absurd (List.cons.inj h).2 (pieces_ne_nil sep ys)
  · rintro ⟨rfl, h⟩
    exact pieces_of_not_mem h

/-- There are two pieces exactly if there is one separator. -/
theorem pieces_eq_pair_iff {sep : Char} {cs first second : List Char} :
    pieces sep cs = [first, second] ↔
      cs = first ++ sep :: second ∧ sep ∉ first ∧ sep ∉ second := by
  constructor
  · intro h
    by_cases hmem : sep ∈ cs
    · obtain ⟨xs, ys, rfl, hxs⟩ := List.eq_append_cons_of_mem hmem
      rw [pieces_append_cons hxs] at h
      obtain ⟨rfl, hys⟩ := List.cons.inj h
      obtain ⟨rfl, hsecond⟩ := pieces_eq_singleton_iff.1 hys
      exact ⟨rfl, hxs, hsecond⟩
    · rw [pieces_of_not_mem hmem] at h
      cases h
  · rintro ⟨rfl, hfirst, hsecond⟩
    rw [pieces_append_cons hfirst, pieces_of_not_mem hsecond]

/-- The same for strings. -/
theorem eq_of_split_eq_singleton {sep : Char} {text piece : String}
    (h : split sep text = [piece]) : piece = text := by
  obtain ⟨chars, hchars, hpiece⟩ := List.map_eq_singleton_iff.1 h
  rw [← hpiece, eq_of_pieces_eq_singleton hchars, String.ofList_toList]

/-- There is always a piece, if an empty one. -/
theorem split_ne_nil (sep : Char) (text : String) : split sep text ≠ [] := by
  intro h
  exact pieces_ne_nil sep text.toList (List.map_eq_nil_iff.1 h)

/-- A text is what stands in front of it followed by the rest. -/
theorem dropStart?_eq_some_iff {start cs rest : List Char} :
    dropStart? start cs = some rest ↔ cs = start ++ rest := by
  induction start generalizing cs with
  | nil => simp [dropStart?, eq_comm]
  | cons c start ih =>
    cases cs with
    | nil => simp [dropStart?]
    | cons d cs =>
      by_cases h : c = d
      · subst h; simp [dropStart?, ih]
      · simp [dropStart?, h, Ne.symm h]

/-- Starting with a text is having its characters as a prefix. -/
theorem startsWith_iff {start text : String} :
    startsWith start text = true ↔ start.toList <+: text.toList := by
  rw [startsWith, Option.isSome_iff_exists]
  constructor
  · rintro ⟨rest, h⟩
    exact ⟨rest, (dropStart?_eq_some_iff.1 h).symm⟩
  · rintro ⟨rest, h⟩
    exact ⟨rest, dropStart?_eq_some_iff.2 h.symm⟩

end DocStore.Text
