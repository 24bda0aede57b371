/-
  Text in lower case.

  Two laws are proved here.  Lower-casing a text that is in lower case changes nothing
  (`lowerCase_lowerCase`), and what stands between two slashes is lower-cased as if it stood alone
  (`lowerFrom_append_slash`).

  The crux of the first is a fact about the table: no image of one of its runs lies in a run again.
  `CaseSpan.misses` decides this from the ends and the steps of two runs, so that no character has
  to be looked at by itself.  The crux of the second is that the only letter that sees its
  neighbours, the capital sigma, does not see past a slash, for a slash is no letter and is not
  ignorable.
-/
import DocStore.Text.LowerCase
import DocStore.Text.Pieces

namespace DocStore.Text

/-! ## The table

  Characters are not looked at one by one.  What the ends and steps of two runs decide is proved of
  all their characters, and the ends and steps are few enough to be computed with. -/

namespace CaseSpan

variable {span other : CaseSpan} {c n : Nat}

/-- The image of the last character of the run. -/
def lastImage (span : CaseSpan) : Nat :=
  span.image + (span.last - span.first)

/-- No image of a run lies in the other run: it lies behind it or in front of it as a whole, or
    both have every second character only and the images are the ones in between. -/
def misses (span other : CaseSpan) : Bool :=
  Nat.blt other.last span.image || Nat.blt span.lastImage other.first ||
    (other.step == 2 && (span.step == 2 || span.first == span.last) &&
      (span.image + other.first) % 2 == 1)

/-- The images of a run are characters, and neither a slash nor `İ` is one of them. -/
def sound (span : CaseSpan) : Bool :=
  (Nat.blt span.lastImage 0xD800 ||
    Nat.blt 0xDFFF span.image && Nat.blt span.lastImage 0x110000) &&
  Nat.blt '/'.toNat span.image &&
  (Nat.blt span.lastImage 'İ'.toNat || Nat.blt 'İ'.toNat span.image)

/-- A run maps its characters, in its steps, to as many places behind the first image. -/
theorem image?_eq_some_iff : span.image? c = some n ↔
    (span.first ≤ c ∧ c ≤ span.last ∧ (c - span.first) % span.step = 0) ∧
      n = span.image + (c - span.first) := by
  unfold image?
  split <;> simp_all [eq_comm]

/-- What the ends and steps of two runs decide is true of all their characters. -/
theorem image?_eq_none_of_misses (h : span.misses other = true) (himage : span.image? c = some n) :
    other.image? n = none := by
  obtain ⟨⟨hfirst, hlast, hstep⟩, rfl⟩ := image?_eq_some_iff.1 himage
  refine if_neg ?_
  rintro ⟨hfirst', hlast', hstep'⟩
  simp only [misses, lastImage, Bool.or_eq_true, Bool.and_eq_true, Nat.blt_eq, beq_iff_eq] at h
  -- The images lie behind the other run, in front of it, or between its characters.
  rcases h with (hbehind | hfront) | ⟨⟨hother, hspan | hspan⟩, hbetween⟩
  · omega
  · omega
  · rw [hspan] at hstep
    rw [hother] at hstep'
    omega
  · rw [hother] at hstep'
    omega

/-- What the ends of a sound run promise holds of every image. -/
theorem image_of_sound (h : span.sound = true) (himage : span.image? c = some n) :
    n.isValidChar ∧ '/'.toNat < n ∧ n ≠ 'İ'.toNat := by
  obtain ⟨⟨hfirst, hlast, -⟩, rfl⟩ := image?_eq_some_iff.1 himage
  simp only [sound, lastImage, Bool.or_eq_true, Bool.and_eq_true, Nat.blt_eq] at h
  obtain ⟨⟨hchar, hslash⟩, hdotted⟩ := h
  refine ⟨?_, by omega, by omega⟩
  unfold Nat.isValidChar
  omega

end CaseSpan

/-- In the table, no image lies in any of the runs. -/
theorem lowerSpans_miss : (lowerSpans.all fun span => lowerSpans.all span.misses) = true := by
  decide +kernel

/-- All runs of the table are sound. -/
theorem lowerSpans_sound : lowerSpans.all CaseSpan.sound = true := by
  decide +kernel

/-- The lower-case character of a character is no slash and not `İ`, and it has no other one. -/
theorem lowerSpans_image {c n : Nat} (h : lowerSpans.findSome? (·.image? c) = some n) :
    n.isValidChar ∧ '/'.toNat < n ∧ n ≠ 'İ'.toNat ∧
      lowerSpans.findSome? (·.image? n) = none := by
  obtain ⟨span, hmem, himage⟩ := List.exists_of_findSome?_eq_some h
  obtain ⟨hchar, hslash, hdotted⟩ :=
    CaseSpan.image_of_sound (List.all_eq_true.1 lowerSpans_sound span hmem) himage
  refine ⟨hchar, hslash, hdotted, List.findSome?_eq_none_iff.2 fun other hother => ?_⟩
  have hmiss := List.all_eq_true.1 (List.all_eq_true.1 lowerSpans_miss span hmem) other hother
  exact CaseSpan.image?_eq_none_of_misses hmiss himage

/-! ## Characters in lower case

  What a character becomes is in lower case: the table says so of its images, and the two
  characters of `İ` are looked at by themselves. -/

/-- Lower-casing leaves the character as it is, wherever it stands. -/
def IsLower (c : Char) : Prop :=
  lowerChar c = [c] ∧ c ≠ 'Σ'

/-- A character without an image in the table is in lower case, unless it is `İ`. -/
theorem isLower_of_no_image {c : Char} (hdotted : c ≠ 'İ')
    (h : lowerSpans.findSome? (·.image? c.toNat) = none) : IsLower c := by
  constructor
  · rw [lowerChar, if_neg hdotted, h]
  · rintro rfl
    revert h
    decide

/-- What stands for a character in lower case is in lower case, and is no slash unless the character
    is one. -/
theorem of_mem_lowerChar {c d : Char} (h : d ∈ lowerChar c) :
    IsLower d ∧ (d = '/' → c = '/') := by
  unfold lowerChar at h
  split at h
  · -- `İ` has two characters in lower case.
    rcases List.mem_cons.1 h with rfl | h
    · exact ⟨⟨by decide, by decide⟩, nofun⟩
    · cases List.mem_singleton.1 h
      exact ⟨⟨by decide, by decide⟩, nofun⟩
  · rename_i hdotted
    split at h
    · -- The image from the table, which has no image itself.
      rename_i n himage
      obtain ⟨hchar, hslash, hne, hnone⟩ := lowerSpans_image himage
      cases List.mem_singleton.1 h
      have hnat : (Char.ofNat n).toNat = n := by
        rw [Char.ofNat, dif_pos hchar]
        rfl
      refine ⟨isLower_of_no_image (fun heq => hne ?_) ?_, fun heq => ?_⟩
      · rw [← hnat, heq]
      · rwa [hnat]
      · rw [← hnat, heq] at hslash
        exact absurd hslash (Nat.lt_irrefl _)
    · rename_i hnone
      cases List.mem_singleton.1 h
      exact ⟨isLower_of_no_image hdotted hnone, id⟩

/-- No character vanishes. -/
theorem lowerChar_ne_nil (c : Char) : lowerChar c ≠ [] := by
  unfold lowerChar
  split
  · exact List.cons_ne_nil _ _
  · split <;> exact List.cons_ne_nil _ _

/-! ## Text in lower case

  From characters to text by induction, with the capital sigma as the one letter whose image
  depends on what stands around it.  Both of its images are in lower case, so it does not matter
  here which one it is. -/

/-- A capital sigma becomes one of two small ones, by its neighbours. -/
theorem lowerFrom_sigma (before rest : List Char) :
    ∃ d, (d = 'ς' ∨ d = 'σ') ∧
      lowerFrom before ('Σ' :: rest) = d :: lowerFrom ('Σ' :: before) rest := by
  rw [lowerFrom, if_pos rfl]
  split
  · exact ⟨'ς', Or.inl rfl, rfl⟩
  · exact ⟨'σ', Or.inr rfl, rfl⟩

/-- All other letters are lower-cased one by one. -/
theorem lowerFrom_cons_of_ne {c : Char} (h : c ≠ 'Σ') (before rest : List Char) :
    lowerFrom before (c :: rest) = lowerChar c ++ lowerFrom (c :: before) rest := by
  rw [lowerFrom, if_neg h]

/-- All characters of a lower-cased text are in lower case, and its slashes were there before. -/
theorem of_mem_lowerFrom {cs before : List Char} {d : Char} (h : d ∈ lowerFrom before cs) :
    IsLower d ∧ (d = '/' → '/' ∈ cs) := by
  induction cs generalizing before with
  | nil => cases h
  | cons c rest ih =>
    -- Only a capital sigma looks at its neighbours; either of its forms is in lower case.
    by_cases hc : c = 'Σ'
    · subst hc
      obtain ⟨sigma, hsigma, hlower⟩ := lowerFrom_sigma before rest
      rw [hlower] at h
      rcases List.mem_cons.1 h with rfl | h
      · rcases hsigma with rfl | rfl
        · exact ⟨⟨by decide, by decide⟩, nofun⟩
        · exact ⟨⟨by decide, by decide⟩, nofun⟩
      · exact ⟨(ih h).1, fun heq => List.mem_cons_of_mem _ ((ih h).2 heq)⟩
    · rw [lowerFrom_cons_of_ne hc] at h
      rcases List.mem_append.1 h with h | h
      · exact ⟨(of_mem_lowerChar h).1, fun heq => by
          rw [(of_mem_lowerChar h).2 heq]
          exact List.mem_cons_self⟩
      · exact ⟨(ih h).1, fun heq => List.mem_cons_of_mem _ ((ih h).2 heq)⟩

/-- Text in lower case stays as it is, whatever stands before it. -/
theorem lowerFrom_of_isLower {cs : List Char} (h : ∀ c ∈ cs, IsLower c) (before : List Char) :
    lowerFrom before cs = cs := by
  induction cs generalizing before with
  | nil => rfl
  | cons c rest ih =>
    obtain ⟨⟨hchar, hsigma⟩, hrest⟩ := List.forall_mem_cons.1 h
    rw [lowerFrom_cons_of_ne hsigma, hchar, ih hrest]
    rfl

/-- Lower-casing twice is lower-casing once, also in two surroundings. -/
theorem lowerFrom_lowerFrom (before before' cs : List Char) :
    lowerFrom before (lowerFrom before' cs) = lowerFrom before' cs :=
  lowerFrom_of_isLower (fun _ h => (of_mem_lowerFrom h).1) before

/-- Lower-casing a text that is in lower case changes nothing. -/
theorem lowerCase_lowerCase (text : String) : lowerCase (lowerCase text) = lowerCase text := by
  rw [lowerCase, lowerCase, String.toList_ofList, lowerFrom_lowerFrom]

/-- No text vanishes either. -/
theorem lowerFrom_eq_nil_iff {before cs : List Char} : lowerFrom before cs = [] ↔ cs = [] := by
  constructor
  · intro h
    cases cs with
    | nil => rfl
    | cons c rest =>
      by_cases hc : c = 'Σ'
      · subst hc
        obtain ⟨_, -, hlower⟩ := lowerFrom_sigma before rest
        rw [hlower] at h
        cases h
      · rw [lowerFrom_cons_of_ne hc] at h
        exact absurd (List.append_eq_nil_iff.1 h).1 (lowerChar_ne_nil c)
  · rintro rfl
    rfl

/-- Without the dot that `İ` leaves behind, there is one character for each. -/
theorem length_lowerFrom {cs before : List Char} (h : '\u0307' ∉ lowerFrom before cs) :
    (lowerFrom before cs).length = cs.length := by
  induction cs generalizing before with
  | nil => rfl
  | cons c rest ih =>
    by_cases hc : c = 'Σ'
    · subst hc
      obtain ⟨_, -, hlower⟩ := lowerFrom_sigma before rest
      rw [hlower] at h ⊢
      rw [List.length_cons, List.length_cons, ih (List.not_mem_of_not_mem_cons h)]
    · rw [lowerFrom_cons_of_ne hc] at h ⊢
      obtain ⟨hchar, hrest⟩ := not_or.1 (mt List.mem_append.2 h)
      -- Only the image of `İ` is longer than one character, and its second one is that dot.
      have hone : (lowerChar c).length = 1 := by
        unfold lowerChar at hchar ⊢
        split
        · rename_i hdotted
          rw [if_pos hdotted] at hchar
          exact absurd (List.mem_cons_of_mem _ List.mem_cons_self) hchar
        · split <;> rfl
      rw [List.length_append, List.length_cons, hone, ih hrest, Nat.add_comm]

/-! ## Slashes

  Here it does matter.  The search for a neighbour skips what is ignorable and stops at the first
  other character, and a slash is one. -/

/-- Ignorable characters are seen through; the first other one decides. -/
theorem meetsCased_cons (c : Char) (rest : List Char) :
    meetsCased (c :: rest) =
      if ignorableRanges.any (·.covers c.toNat) then meetsCased rest
      else casedRanges.any (·.covers c.toNat) := by
  unfold meetsCased
  rw [List.dropWhile_cons]
  by_cases h : ignorableRanges.any (·.covers c.toNat) = true
  · rw [if_pos h, if_pos h]
  · rw [if_neg h, if_neg h]

/-- Nobody sees past a slash. -/
theorem meetsCased_append_slash (xs ys : List Char) :
    meetsCased (xs ++ '/' :: ys) = meetsCased xs := by
  have hslash : meetsCased ('/' :: ys) = false := by
    have hignorable : ignorableRanges.any (·.covers '/'.toNat) = false := by decide +kernel
    have hcased : casedRanges.any (·.covers '/'.toNat) = false := by decide +kernel
    rw [meetsCased_cons, hignorable, hcased]
    rfl
  induction xs with
  | nil => exact hslash
  | cons x xs ih => rw [List.cons_append, meetsCased_cons, meetsCased_cons, ih]

/-- What stands before a slash does not count for what stands behind it. -/
theorem lowerFrom_behind_slash (xs ys cs : List Char) :
    lowerFrom (xs ++ '/' :: ys) cs = lowerFrom xs cs := by
  -- Induction on the text: the characters before it grow, but only in front of the slash.
  induction cs generalizing xs with
  | nil => rfl
  | cons c rest ih =>
    have hrest := ih (c :: xs)
    rw [List.cons_append] at hrest
    rw [lowerFrom, lowerFrom, meetsCased_append_slash, hrest]

/-- A slash cuts a text into parts that are lower-cased each by itself. -/
theorem lowerFrom_append_slash (before xs ys : List Char) :
    lowerFrom before (xs ++ '/' :: ys) = lowerFrom before xs ++ '/' :: lowerFrom [] ys := by
  induction xs generalizing before with
  | nil =>
    have hslash : lowerChar '/' = ['/'] := by decide
    rw [List.nil_append, lowerFrom_cons_of_ne (by decide), hslash]
    exact congrArg ('/' :: ·) (lowerFrom_behind_slash [] before ys)
  | cons x xs ih =>
    rw [List.cons_append, lowerFrom, lowerFrom, meetsCased_append_slash, ih, List.append_assoc]

/-- Lower-casing brings in no slash. -/
theorem slash_mem_lowerFrom {before cs : List Char} (h : '/' ∈ lowerFrom before cs) : '/' ∈ cs :=
  (of_mem_lowerFrom h).2 rfl

end DocStore.Text
