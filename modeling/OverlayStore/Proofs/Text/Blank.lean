import Mathlib.Data.List.TakeWhile
import OverlayStore.Text.Blank

/-!
# Blanks around texts

A text is what is left of it when it is trimmed, between blanks. So blanks around a text do not
matter once it is trimmed, and those around a list of items do not matter once each item is
(`Text.map_trimBlank_splitAt`).
-/

namespace OverlayStore.Text

variable {text front back : List Char}

/-! ## Trimming -/

/-- Blanks in front are taken off. -/
theorem trimBlank_blank_append (h : ∀ c ∈ front, isBlank c = true) :
    trimBlank (front ++ text) = trimBlank text := by
  rw [trimBlank, List.dropWhile_append_of_pos h, trimBlank]

/-- Blanks at the end are taken off. -/
theorem trimBlank_append_blank (h : ∀ c ∈ back, isBlank c = true) :
    trimBlank (text ++ back) = trimBlank text := by
  have hback : ∀ c ∈ back.reverse, isBlank c = true := fun c hc => h c (List.mem_reverse.mp hc)
  rw [trimBlank, trimBlank, List.dropWhile_append]
  split
  · -- the text is blank, too
    rename_i hempty
    rw [List.isEmpty_iff.mp hempty, List.dropWhile_eq_nil_iff.mpr h]
  · rw [List.reverse_append, List.dropWhile_append_of_pos hback]

/-- A text is its trimmed form with blanks in front and at the end. -/
theorem exists_eq_append_trimBlank (text : List Char) :
    ∃ front back, (∀ c ∈ front, isBlank c = true) ∧ (∀ c ∈ back, isBlank c = true) ∧
      text = front ++ (trimBlank text ++ back) := by
  refine ⟨text.takeWhile isBlank, ((text.dropWhile isBlank).reverse.takeWhile isBlank).reverse,
    fun c hc => List.mem_takeWhile_imp hc,
    fun c hc => List.mem_takeWhile_imp (List.mem_reverse.mp hc), ?_⟩
  rw [trimBlank, ← List.reverse_append, List.takeWhile_append_dropWhile, List.reverse_reverse,
    List.takeWhile_append_dropWhile]

/-! ## Cutting -/

variable {mark : Char} {piece : List Char} {pieces : List (List Char)}

/-- A character that is no mark goes to the first piece. -/
theorem splitAt_cons_of_ne {c : Char} (h : c ≠ mark) (htext : splitAt mark text = piece :: pieces) :
    splitAt mark (c :: text) = (c :: piece) :: pieces := by
  rw [splitAt, if_neg h, htext]

/-- A text has a first piece. -/
theorem exists_splitAt_eq_cons (mark : Char) (text : List Char) :
    ∃ piece pieces, splitAt mark text = piece :: pieces := by
  induction text with
  | nil => exact ⟨[], [], rfl⟩
  | cons c text ih =>
    by_cases hmark : c = mark
    · exact ⟨[], splitAt mark text, by rw [splitAt, if_pos hmark]⟩
    · obtain ⟨piece, pieces, htext⟩ := ih
      exact ⟨c :: piece, pieces, splitAt_cons_of_ne hmark htext⟩

/-- What is put in front of a text belongs to the first piece. -/
theorem splitAt_append (h : mark ∉ front) (htext : splitAt mark text = piece :: pieces) :
    splitAt mark (front ++ text) = (front ++ piece) :: pieces := by
  induction front with
  | nil => exact htext
  | cons c front ih =>
    obtain ⟨hne, hfront⟩ := not_or.mp (mt List.mem_cons.mpr h)
    exact splitAt_cons_of_ne (Ne.symm hne) (ih hfront)

/-- What is put behind a text belongs to the last piece. -/
theorem exists_splitAt_append (h : mark ∉ back) (text : List Char) :
    ∃ pieces last, splitAt mark text = pieces ++ [last] ∧
      splitAt mark (text ++ back) = pieces ++ [last ++ back] := by
  induction text with
  | nil =>
    have hnil : splitAt mark [] = [[]] := rfl
    exact ⟨[], [], hnil, by simpa using splitAt_append h hnil⟩
  | cons c text ih =>
    obtain ⟨pieces, last, htext, hboth⟩ := ih
    by_cases hmark : c = mark
    · refine ⟨[] :: pieces, last, ?_, ?_⟩
      · rw [splitAt, if_pos hmark, htext, List.cons_append]
      · rw [List.cons_append, splitAt, if_pos hmark, hboth, List.cons_append]
    · -- the character joins the first piece, which is the last one if the text has no mark
      cases pieces with
      | nil => exact ⟨[], c :: last, splitAt_cons_of_ne hmark htext, splitAt_cons_of_ne hmark hboth⟩
      | cons piece pieces =>
        exact ⟨(c :: piece) :: pieces, last, splitAt_cons_of_ne hmark htext,
          splitAt_cons_of_ne hmark hboth⟩

/-- Trimmed pieces are the same whether the text is trimmed before it is cut or not. -/
theorem map_trimBlank_splitAt (hmark : isBlank mark = false) (text : List Char) :
    (splitAt mark (trimBlank text)).map trimBlank = (splitAt mark text).map trimBlank := by
  have hnot : ∀ blanks : List Char, (∀ c ∈ blanks, isBlank c = true) → mark ∉ blanks :=
    fun _ hblanks hmem => by simp [hblanks mark hmem] at hmark
  obtain ⟨front, back, hfront, hback, htext⟩ := exists_eq_append_trimBlank text
  obtain ⟨pieces, last, hcut, hcutback⟩ := exists_splitAt_append (hnot back hback) (trimBlank text)
  obtain ⟨piece, rest, hfirst⟩ := exists_splitAt_eq_cons mark (trimBlank text ++ back)
  have hwhole : splitAt mark text = (front ++ piece) :: rest :=
    (congrArg (splitAt mark) htext).trans (splitAt_append (hnot front hfront) hfirst)
  -- first the blanks behind the text are put back, which lengthen its last piece, and then those in
  -- front of it, which lengthen its first piece
  calc (splitAt mark (trimBlank text)).map trimBlank
      = (splitAt mark (trimBlank text ++ back)).map trimBlank := by
        rw [hcut, hcutback, List.map_append, List.map_append, List.map_singleton,
          List.map_singleton, trimBlank_append_blank hback]
    _ = (splitAt mark text).map trimBlank := by
        rw [hfirst, hwhole, List.map_cons, List.map_cons, trimBlank_blank_append hfront]

end OverlayStore.Text
