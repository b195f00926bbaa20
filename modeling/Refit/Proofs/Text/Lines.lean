import Mathlib.Data.List.Basic
import Mathlib.Data.List.TakeWhile
import Refit.Proofs.Text.Trim
import Refit.Text.Lines

namespace Refit

def LineEnd.lead : LineEnd → Text
  | .lf => []
  | .crlf => ['\r']

theorem LineEnd.text_eq (e : LineEnd) : e.text = e.lead ++ ['\n'] := by
  cases e <;> rfl

namespace Text

variable {t u line : Text} {pre post ls : List Text}

/-- Lines that each end behind their only line feed, up to the last, which may have none. -/
inductive AreLines : List Text → Prop
  | nil : AreLines []
  | last {u : Text} : u ≠ [] → '\n' ∉ u → AreLines [u]
  | cons {u : Text} {ls : List Text} : '\n' ∉ u → AreLines ls → AreLines ((u ++ ['\n']) :: ls)

theorem splitLines_cons_line (hu : '\n' ∉ u) (t : Text) :
    splitLines (u ++ '\n' :: t) = (u ++ ['\n']) :: splitLines t := by
  induction u with
  | nil => simp [splitLines]
  | cons c u ih =>
    simp only [List.mem_cons, not_or] at hu
    rw [List.cons_append, splitLines, if_neg (Ne.symm hu.1), ih hu.2]
    rfl

theorem splitLines_append (hne : u ≠ []) (hu : '\n' ∉ u) (t : Text) :
    splitLines (u ++ t) = match splitLines t with
      | [] => [u]
      | line :: lines => (u ++ line) :: lines := by
  induction u with
  | nil => exact absurd rfl hne
  | cons c u ih =>
    simp only [List.mem_cons, not_or] at hu
    rw [List.cons_append, splitLines, if_neg (Ne.symm hu.1)]
    cases u with
    | nil => rfl
    | cons d u =>
      rw [ih (List.cons_ne_nil d u) hu.2]
      cases splitLines t <;> rfl

theorem splitLines_last (hne : u ≠ []) (hu : '\n' ∉ u) : splitLines u = [u] := by
  simpa [splitLines] using splitLines_append hne hu []

theorem areLines_splitLines (t : Text) : AreLines (splitLines t) := by
  induction t with
  | nil => exact .nil
  | cons c rest ih =>
    rw [splitLines]
    split
    · subst c
      exact .cons (u := []) (by simp) ih
    · next hc =>
      cases hs : splitLines rest with
      | nil => exact .last (List.cons_ne_nil c []) (by simpa using Ne.symm hc)
      | cons line lines =>
        rw [hs] at ih
        cases ih with
        | last _ hu => exact .last (List.cons_ne_nil c _) (by simp [hu, Ne.symm hc])
        | cons hu hls => exact .cons (u := c :: _) (by simp [hu, Ne.symm hc]) hls

theorem AreLines.splitLines_flatten (h : AreLines ls) : splitLines ls.flatten = ls := by
  induction h with
  | nil => rfl
  | last hne hu => simp [splitLines_last hne hu]
  | cons hu _ ih => simp [splitLines_cons_line hu, ih]

theorem AreLines.sublist {ls' : List Text} (h : AreLines ls) (hs : ls'.Sublist ls) :
    AreLines ls' := by
  induction h generalizing ls' with
  | nil =>
    cases hs
    exact .nil
  | last hne hu =>
    rcases List.sublist_singleton.mp hs with rfl | rfl
    · exact .nil
    · exact .last hne hu
  | cons hu _ ih =>
    cases hs with
    | cons _ hs => exact ih hs
    | cons_cons _ hs => exact .cons hu (ih hs)

theorem splitLines_flatten_filter (keep : Text → Bool) (t : Text) :
    splitLines ((splitLines t).filter keep).flatten = (splitLines t).filter keep :=
  ((areLines_splitLines t).sublist List.filter_sublist).splitLines_flatten

theorem AreLines.append_congr (h : AreLines (pre ++ post)) (hpost : post ≠ [])
    {post' : List Text} (h' : AreLines post') : AreLines (pre ++ post') := by
  induction pre with
  | nil => exact h'
  | cons l pre ih =>
    generalize hl : l :: pre ++ post = ls at h
    cases h with
    | nil => simp at hl
    | last => simp_all
    | cons hu hls =>
      simp only [List.cons_append, List.cons.injEq] at hl
      obtain ⟨rfl, rfl⟩ := hl
      exact .cons hu (ih hls)

theorem AreLines.right (h : AreLines (pre ++ post)) : AreLines post :=
  h.sublist (List.sublist_append_right pre post)

theorem AreLines.tail (h : AreLines (line :: post)) : AreLines post :=
  h.sublist (List.sublist_cons_self line post)

/-- No line is empty, a line feed stands at the end of a line only, and it stands there in each line
but perhaps the last. -/
structure Lined (ls : List Text) : Prop where
  ne_nil : ∀ l ∈ ls, l ≠ []
  feed_last : ∀ l ∈ ls, '\n' ∉ l.dropLast
  ends : ∀ l ∈ ls.dropLast, l.getLast? = some '\n'

instance (ls : List Text) : Decidable (Lined ls) :=
  decidable_of_iff ((∀ l ∈ ls, l ≠ []) ∧ (∀ l ∈ ls, '\n' ∉ l.dropLast) ∧
      ∀ l ∈ ls.dropLast, l.getLast? = some '\n')
    ⟨fun ⟨hne, hfeed, hends⟩ => ⟨hne, hfeed, hends⟩, fun h => ⟨h.ne_nil, h.feed_last, h.ends⟩⟩

theorem Lined.tail (h : Lined (line :: post)) : Lined post where
  ne_nil l hl := h.ne_nil l (List.mem_cons_of_mem line hl)
  feed_last l hl := h.feed_last l (List.mem_cons_of_mem line hl)
  ends l hl := by
    have hpost : post ≠ [] := List.ne_nil_of_mem (List.dropLast_subset post hl)
    refine h.ends l ?_
    rw [List.dropLast_cons_of_ne_nil hpost]
    exact List.mem_cons_of_mem line hl

theorem AreLines.lined (h : AreLines ls) : Lined ls := by
  induction h with
  | nil => exact ⟨by simp, by simp, by simp⟩
  | last hne hu =>
    refine ⟨by simpa using hne, ?_, by simp⟩
    simpa using fun hmem => hu (List.dropLast_subset _ hmem)
  | @cons u ls hu _ ih =>
    refine ⟨?_, ?_, ?_⟩
    · simpa using ih.ne_nil
    · simpa using ⟨hu, ih.feed_last⟩
    · cases ls with
      | nil => simp
      | cons l ls => simpa using ih.ends

theorem Lined.areLines (h : Lined ls) : AreLines ls := by
  induction ls with
  | nil => exact .nil
  | cons l ls ih =>
    have hne := h.ne_nil l List.mem_cons_self
    have hfeed := h.feed_last l List.mem_cons_self
    have hl := List.dropLast_concat_getLast hne
    by_cases hlast : l.getLast hne = '\n'
    · rw [← hl, hlast]
      exact .cons hfeed (ih h.tail)
    · -- Only the last line may end otherwise.
      have hls : ls = [] := by
        by_contra hls
        have hend := h.ends l (by simp [List.dropLast_cons_of_ne_nil hls])
        exact hlast (by simpa [List.getLast?_eq_getLast_of_ne_nil hne] using hend)
      subst hls
      refine .last hne fun hmem => ?_
      rw [← hl, List.mem_append, List.mem_singleton] at hmem
      exact hmem.elim hfeed (Ne.symm hlast)

/-- The lines of a text are the only ones that spell it. -/
theorem splitLines_eq_iff : splitLines t = ls ↔ ls.flatten = t ∧ Lined ls := by
  constructor
  · rintro rfl
    exact ⟨flatten_splitLines t, (areLines_splitLines t).lined⟩
  · rintro ⟨rfl, h⟩
    exact h.areLines.splitLines_flatten

theorem lined_splitLines (t : Text) : Lined (splitLines t) := (splitLines_eq_iff.mp rfl).2

theorem lineEnd?_eq_none_iff : lineEnd? line = none ↔ line.getLast? ≠ some '\n' := by
  rw [List.getLast?_eq_head?_reverse, lineEnd?]
  cases line.reverse with
  | nil => simp
  | cons c r =>
    split
    · simp_all
    · simp_all
    · next h => simpa using fun hc => h r (congrArg (· :: r) hc)

theorem exists_of_lineEnd? {e : LineEnd} (h : lineEnd? line = some e) :
    ∃ u, line = u ++ e.text := by
  rw [lineEnd?] at h
  split at h
  · next u hu =>
    cases h
    exact ⟨u.reverse, by simpa [LineEnd.text] using congrArg List.reverse hu⟩
  · next u _ hu =>
    cases h
    exact ⟨u.reverse, by simpa [LineEnd.text] using congrArg List.reverse hu⟩
  · cases h

theorem AreLines.of_lineEnd?_eq_none (h : AreLines (line :: post)) (hl : lineEnd? line = none) :
    post = [] ∧ '\n' ∉ line := by
  cases h with
  | last _ hu => exact ⟨rfl, hu⟩
  | cons => simp [lineEnd?_eq_none_iff] at hl

theorem AreLines.of_lineEnd?_eq_some {e : LineEnd} (h : AreLines (line :: post))
    (hl : lineEnd? line = some e) : ∃ u, '\n' ∉ u ∧ line = u ++ ['\n'] := by
  cases h with
  | last _ hu =>
    obtain ⟨v, rfl⟩ := exists_of_lineEnd? hl
    cases e <;> simp [LineEnd.text] at hu
  | cons hu => exact ⟨_, hu, rfl⟩

def EndBlind (p : Text → Bool) : Prop := ∀ line (e : LineEnd), p (line ++ e.text) = p line

theorem trim_append_lineEnd (line : Text) (e : LineEnd) : trim (line ++ e.text) = trim line := by
  have hblank : ∀ c ∈ e.text.reverse, isBlank c = true :=
    List.all_eq_true.mp (by cases e <;> decide)
  cases hd : trimStart line with
  | nil =>
    have hall : ∀ c ∈ line, isBlank c = true := List.dropWhile_eq_nil_iff.mp hd
    have hend : trimStart e.text = [] := by cases e <;> decide
    have : trimStart (line ++ e.text) = trimStart e.text := List.dropWhile_append_of_pos hall
    rw [trim, trim, this, hend, hd]
  | cons c u =>
    have hstart : trimStart (line ++ e.text) = trimStart line ++ e.text := by
      have hne : (List.dropWhile isBlank line).isEmpty = false := by
        have hd : List.dropWhile isBlank line = c :: u := hd
        rw [hd]
        rfl
      rw [trimStart, List.dropWhile_append, hne]
      rfl
    rw [trim, trim, hstart, trimEnd, List.reverse_append, List.dropWhile_append_of_pos hblank]
    rfl

theorem AreLines.not_mem_trim (h : AreLines ls) (hl : line ∈ ls) : '\n' ∉ trim line := by
  induction h with
  | nil => cases hl
  | last _ hu =>
    rw [List.mem_singleton.mp hl]
    exact fun hmem => hu (mem_of_mem_trim hmem)
  | @cons u _ hu _ ih =>
    cases hl with
    | head =>
      rw [show u ++ ['\n'] = u ++ LineEnd.lf.text from rfl, trim_append_lineEnd]
      exact fun hmem => hu (mem_of_mem_trim hmem)
    | tail _ hl => exact ih hl

theorem endBlind_trim (statement : Text) : EndBlind fun line => trim line == statement := by
  intro line e
  simp only [trim_append_lineEnd]

end Text

end Refit
