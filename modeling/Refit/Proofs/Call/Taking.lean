import Refit.Call
import Refit.Proofs.Call.Recognition

namespace Refit.Call

open Text (Swapped Apart)
open Token (Alike)

variable {m type : Token} {before : Option Char} {t t' rest args blanks a b x y w : Text} {n : Nat}
  {call : Call}

structure IsFlat (m : Token) (blanks : Text) (call : Call) : Prop extends Opens m blanks call where
  opens : '(' ∉ call.arguments
  closes : ')' ∉ call.arguments

theorem IsFlat.text_eq (h : IsFlat m blanks call) :
    call.text = (m.literal ++ blanks) ++ '(' :: (call.arguments ++ [')']) := by
  simp [text, h.head_eq]

theorem flat_eq_some_iff : flat m before t = some (n, call) ↔
    n = call.text.length ∧ ∃ blanks rest, IsFlat m blanks call ∧ t = call.text ++ rest ∧
      m.fits before (blanks ++ ['(']).head? = true := by
  rw [flat, finder_eq_some_iff]
  constructor
  · rintro ⟨hn, blanks, inner, hopens, rfl, hargs, hfit⟩
    obtain ⟨rest, rfl, hopen, hclose⟩ := flatArguments?_eq_some_iff.mp hargs
    exact ⟨hn, blanks, rest, ⟨hopens, hopen, hclose⟩, by simp [text], hfit⟩
  · rintro ⟨hn, blanks, rest, h, rfl, hfit⟩
    refine ⟨hn, blanks, call.arguments ++ ')' :: rest, h.toOpens, by simp [text], ?_, hfit⟩
    exact flatArguments?_eq_some_iff.mpr ⟨rest, rfl, h.opens, h.closes⟩

def Takes (m type : Token) (t : Text) : Prop :=
  ∃ x y blanks call, IsFlat m blanks call ∧ t = x ++ (call.text ++ y) ∧
    m.fits x.getLast? (blanks ++ ['(']).head? = true ∧ type.occursIn call.arguments = true

theorem takes_of_mem_hits (hc : call ∈ Text.hits (flat m) t)
    (h : type.occursIn call.arguments = true) : Takes m type t := by
  obtain ⟨x, y, rfl, hf⟩ := Text.exists_of_mem_hits (flat_spells m) hc
  obtain ⟨-, blanks, -, hflat, -, hfit⟩ := flat_eq_some_iff.mp hf
  exact ⟨x, y, blanks, call, hflat, by simp, hfit, h⟩

theorem Takes.occursIn (h : Takes m type t) (hopen : '(' ∉ type.literal)
    (hclose : ')' ∉ type.literal) : type.occursIn t = true := by
  obtain ⟨x, y, blanks, call, hflat, rfl, -, ht⟩ := h
  have htext : x ++ (call.text ++ y) =
      (x ++ (m.literal ++ blanks)) ++ '(' :: (call.arguments ++ ')' :: y) := by
    simp [hflat.text_eq]
  rw [htext, Token.occursIn_append_cons hopen (by decide),
    Token.occursIn_append_cons hclose (by decide), ht]
  simp

theorem Takes.of_append (h : Takes m type (a ++ b)) (hb : ')' ∉ b) : Takes m type a := by
  obtain ⟨x, y, blanks, call, hflat, ht, hfit, htype⟩ := h
  have hsplit : a ++ b ++ [] =
      (x ++ (m.literal ++ blanks ++ '(' :: call.arguments)) ++ ')' :: y := by
    simp [ht, hflat.text_eq]
  rcases Text.behind_or_before hb hsplit with ⟨r, -, hr⟩ | ⟨r, rfl, -⟩
  · simp at hr
  · exact ⟨x, r, blanks, call, hflat, by simp [hflat.text_eq], hfit, htype⟩

structure Plain (m : Token) : Prop where
  ne_nil : m.literal ≠ []
  word : ∀ c ∈ m.literal, isWord c = true
  solid : ∀ c ∈ m.literal, isBlank c = false

theorem Plain.not_mem {c : Char} (h : Plain m) (hw : isWord c = false) : c ∉ m.literal := by
  intro hc
  simp [h.word c hc] at hw

theorem not_mem_append_blanks {c : Char} (hc : c ∉ m.literal) (hb : isBlank c = false)
    (hblank : ∀ d ∈ blanks, isBlank d = true) : c ∉ m.literal ++ blanks := by
  rw [List.mem_append]
  rintro (h | h)
  · exact hc h
  · simp [hblank c h] at hb

theorem Plain.not_mem_append {c : Char} (h : Plain m) (hblank : ∀ d ∈ blanks, isBlank d = true)
    (hw : isWord c = false) (hb : isBlank c = false) : c ∉ m.literal ++ blanks :=
  not_mem_append_blanks (h.not_mem hw) hb hblank

structure Separate (line : Text) : Prop where
  opens : '(' ∉ line
  closes : ')' ∉ line
  ends : ∃ w s, line = w ++ ';' :: s ∧ ∀ c ∈ s, isBlank c = true

theorem Separate.append_lead (h : Separate w) (e : LineEnd) : Separate (w ++ e.lead) := by
  have hopen : '(' ∉ e.lead := by cases e <;> decide
  have hclose : ')' ∉ e.lead := by cases e <;> decide
  have hblank : e.lead.all isBlank = true := by cases e <;> decide
  obtain ⟨u, s, rfl, hs⟩ := h.ends
  refine ⟨List.not_mem_append h.opens hopen, List.not_mem_append h.closes hclose, u, s ++ e.lead,
    by simp, ?_⟩
  intro c hc
  cases List.mem_append.mp hc with
  | inl hc => exact hs c hc
  | inr hc => exact List.all_eq_true.mp hblank c hc

theorem Plain.behind_blanks (hm : Plain m) {s u v : Text} (hs : ∀ c ∈ s, isBlank c = true)
    (h : u ++ (m.literal ++ blanks) = s ++ v) :
    ∃ r, u = s ++ r ∧ v = r ++ (m.literal ++ blanks) := by
  rcases List.append_eq_append_iff.mp h with ⟨r, hr, hv⟩ | ⟨r, hu, hv⟩
  · cases r with
    | nil => exact ⟨[], by simpa using hr.symm, by simpa using hv.symm⟩
    | cons c r =>
      obtain ⟨d, n, hname⟩ := List.exists_cons_of_ne_nil hm.ne_nil
      simp only [hname, List.cons_append, List.cons.injEq] at hv
      have hsolid := hm.solid c (by simp [hname, hv.1])
      simp [hs c (by simp [hr])] at hsolid
  · exact ⟨r, hu, hv⟩

theorem Plain.behind_line (hm : Plain m) (hblank : ∀ c ∈ blanks, isBlank c = true)
    (hw : Separate w) {v : Text}
    (h : (a ++ ['\n']) ++ (w ++ ['\n']) ++ v = x ++ (m.literal ++ blanks)) :
    ∃ r, v = r ++ (m.literal ++ blanks) ∧ x.getLast? = (a ++ '\n' :: r).getLast? := by
  obtain ⟨u, s, rfl, hs⟩ := hw.ends
  have hsemi : ';' ∉ m.literal ++ blanks := hm.not_mem_append hblank (by decide) (by decide)
  have hparts : x ++ (m.literal ++ blanks) ++ [] =
      (a ++ '\n' :: u) ++ ';' :: (s ++ ['\n'] ++ v) := by
    simpa using h.symm
  rcases Text.behind_or_before hsemi hparts with ⟨k, -, hk⟩ | ⟨k, rfl, hk⟩
  · simp at hk
  · have hends : ∀ c ∈ s ++ ['\n'], isBlank c = true := by
      intro c hc
      cases List.mem_append.mp hc with
      | inl hc => exact hs c hc
      | inr hc =>
        rw [List.mem_singleton.mp hc]
        decide
    obtain ⟨r, rfl, rfl⟩ := hm.behind_blanks hends (by simpa using hk.symm)
    exact ⟨r, rfl, by simp [List.getLast?_cons]⟩

theorem Takes.of_line (hm : Plain m) (h : Takes m type (a ++ '\n' :: (w ++ '\n' :: b)))
    (hw : Separate w) (htype : type.occursIn w = false) (hn : '\n' ∉ type.literal) :
    Takes m type (a ++ '\n' :: b) := by
  obtain ⟨x, y, blanks, call, hflat, ht, hfit, hcall⟩ := h
  have hparts : (a ++ ['\n']) ++ (w ++ ['\n']) ++ b =
      (x ++ (m.literal ++ blanks)) ++ '(' :: (call.arguments ++ ')' :: y) := by
    simpa [hflat.text_eq] using ht
  have hopen : '(' ∉ w ++ ['\n'] := by simp [hw.opens]
  have hclose : ')' ∉ w ++ ['\n'] := by simp [hw.closes]
  rcases Text.behind_or_before hopen hparts with ⟨r, hr, rfl⟩ | ⟨r, hr, hrest⟩
  · -- The call stands behind the line.
    obtain ⟨j, rfl, hlast⟩ := hm.behind_line hflat.blank hw hr.symm
    refine ⟨a ++ '\n' :: j, y, blanks, call, hflat, by simp [hflat.text_eq], ?_, hcall⟩
    rwa [← hlast]
  · rcases Text.behind_or_before hclose hrest.symm with ⟨k, hk, rfl⟩ | ⟨k, rfl, rfl⟩
    · -- The line stands among the arguments.
      have hlast := congrArg List.getLast? hr
      rw [Text.getLast?_append_cons, Text.getLast?_append_cons] at hlast
      obtain ⟨q, rfl⟩ : ∃ q, r = q ++ ['\n'] := by
        rw [← List.getLast?_eq_some_iff]
        cases hr : r.getLast? with
        | none => simp [hr] at hlast
        | some d => simpa [hr] using hlast.symm
      have hargs : type.occursIn (q ++ '\n' :: k) = true := by
        rw [hk] at hcall
        have hw : isWord '\n' = false := by decide
        simpa [Token.occursIn_append_cons hn hw, htype] using hcall
      refine ⟨x, y, blanks, ⟨call.head, q ++ '\n' :: k⟩, ⟨⟨hflat.head_eq, hflat.blank⟩, ?_, ?_⟩, ?_,
        hfit, hargs⟩
      · have := hflat.opens
        simp_all
      · have := hflat.closes
        simp_all
      · have := congrArg (· ++ (k ++ ')' :: y)) hr
        simpa [Call.text, hflat.head_eq] using this
    · -- The call stands before the line.
      refine ⟨x, k ++ b, blanks, call, hflat, ?_, hfit, hcall⟩
      have := congrArg (· ++ b) hr
      simpa [hflat.text_eq] using this

end Refit.Call

namespace Refit.Rule.Retyping

open Text (Swapped Apart)
open Token (Alike)
open Call (IsFlat Plain Takes)

/-- A type with parameters, and another one that takes its place. -/
structure Generic (r : Retyping) : Prop extends Alike r.token.literal r.replacement where
  apart : Apart r.replacement r.token.literal
  left_closed : r.token.literal.getLast? = some '>'
  right_closed : r.replacement.getLast? = some '>'
  left_foreign : ∀ c ∈ ['(', ')', ';', '\r', '\n'], c ∉ r.token.literal
  right_foreign : ∀ c ∈ ['(', ')', ';', '\r', '\n'], c ∉ r.replacement

variable {r : Retyping} {m : Token} {t t' x' y' blanks : Text} {call : Call}

theorem Generic.exists_of_swapped (hr : r.Generic) (hm : Plain m) (hflat : IsFlat m blanks call)
    (hs : Swapped r.token.literal r.replacement t (x' ++ (call.text ++ y'))) :
    ∃ x args y, t = x ++ ((⟨call.head, args⟩ : Call).text ++ y) ∧
      IsFlat m blanks ⟨call.head, args⟩ ∧ Swapped r.token.literal r.replacement x x' ∧
      Swapped r.token.literal r.replacement args call.arguments ∧
      Swapped r.token.literal r.replacement y y' := by
  have hhead : Apart r.replacement call.head := by
    rw [hflat.head_eq]
    refine .of_getLast? hr.right_closed ?_ (List.getLast?_append ..) (hr.right_foreign _ (by simp))
    have := hm.not_mem_append hflat.blank (show isWord '>' = false by decide) (by decide)
    simpa using this
  have hclose : Apart r.replacement [')'] := .of_not_mem hr.right_ne (hr.right_foreign _ (by simp))
  have hs : Swapped r.token.literal r.replacement t
      (x' ++ (call.head ++ (call.arguments ++ ([')'] ++ y')))) := by
    simpa [Call.text] using hs
  obtain ⟨x, w, rfl, hx, hw⟩ := hs.cut hhead (by simp [hflat.head_eq])
  obtain ⟨args, y, rfl, hargs, hy⟩ := hw.cut hclose (by simp)
  refine ⟨x, args, y, by simp [Call.text], ⟨⟨hflat.head_eq, hflat.blank⟩, ?_, ?_⟩, hx, hargs, hy⟩
  · intro h
    rcases hargs.mem_or_mem h with h | h
    · exact hflat.opens h
    · exact hr.left_foreign _ (by simp) h
  · intro h
    rcases hargs.mem_or_mem h with h | h
    · exact hflat.closes h
    · exact hr.left_foreign _ (by simp) h

theorem Generic.takes_of_swapped (hr : r.Generic) (hm : Plain m)
    (hs : Swapped r.token.literal r.replacement t t') (h : Takes m r.token t') :
    Takes m r.token t := by
  obtain ⟨x', y', blanks, call, hflat, rfl, hfit, htype⟩ := h
  obtain ⟨x, args, y, rfl, hflat', hx, hargs, -⟩ := hr.exists_of_swapped hm hflat hs
  refine ⟨x, y, blanks, _, hflat', rfl, ?_, ?_⟩
  · rwa [Token.fits_congr (hr.getLast?_any hx) rfl]
  · exact Token.occursIn_of_swapped hargs hr.toAlike hr.apart hr.left_ne htype

theorem swapped_apply (hne : r.token.literal ≠ []) (t : Text) :
    Swapped r.token.literal r.replacement t (r.apply t) :=
  Token.swapped_replaceIn hne _ _

theorem swapped_applyToCall (hne : r.token.literal ≠ []) (call : Call) :
    Swapped r.token.literal r.replacement call.text (r.applyToCall call) :=
  ((Swapped.refl call.head).append (swapped_apply hne call.arguments)).append (.refl [')'])

theorem swapped_applyToCalls (hne : r.token.literal ≠ []) (m : Token) (t : Text) :
    Swapped r.token.literal r.replacement t (r.applyToCalls m t) :=
  Swapped.replaceHits (Call.flat_spells m) fun call _ => swapped_applyToCall hne call

end Refit.Rule.Retyping
