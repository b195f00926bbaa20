import Refit.Proofs.Yaml.Spot
import Refit.Yaml.Scalar

namespace Refit.Yaml

variable {c : Char} {t : Text}

namespace Style

def Suits (t : Text) : Style → Prop
  | plain => isAmbiguous t = false ∧ allowsPlain t = true
  | singleQuoted => '\n' ∉ t ∧ allowsSingleQuotes t = true
  | doubleQuoted => True
  | literal => '\n' ∈ t ∧ allowsBlock t = true

theorem suits_ofText (t : Text) : (ofText t).Suits t := by
  rw [ofText]
  split
  · next hline =>
    split
    · next hblock => exact ⟨by simpa using hline, hblock⟩
    · trivial
  · next hline =>
    split
    · next hplain => simpa [Suits] using hplain
    · split
      · next hquotes => exact ⟨by simpa using hline, hquotes⟩
      · trivial

theorem suits_of_eq {s : Style} (h : ofText t = s) : s.Suits t := h ▸ suits_ofText t

end Style

theorem ofText_of_style (h : Style.ofText t = .plain) : Plain.ofText t = .text := by
  have hunambiguous := (Style.suits_of_eq h).1
  rw [Style.isAmbiguous, Bool.or_eq_false_iff] at hunambiguous
  simpa using hunambiguous.1

theorem literal_of_style (h : Style.ofText t = .literal) :
    t ≠ [] ∧ ∀ c ∈ t, isPrintable c = true := by
  obtain ⟨hline, hblock⟩ := Style.suits_of_eq h
  simp only [Style.allowsBlock, Bool.and_eq_true, List.all_eq_true] at hblock
  exact ⟨List.ne_nil_of_mem hline, hblock.1.1⟩

structure IsPlain (t : Text) : Prop where
  ne_nil : t ≠ []
  inline : ∀ c ∈ t, isPrintable c = true ∧ isBreak c = false
  head : t.head?.any isWhite = false
  last : t.getLast?.any isWhite = false
  begins : beginsSign t = false
  holds : holdsSign t = false

theorem isPlain (hne : t ≠ []) (h : Style.allowsPlain t = true) : IsPlain t := by
  simp only [Style.allowsPlain, Bool.and_eq_true, Bool.not_eq_true', List.all_eq_true] at h
  obtain ⟨⟨⟨⟨hinline, hhead⟩, hlast⟩, hbegins⟩, hholds⟩ := h
  exact ⟨hne, hinline, hhead, hlast, hbegins, hholds⟩

theorem isPlain_of_style (h : Style.ofText t = .plain) : IsPlain t := by
  refine isPlain ?_ (Style.suits_of_eq h).2
  rintro rfl
  cases h

namespace IsPlain

theorem leading (h : IsPlain (c :: t)) : leadingSigns.contains c = false ∧
    (['?', ':', '-'].contains c = true → endsWord t = false) := by
  have hbegins := h.begins
  simp only [beginsSign, Bool.or_eq_false_iff, Bool.and_eq_false_iff] at hbegins
  obtain ⟨⟨⟨hleading, hends⟩, -⟩, -⟩ := hbegins
  refine ⟨hleading, fun hc => hends.resolve_left ?_⟩
  rw [hc]
  decide

theorem beginsWord (h : IsPlain t) (u : Text) : BeginsWord (t ++ u) := by
  obtain ⟨c, t, rfl⟩ := List.exists_cons_of_ne_nil h.ne_nil
  have hprintable := (h.inline c List.mem_cons_self).1
  refine beginsWord_cons ⟨h.head, ne_endMark hprintable, ?_, ne_of_isPrintable hprintable rfl⟩ _
  rintro rfl
  cases h.leading.1

end IsPlain

variable {u v rest : Text} {l col : Nat} {indent : Int} {gap : Gap} {broken : Bool}
  {behind : List Spot}

theorem readPlain_white (hc : isWhite c = true) (htab : c ≠ '\t') (s : List Spot) :
    readPlain false indent gap (⟨c, l, col⟩ :: s) = readPlain false indent (gap.push c) s := by
  rw [readPlain, if_pos hc, if_neg (by simp [htab])]

theorem readPlain_solid (hc : isWhite c = false) (hend : c ≠ endMark)
    (hgap : gap.isEmpty = false → indent ≤ col ∧ col ≠ 0 ∧ c ≠ '#')
    (hcolon : c = ':' → isWhiteOrEnd (u.head?.getD endMark) = false)
    (h : readPlain false indent {} (spotsFrom l (col + 1) u) = .ok (v, broken, behind)) :
    readPlain false indent gap (spotsFrom l col (c :: u)) =
      .ok (gap.text ++ c :: v, broken, behind) := by
  have hstart : (c == endMark || (!gap.isEmpty && ((!false && decide ((col : Int) < indent)) ||
      atMarker (spotsFrom l col (c :: u)) || c == '#'))) = false := by
    cases hempty : gap.isEmpty with
    | true => simp [hend]
    | false =>
      obtain ⟨hindent, hcol, hsign⟩ := hgap hempty
      simp [hend, hsign, atMarker_eq_false hcol, hindent]
  have hstop : (c == ':' && isWhiteOrEnd (first (spotsFrom l (col + 1) u))) = false := by
    rw [first_spotsFrom, Bool.and_eq_false_imp]
    exact fun h => hcolon (beq_iff_eq.mp h)
  rw [spotsFrom_cons (isBreak_of_isWhite hc)] at hstart ⊢
  rw [readPlain, if_neg (by simp [hc]), if_neg (Bool.eq_false_iff.mp hstart), if_neg (by simp),
    if_neg (by simp only [hstop]; simp), h]
  rfl

theorem readPlain_append (hne : t ≠ []) (ht : ∀ c ∈ t, isPrintable c = true ∧ isBreak c = false)
    (hlast : t.getLast?.any isWhite = false) (hsign : holdsSign t = false)
    (hbroken : gap.broken = false) (hcol : indent ≤ col + 1)
    (hgap : gap.isEmpty = false → indent ≤ col ∧ col ≠ 0 ∧ t.head? ≠ some '#')
    (h : readPlain false indent {} (spotsFrom l (col + t.length) u) = .ok (v, broken, behind)) :
    readPlain false indent gap (spotsFrom l col (t ++ u)) =
      .ok (gap.text ++ t ++ v, broken, behind) := by
  induction t generalizing col gap with
  | nil => exact absurd rfl hne
  | cons c t ih =>
    obtain ⟨⟨hprintable, hbreak⟩, ht⟩ := List.forall_mem_cons.mp ht
    simp only [holdsSign, Bool.or_eq_false_iff] at hsign
    obtain ⟨⟨hword, hnumber⟩, hmore⟩ := hsign
    have hlength : col + (c :: t).length = col + 1 + t.length := by
      rw [List.length_cons, Nat.add_right_comm, Nat.add_assoc]
    rw [hlength] at h
    have hlasts : t ≠ [] → t.getLast?.any isWhite = false := by
      intro hne
      rwa [List.getLast?_cons_of_ne_nil hne] at hlast
    cases hc : isWhite c with
    | true =>
      -- A white is held in the gap, for a solid character comes behind it.
      have hne : t ≠ [] := by
        rintro rfl
        simp [hc] at hlast
      have hpush : gap.push c = { gap with blanks := gap.blanks ++ [c] } := by
        rw [Gap.push, if_neg (by simp [hbreak]), if_neg (by simp [hbroken])]
      have hhead : t.head? ≠ some '#' := by
        simpa [isWhiteOrEnd, hc] using hnumber
      have hpushed : (gap.push c).broken = false := by rw [hpush, hbroken]
      rw [List.cons_append, spotsFrom_cons hbreak, readPlain_white hc (ne_tab hprintable),
        ih hne ht (hlasts hne) hmore hpushed (by omega) (fun _ => ⟨by omega, by omega, hhead⟩) h,
        hpush]
      simp [Gap.text, hbroken]
    | false =>
      have hstart : gap.isEmpty = false → indent ≤ col ∧ col ≠ 0 ∧ c ≠ '#' := by
        simpa using hgap
      have hcolon : c = ':' → isWhiteOrEnd ((t ++ u).head?.getD endMark) = false := by
        cases t with
        | nil =>
          rintro rfl
          simp [endsWord] at hword
        | cons d t => simpa [endsWord] using hword
      have hrest : readPlain false indent {} (spotsFrom l (col + 1) (t ++ u)) =
          .ok (t ++ v, broken, behind) := by
        by_cases hne : t = []
        · subst hne
          exact h
        · exact ih hne ht (hlasts hne) hmore rfl (by omega) (by simp [Gap.isEmpty]) h
      rw [List.cons_append, readPlain_solid hc (ne_endMark hprintable) hstart hcolon hrest,
        List.append_assoc, List.cons_append]

theorem readPlain_colon (hc : isWhite c = true) (t : Text) :
    readPlain false indent {} (spotsFrom l col (':' :: c :: t)) =
      .ok ([], false, spotsFrom l col (':' :: c :: t)) := by
  rw [spotsFrom_cons rfl, readPlain, if_neg (show ¬isWhite ':' = true by decide),
    if_neg (by simp [Gap.isEmpty, endMark]), if_neg (by simp), if_pos]
  simp [isWhiteOrEnd, hc]

theorem readPlain_spaces (hgap : gap.broken = true) (k : Nat) :
    readPlain false indent gap (spotsFrom l col (List.replicate k ' ' ++ t)) =
      readPlain false indent gap (spotsFrom l (col + k) t) := by
  induction k generalizing col with
  | zero => rfl
  | succ k ih =>
    have hpush : gap.push ' ' = gap := by
      rw [Gap.push, if_neg (by decide), if_pos hgap]
    rw [List.replicate_succ, List.cons_append, spotsFrom_cons rfl, readPlain_white rfl (by decide),
      hpush, ih, Nat.add_right_comm, Nat.add_assoc]

theorem readPlain_break {k n : Nat} (hk : k ≤ n) (ht : BeginsWord t) (l col : Nat) :
    readPlain false (n + 1) {} (spotsFrom l col ('\n' :: (List.replicate k ' ' ++ t))) =
      .ok ([], true, spotsFrom (l + 1) k t) := by
  rw [spotsFrom_break rfl, readPlain_white rfl (by decide), readPlain_spaces rfl, Nat.zero_add]
  cases t with
  | nil => rfl
  | cons c t =>
    obtain ⟨hc, -⟩ := ht c rfl
    have hk : (k : Int) < n + 1 := by omega
    rw [spotsFrom_cons (isBreak_of_isWhite hc), readPlain, if_neg (by simp [hc]), if_pos]
    · rfl
    · simp [Gap.push, isBreak, Gap.isEmpty, hk]

end Refit.Yaml
