import Refit.Proofs.Text.Hex
import Refit.Proofs.Yaml.Spot
import Refit.Yaml.Printer
import Refit.Yaml.Scalar

namespace Refit.Yaml

variable {c e q : Char} {t u v rest digits : Text} {l col n width : Nat} {gap : Gap}
  {behind : List Spot}

inductive Escaped (c : Char) : Text → Prop
  | plain : isPrintable c = true → isWhite c = false → c ≠ '"' → c ≠ '\\' → Escaped c [c]
  | space : c = ' ' → Escaped c [c]
  | letter {e : Char} : isPrintable e = true → escape? e = some (.inl c) → Escaped c ['\\', e]
  | code {e : Char} {width : Nat} : isPrintable e = true → escape? e = some (.inr width) →
      0 < width → c.toNat < Nat.pow 16 width →
      Escaped c ('\\' :: e :: (Text.ofHex width c.toNat).map Char.toUpper)

theorem escaped_escape (c : Char) : Escaped c (escape c) := by
  unfold escape
  split
  case h_15 hnul hbell hback htab hline hv hf hr he hquote hslash hn hls hps =>
    dsimp only
    split
    · next hprintable =>
      cases hwhite : isWhite c with
      | true =>
        have hbreak : isBreak c = false := by
          simp only [isBreak, Bool.or_eq_false_iff, beq_eq_false_iff_ne]
          exact ⟨⟨hline, hls⟩, hps⟩
        exact .space (eq_space hprintable hbreak hwhite)
      | false => exact .plain hprintable hwhite hquote hslash
    · split
      · next hc => exact .code (by decide) rfl (by decide) (Nat.lt_succ_of_le hc)
      · split
        · next hc => exact .code (by decide) rfl (by decide) (Nat.lt_succ_of_le hc)
        · refine .code (by decide) rfl (by decide) ?_
          have hvalid : c.toNat < 0xD800 ∨ 0xDFFF < c.toNat ∧ c.toNat < 0x110000 := c.valid
          have hall : 0x110000 ≤ Nat.pow 16 8 := by decide
          omega
  all_goals exact .letter (by decide) rfl

theorem isBreak_of_escape? {x : Char ⊕ Nat} (h : escape? e = some x) : isBreak e = false := by
  cases hbreak : isBreak e with
  | false => rfl
  | true =>
    simp only [isBreak, Bool.or_eq_true, beq_iff_eq] at hbreak
    rcases hbreak with (rfl | rfl) | rfl <;> cases h

theorem Escaped.inline (h : Escaped c t) : ∀ d ∈ t, isPrintable d = true ∧ isBreak d = false := by
  cases h with
  | plain hprintable hwhite _ _ => simp [hprintable, isBreak_of_isWhite hwhite]
  | space hc =>
    subst hc
    exact List.forall_mem_singleton.mpr (by decide)
  | letter hprintable he =>
    have hslash : isPrintable '\\' = true ∧ isBreak '\\' = false := by decide
    simp [hslash, hprintable, isBreak_of_escape? he]
  | code hprintable he _ _ =>
    have hslash : isPrintable '\\' = true ∧ isBreak '\\' = false := by decide
    have hdigit : ∀ d < 16, isPrintable d.digitChar.toUpper = true ∧
        isBreak d.digitChar.toUpper = false := by decide
    refine List.forall_mem_cons.mpr ⟨hslash, List.forall_mem_cons.mpr
      ⟨⟨hprintable, isBreak_of_escape? he⟩, fun d hd => ?_⟩⟩
    obtain ⟨d, hdigits, rfl⟩ := List.mem_map.mp hd
    obtain ⟨k, hk, rfl⟩ := exists_digit_of_mem_ofHex hdigits
    exact hdigit k hk

theorem readEscape_letter (h : escape? e = some (.inl c)) :
    readEscape (spotsFrom l col (e :: t)) = .ok (c, 1) := by
  simp [spotsFrom, readEscape, h]

theorem readEscape_code (h : escape? e = some (.inr width)) (hlength : digits.length = width)
    (hcode : ofHex? digits = some c.toNat) :
    readEscape (spotsFrom l col (e :: (digits ++ t))) = .ok (c, width + 1) := by
  have hspelled (l col : Nat) :
      ((spotsFrom l col (digits ++ t)).take width).map Spot.char = digits := by
    rw [← hlength, map_take_spotsFrom]
  rw [spotsFrom]
  split <;> simp [readEscape, h, hspelled, hcode, charOfCode?_toNat, hlength]

theorem readQuoted_skip (q : Char) (gap : Gap) (n : Nat) (s : List Spot) :
    readQuoted q gap n s = readQuoted q gap 0 (s.drop n) := by
  induction n generalizing s with
  | zero => rfl
  | succ n ih =>
    cases s with
    | nil => rfl
    | cons p s => exact ih s

theorem readQuoted_white (hc : isWhite c = true) (s : List Spot) :
    readQuoted q gap 0 (⟨c, l, col⟩ :: s) = readQuoted q (gap.push c) 0 s := by
  rw [readQuoted, if_pos hc]

theorem readQuoted_solid (hc : isWhite c = false) (hend : c ≠ endMark) (hcol : col ≠ 0) (hq : c ≠ q)
    (hslash : q = '"' → c ≠ '\\')
    (h : readQuoted q {} 0 (spotsFrom l (col + 1) u) = .ok (v, behind)) :
    readQuoted q gap 0 (spotsFrom l col (c :: u)) = .ok (gap.text ++ c :: v, behind) := by
  have hmarker := atMarker_eq_false (l := l) hcol (c :: u)
  rw [spotsFrom_cons (isBreak_of_isWhite hc)] at hmarker ⊢
  rw [readQuoted, if_neg (by simp [hc]), if_neg (by simp [hend, hmarker]), if_neg (by simp [hq]),
    if_neg (by simpa using hslash), h]
  rfl

theorem readQuoted_escape {size : Nat} (hcol : col ≠ 0) (hu : u.head?.any isBreak = false)
    (hescape : readEscape (spotsFrom l (col + 1) u) = .ok (c, size))
    (h : readQuoted '"' {} 0 ((spotsFrom l (col + 1) u).drop size) = .ok (v, behind)) :
    readQuoted '"' gap 0 (spotsFrom l col ('\\' :: u)) = .ok (gap.text ++ c :: v, behind) := by
  have hmarker := atMarker_eq_false (l := l) hcol ('\\' :: u)
  have hbreak : isBreak (first (spotsFrom l (col + 1) u)) = false := by
    cases u with
    | nil => rfl
    | cons d u => simpa using hu
  rw [spotsFrom_cons rfl] at hmarker ⊢
  rw [readQuoted, if_neg (show ¬isWhite '\\' = true by decide),
    if_neg (by simp [endMark, hmarker]), if_neg (by simp), if_pos (by simp),
    if_neg (Bool.eq_false_iff.mp hbreak), hescape]
  rw [← readQuoted_skip] at h
  show (readQuoted '"' {} size (spotsFrom l (col + 1) u) >>= fun r =>
    Except.ok (gap.text ++ c :: r.1, r.2)) = _
  rw [h]
  rfl

theorem readQuoted_escaped (h : Escaped c t) (hgap : gap.broken = false) (hcol : col ≠ 0)
    (hread : ∀ gap : Gap, gap.broken = false →
      readQuoted '"' gap 0 (spotsFrom l (col + t.length) u) = .ok (gap.text ++ v, behind)) :
    readQuoted '"' gap 0 (spotsFrom l col (t ++ u)) = .ok (gap.text ++ c :: v, behind) := by
  have hinline := fun d hd => (h.inline d hd).2
  have hread' := hread {} rfl
  cases h with
  | plain hprintable hwhite hquote hslash =>
    exact readQuoted_solid hwhite (ne_endMark hprintable) hcol hquote (fun _ => hslash) hread'
  | space hc =>
    subst hc
    rw [List.singleton_append, spotsFrom_cons rfl, readQuoted_white rfl]
    have hpush : gap.push ' ' = { gap with blanks := gap.blanks ++ [' '] } := by
      rw [Gap.push, if_neg (by decide), if_neg (by simp [hgap])]
    refine (hread (gap.push ' ') (by rw [hpush, hgap])).trans ?_
    simp [hpush, Gap.text, hgap]
  | @letter e hprintable he =>
    have hbreak := isBreak_of_escape? he
    have hdrop : (spotsFrom l (col + 1) ([e] ++ u)).drop 1 = spotsFrom l (col + 2) u :=
      drop_spotsFrom (List.forall_mem_singleton.mpr hbreak) l (col + 1) u
    exact readQuoted_escape hcol hbreak (readEscape_letter he) (hdrop ▸ hread')
  | @code e width hprintable he hwidth hc =>
    have hbreak := isBreak_of_escape? he
    have hlength : ((Text.ofHex width c.toNat).map Char.toUpper).length = width := by
      rw [List.length_map, length_ofHex hwidth hc]
    have hdrop := drop_spotsFrom (fun d hd => hinline d (List.mem_cons_of_mem '\\' hd)) l (col + 1)
      u
    have hcode := ofHex?_ofHex keepsDigits_toUpper width c.toNat
    simp only [List.length_cons, hlength] at hdrop hread'
    rw [Nat.add_assoc, Nat.add_comm 1] at hdrop
    exact readQuoted_escape hcol hbreak (readEscape_code he hlength hcode) (hdrop ▸ hread')

theorem readQuoted_double (hgap : gap.broken = false) (hcol : col ≠ 0) (t rest : Text) :
    readQuoted '"' gap 0 (spotsFrom l col (t.flatMap escape ++ '"' :: rest)) =
      .ok (gap.text ++ t, spotsFrom l (col + (t.flatMap escape).length + 1) rest) := by
  induction t generalizing gap col with
  | nil =>
    have hmarker := atMarker_eq_false (l := l) hcol ('"' :: rest)
    rw [List.flatMap_nil, List.nil_append]
    rw [spotsFrom_cons rfl] at hmarker ⊢
    rw [readQuoted, if_neg (show ¬isWhite '"' = true by decide),
      if_neg (by simp [endMark, hmarker]), if_pos (by simp), if_neg (by simp), List.append_nil]
    rfl
  | cons c t ih =>
    rw [List.flatMap_cons, List.append_assoc, List.length_append, ← Nat.add_assoc]
    exact readQuoted_escaped (escaped_escape c) hgap hcol fun gap hgap => ih hgap (by omega)

def doubled (c : Char) : Text := if c = '\'' then ['\'', '\''] else [c]

theorem singleQuoted_eq (margin : Nat) (t : Text) :
    singleQuoted margin t = '\'' :: indentLines margin true (t.flatMap doubled ++ ['\'']) := rfl

theorem readQuoted_spaces (hgap : gap.broken = true) (q : Char) (k : Nat) :
    readQuoted q gap 0 (spotsFrom l col (List.replicate k ' ' ++ t)) =
      readQuoted q gap 0 (spotsFrom l (col + k) t) := by
  induction k generalizing col with
  | zero => rfl
  | succ k ih =>
    have hpush : gap.push ' ' = gap := by
      rw [Gap.push, if_neg (by decide), if_pos hgap]
    rw [List.replicate_succ, List.cons_append, spotsFrom_cons rfl, readQuoted_white rfl, hpush, ih,
      Nat.add_right_comm, Nat.add_assoc]

theorem exists_readQuoted_margin {margin : Nat} (hc : isBreak c = false) (hmargin : margin ≠ 0)
    (hcol : gap.broken = false → col ≠ 0) (q : Char) (t u : Text) : ∃ col', col' ≠ 0 ∧
      readQuoted q gap 0 (spotsFrom l col (indentLines margin (!gap.broken) (c :: t) ++ u)) =
        readQuoted q gap 0 (spotsFrom l col' (c :: (indentLines margin true t ++ u))) := by
  cases hgap : gap.broken with
  | false =>
    refine ⟨col, hcol hgap, ?_⟩
    rw [Bool.not_false, indentLines_inside hc, List.cons_append]
  | true =>
    refine ⟨col + margin, by omega, ?_⟩
    rw [Bool.not_true, indentLines_start hc, List.append_assoc, readQuoted_spaces hgap,
      List.cons_append]

theorem readQuoted_quote (hcol : col ≠ 0)
    (h : readQuoted '\'' {} 0 (spotsFrom l (col + 2) u) = .ok (v, behind)) :
    readQuoted '\'' gap 0 (spotsFrom l col ('\'' :: '\'' :: u)) =
      .ok (gap.text ++ '\'' :: v, behind) := by
  have hmarker := atMarker_eq_false (l := l) hcol ('\'' :: '\'' :: u)
  rw [spotsFrom_cons rfl, spotsFrom_cons rfl] at hmarker ⊢
  rw [readQuoted, if_neg (show ¬isWhite '\'' = true by decide), if_neg (by simp [endMark, hmarker]),
    if_pos (by simp), if_pos (by simp [first])]
  rw [readQuoted, h]
  rfl

theorem readQuoted_close (hcol : col ≠ 0) (hrest : rest.head? ≠ some '\'') :
    readQuoted '\'' gap 0 (spotsFrom l col ('\'' :: rest)) =
      .ok (gap.text, spotsFrom l (col + 1) rest) := by
  have hmarker := atMarker_eq_false (l := l) hcol ('\'' :: rest)
  have hfirst : rest.head?.getD endMark ≠ '\'' := by
    cases rest with
    | nil => decide
    | cons c rest => simpa using hrest
  rw [spotsFrom_cons rfl] at hmarker ⊢
  rw [readQuoted, if_neg (show ¬isWhite '\'' = true by decide), if_neg (by simp [endMark, hmarker]),
    if_pos (by simp), if_neg (by simp [hfirst])]

/-- What a gap may be followed by, so that nothing of it is lost: no spaces by a break, and no break
by a space. A line feed is lost. -/
structure Gap.Before (gap : Gap) (t : Text) : Prop where
  kept : gap.broken = true → gap.firstBreak.head? ≠ some '\n'
  space : gap.broken = true → t.head? ≠ some ' '
  blanks : gap.broken = false → t.head?.any isBreak = true → gap.blanks = []

theorem Gap.before_empty (t : Text) : Gap.Before {} t := ⟨nofun, nofun, fun _ _ => rfl⟩

theorem hasPair_cons (before after : Char → Bool) (c : Char) (t : Text) :
    hasPair before after (c :: t) =
      (before c && t.head?.any after || hasPair before after t) := by
  cases t with
  | nil => simp [hasPair]
  | cons d t => rfl

theorem Gap.Before.push_break (h : gap.Before (c :: t)) (hc : isBreak c = true) (hline : c ≠ '\n')
    (ht : t.head? ≠ some ' ') : (gap.push c).Before t ∧ (gap.push c).broken = true ∧
      (gap.push c).text = gap.text ++ [c] := by
  rw [Gap.push, if_pos hc]
  cases hbroken : gap.broken with
  | true =>
    have hkept := h.kept hbroken
    rw [if_pos rfl]
    exact ⟨⟨fun _ => hkept, fun _ => ht, nofun⟩, rfl, by simp [Gap.text, hbroken, Gap.fold, hkept]⟩
  | false =>
    have hblanks := h.blanks hbroken hc
    rw [if_neg Bool.false_ne_true]
    exact ⟨⟨fun _ => by simpa using hline, fun _ => ht, nofun⟩, rfl,
      by simp [Gap.text, hbroken, Gap.fold, hline, hblanks]⟩

theorem Gap.push_space (hbroken : gap.broken = false) (ht : t.head?.any isBreak = false) :
    (gap.push ' ').Before t ∧ (gap.push ' ').broken = false ∧
      (gap.push ' ').text = gap.text ++ [' '] := by
  rw [Gap.push, if_neg (by decide), if_neg (by simp [hbroken])]
  exact ⟨⟨by simp [hbroken], by simp [hbroken], by simp [ht]⟩, hbroken, by simp [Gap.text, hbroken]⟩

def ReadsSingle (margin : Nat) (rest t : Text) : Prop :=
  ∀ (gap : Gap) (l col : Nat), gap.Before t → (gap.broken = false → col ≠ 0) →
    ∃ l' col', l ≤ l' ∧ readQuoted '\'' gap 0
      (spotsFrom l col (indentLines margin (!gap.broken) (t.flatMap doubled ++ ['\'']) ++ rest)) =
        .ok (gap.text ++ t, spotsFrom l' col' rest)

section Single

variable {margin : Nat}

theorem readsSingle_nil (hmargin : margin ≠ 0) (hrest : rest.head? ≠ some '\'') :
    ReadsSingle margin rest [] := by
  intro gap l col _ hcol
  obtain ⟨col', hcol', hstart⟩ :=
    exists_readQuoted_margin (l := l) (c := '\'') rfl hmargin hcol '\'' [] rest
  refine ⟨l, col' + 1, Nat.le_refl l, ?_⟩
  rw [List.flatMap_nil, List.nil_append, hstart, List.append_nil]
  exact readQuoted_close hcol' hrest

theorem ReadsSingle.break (h : ReadsSingle margin rest t) (hc : isBreak c = true) (hline : c ≠ '\n')
    (ht : t.head? ≠ some ' ') : ReadsSingle margin rest (c :: t) := by
  intro gap l col hgap _
  obtain ⟨hbefore, hbroken, htext⟩ := hgap.push_break hc hline ht
  obtain ⟨l', col', hl, hread⟩ := h (gap.push c) (l + 1) 0 hbefore (by simp [hbroken])
  have hdoubled : doubled c = [c] := by
    rw [doubled, if_neg]
    rintro rfl
    cases hc
  rw [hbroken, Bool.not_true, htext] at hread
  refine ⟨l', col', by omega, ?_⟩
  rw [List.flatMap_cons, hdoubled, List.singleton_append, List.cons_append, indentLines_break hc,
    List.cons_append, spotsFrom_break hc, readQuoted_white (by simp [isWhite, hc]), hread]
  simp

theorem ReadsSingle.space (h : ReadsSingle margin rest t) (ht : t.head?.any isBreak = false) :
    ReadsSingle margin rest (' ' :: t) := by
  intro gap l col hgap hcol
  have hbroken : gap.broken = false := by
    simpa using hgap.space
  obtain ⟨hbefore, hpush, htext⟩ := Gap.push_space hbroken ht
  obtain ⟨l', col', hl, hread⟩ := h (gap.push ' ') l (col + 1) hbefore (by simp)
  rw [hpush, Bool.not_false, htext] at hread
  refine ⟨l', col', hl, ?_⟩
  rw [hbroken, Bool.not_false, List.flatMap_cons, show doubled ' ' = [' '] from rfl,
    List.singleton_append, List.cons_append, indentLines_inside rfl, List.cons_append,
    spotsFrom_cons rfl, readQuoted_white rfl, hread]
  simp

theorem ReadsSingle.solid (h : ReadsSingle margin rest t) (hmargin : margin ≠ 0)
    (hc : isWhite c = false) (hend : c ≠ endMark) : ReadsSingle margin rest (c :: t) := by
  intro gap l col _ hcol
  have hbreak := isBreak_of_isWhite hc
  by_cases hquote : c = '\''
  · subst hquote
    obtain ⟨col', hcol', hstart⟩ := exists_readQuoted_margin (l := l) (c := '\'') rfl hmargin hcol
      '\'' ('\'' :: (t.flatMap doubled ++ ['\''])) rest
    obtain ⟨l', col'', hl, hread⟩ := h {} l (col' + 2) (Gap.before_empty t) (by simp)
    refine ⟨l', col'', hl, ?_⟩
    rw [List.flatMap_cons, show doubled '\'' = ['\'', '\''] from rfl]
    refine hstart.trans ?_
    rw [indentLines_inside rfl, List.cons_append]
    exact readQuoted_quote hcol' hread
  · obtain ⟨col', hcol', hstart⟩ := exists_readQuoted_margin (l := l) hbreak hmargin hcol
      '\'' (t.flatMap doubled ++ ['\'']) rest
    obtain ⟨l', col'', hl, hread⟩ := h {} l (col' + 1) (Gap.before_empty t) (by simp)
    refine ⟨l', col'', hl, ?_⟩
    rw [List.flatMap_cons, doubled, if_neg hquote]
    refine hstart.trans ?_
    exact readQuoted_solid hc hend hcol' hquote nofun hread

theorem readsSingle (hmargin : margin ≠ 0) (hprintable : ∀ c ∈ t, isPrintable c = true)
    (hline : '\n' ∉ t) (hspace : hasPair (· == ' ') isBreak t = false)
    (hbreak : hasPair isBreak (· == ' ') t = false) (hrest : rest.head? ≠ some '\'') :
    ReadsSingle margin rest t := by
  induction t with
  | nil => exact readsSingle_nil hmargin hrest
  | cons c t ih =>
    obtain ⟨hc, hprintable⟩ := List.forall_mem_cons.mp hprintable
    rw [List.mem_cons, not_or] at hline
    rw [hasPair_cons, Bool.or_eq_false_iff] at hspace hbreak
    have ht := ih hprintable hline.2 hspace.2 hbreak.2
    cases hcbreak : isBreak c with
    | true =>
      have hnext : t.head? ≠ some ' ' := by
        intro hhead
        simp [hcbreak, hhead] at hbreak
      exact ht.break hcbreak (Ne.symm hline.1) hnext
    | false =>
      cases hwhite : isWhite c with
      | true =>
        obtain rfl := eq_space hc hcbreak hwhite
        exact ht.space (by simpa using hspace.1)
      | false => exact ht.solid hmargin hwhite (ne_endMark hc)

end Single

end Refit.Yaml
