import Refit.Proofs.Call.Taking

namespace Refit.Call

open Text (Cut Piece)

variable {m type : Token} {o : Option Char} {t u k blanks inner x y : Text} {call : Call}
  {ps : List (Piece Call)} {f : Text → Text}

def withArguments (f : Text → Text) (c : Call) : Call := { c with arguments := f c.arguments }

def rewritten (f : Text → Text) (ps : List (Piece Call)) : Text :=
  ps.flatMap (Piece.render fun c => (withArguments f c).text)

@[simp] theorem rewritten_nil : rewritten f [] = [] := rfl

@[simp] theorem rewritten_gap (c : Char) : rewritten f (.gap c :: ps) = c :: rewritten f ps := rfl

@[simp] theorem rewritten_hit :
    rewritten f (.hit call :: ps) = call.head ++ (f call.arguments ++ ')' :: rewritten f ps) := by
  simp [rewritten, Piece.render, withArguments, text]

theorem flatArguments?_append (h : '(' ∈ u) (x y : Text) :
    flatArguments? (u ++ x) = flatArguments? (u ++ y) := by
  induction u with
  | nil => cases h
  | cons c u ih =>
    simp only [List.cons_append, flatArguments?]
    split
    · rfl
    · split
      · rfl
      · next hc =>
        rw [ih ((List.mem_cons.mp h).resolve_left (Ne.symm hc))]

theorem Opens.mem_head (h : Opens m blanks call) : '(' ∈ call.head := by simp [h.head_eq]

theorem opens_of_flat {s : Text} (h : flat m o s = some (call.text.length, call)) :
    ∃ blanks, IsFlat m blanks call := by
  obtain ⟨-, blanks, -, hflat, -⟩ := flat_eq_some_iff.mp h
  exact ⟨blanks, hflat⟩

theorem isSome_flatArguments?_of_rewritten (hcut : Cut (flat m) text o t ps)
    (h : (flatArguments? (rewritten f ps)).isSome) : (flatArguments? t).isSome := by
  induction hcut with
  | nil => exact h
  | gap _ _ ih =>
    rw [rewritten_gap, flatArguments?] at h
    rw [flatArguments?]
    split
    · rfl
    · split
      · simp_all
      · simp_all
  | @hit _ call t ps _ hfound =>
    obtain ⟨blanks, hflat⟩ := opens_of_flat hfound
    rw [rewritten_hit, flatArguments?_append hflat.mem_head _ (call.arguments ++ ')' :: t)] at h
    simpa [text] using h

theorem Opens.eq_nil_of_suffix {blanks' w : Text} {call' : Call} (h : Opens m blanks call)
    (h' : Opens m blanks' call') (hw : call.head ++ w <:+ call'.head) : w = [] := by
  rcases List.eq_nil_or_concat w with rfl | ⟨w, c, rfl⟩
  · rfl
  · obtain ⟨z, hz⟩ := hw
    have hz : m.literal ++ blanks' ++ ['('] =
        (z ++ m.literal ++ blanks ++ '(' :: w) ++ [c] := by
      simpa [h.head_eq, h'.head_eq] using hz.symm
    have hparts := (List.append_inj' hz rfl).1
    rcases Text.behind_or_within hparts with ⟨r, -, hr⟩ | ⟨r, hr, hm, -⟩
    · have := h'.blank '(' (by simp [hr])
      simp [isBlank] at this
    · have := congrArg List.length hm
      have := List.length_pos_iff.mpr hr
      simp at *
      omega

theorem exists_of_rewritten (hcut : Cut (flat m) text o t ps) (h : Opens m blanks call)
    (hk : k <:+ call.head) (hs : rewritten f ps = k ++ inner)
    (hargs : (flatArguments? inner).isSome) :
    ∃ inner', t = k ++ inner' ∧ (flatArguments? inner').isSome := by
  induction hcut generalizing k with
  | nil =>
    obtain ⟨-, rfl⟩ := List.append_eq_nil_iff.mp hs.symm
    cases hargs
  | @gap o c t ps hgap hcut ih =>
    cases k with
    | nil =>
      refine ⟨c :: t, rfl, isSome_flatArguments?_of_rewritten (hcut.gap hgap) (f := f) ?_⟩
      rwa [hs]
    | cons d k =>
      simp only [rewritten_gap, List.cons_append, List.cons.injEq] at hs
      obtain ⟨inner', rfl, hinner⟩ := ih ((List.suffix_cons d k).trans hk) hs.2
      exact ⟨inner', by simp [hs.1], hinner⟩
  | @hit _ found t ps _ hfound =>
    obtain ⟨blanks', hflat⟩ := opens_of_flat hfound
    rw [rewritten_hit] at hs
    rcases Text.behind_or_within hs with ⟨w, rfl, -⟩ | ⟨w, hw, hhead, rfl⟩
    · obtain rfl := hflat.eq_nil_of_suffix h hk
      refine ⟨found.arguments ++ ')' :: t, by simp [text], ?_⟩
      rw [flatArguments?_eq_some_iff.mpr ⟨t, rfl, hflat.opens, hflat.closes⟩]
      rfl
    · refine ⟨w ++ (found.arguments ++ ')' :: t), by simp [text, hhead], ?_⟩
      have hlast : w.getLast? = some '(' := by
        have := congrArg List.getLast? hhead
        rw [List.getLast?_append_of_ne_nil k hw, hflat.head_eq] at this
        simpa using this.symm
      rwa [flatArguments?_append (List.mem_of_getLast? hlast)] at hargs

theorem flat_rewritten_eq_none (hcut : Cut (flat m) text o t ps) (h : flat m o t = none) :
    flat m o (rewritten f ps) = none :=
  finder_eq_none_of_heads h fun _ _ _ hopens hs hargs =>
    exists_of_rewritten hcut hopens List.suffix_rfl hs hargs

theorem IsFlat.withArguments (h : IsFlat m blanks call)
    (hf : ∀ args, '(' ∉ args → ')' ∉ args → '(' ∉ f args ∧ ')' ∉ f args) :
    IsFlat m blanks (call.withArguments f) where
  head_eq := h.head_eq
  blank := h.blank
  opens := (hf _ h.opens h.closes).1
  closes := (hf _ h.opens h.closes).2

theorem cut_rewritten (hcut : Cut (flat m) text o t ps)
    (hf : ∀ args, '(' ∉ args → ')' ∉ args → '(' ∉ f args ∧ ')' ∉ f args) :
    Cut (flat m) text o (rewritten f ps) (ps.map (Piece.map (withArguments f))) := by
  induction hcut with
  | nil => exact .nil
  | gap hgap hcut ih =>
    have hnone := flat_rewritten_eq_none (hcut.gap hgap) hgap (f := f)
    rw [rewritten_gap] at hnone ⊢
    exact .gap hnone ih
  | @hit _ found t ps _ hfound _ ih =>
    obtain ⟨-, blanks, -, hflat, -, hfit⟩ := flat_eq_some_iff.mp hfound
    change Cut _ _ _ ((found.withArguments f).text ++ rewritten f ps) _
    refine .hit (by simp [text]) ?_ ?_
    · exact flat_eq_some_iff.mpr ⟨rfl, blanks, _, hflat.withArguments hf, rfl, hfit⟩
    · simpa [text] using ih

theorem replaceHits_eq_rewritten (f : Text → Text) (t : Text) :
    Text.replaceHits (flat m) (fun c => (c.withArguments f).text) t =
      rewritten f (Text.pieces (flat m) t) := Text.replaceHits_eq ..

theorem hits_replaceHits (hf : ∀ args, '(' ∉ args → ')' ∉ args → '(' ∉ f args ∧ ')' ∉ f args)
    (t : Text) :
    Text.hits (flat m) (Text.replaceHits (flat m) (fun c => (c.withArguments f).text) t) =
      (Text.hits (flat m) t).map (withArguments f) := by
  have hcut := cut_rewritten (Text.cut_pieces (flat_spells m) t) hf
  have hmap : ∀ p : Piece Call, (p.map (withArguments f)).hit? = p.hit?.map (withArguments f) := by
    rintro (_ | _) <;> rfl
  rw [replaceHits_eq_rewritten, Text.hits_eq, Text.hits_eq, Text.pieces, hcut.piecesFrom_eq,
    List.filterMap_map, List.map_filterMap]
  exact List.filterMap_congr fun p _ => hmap p

theorem IsFlat.occursIn_of_close {rest : Text} (h : IsFlat m blanks call)
    (htype : type.occursIn call.arguments = true)
    (hs : call.arguments ++ ')' :: y = u ++ ')' :: rest) : type.occursIn u = true := by
  have hclose : ')' ∉ type.literal := fun hc => h.closes ((Token.occursIn_infix htype).subset hc)
  rcases Text.here_or_later h.closes hs with ⟨rfl, -⟩ | ⟨r, rfl, -⟩
  · exact htype
  · rw [Token.occursIn_append_cons hclose (by decide), htype, Bool.true_or]

theorem IsFlat.not_occursIn_of_cut (hcut : Cut (flat m) text o t ps) (h : IsFlat m blanks call)
    (hopen : '(' ∉ m.literal) (hclose : ')' ∉ m.literal)
    (hf : ∀ args, type.occursIn (f args) = false)
    (hs : rewritten f ps = x ++ (call.text ++ y))
    (hfit : m.fits (x.getLast?.or o) (blanks ++ ['(']).head? = true) :
    type.occursIn call.arguments = false := by
  induction hcut generalizing x with
  | nil => simp [text] at hs
  | @gap o c t ps hgap hcut ih =>
    cases x with
    | nil =>
      have hnone := flat_rewritten_eq_none (hcut.gap hgap) hgap (f := f)
      have hfound := flat_eq_some_iff.mpr ⟨rfl, blanks, y, h, rfl, hfit⟩
      rw [hs, List.nil_append] at hnone
      rw [List.getLast?_nil, Option.none_or, hnone] at hfound
      cases hfound
    | cons d x =>
      simp only [rewritten_gap, List.cons_append, List.cons.injEq] at hs
      rw [Text.getLast?_cons_or, ← hs.1] at hfit
      exact ih hs.2 hfit
  | @hit o found t ps _ hfound _ ih =>
    obtain ⟨blanks', hfound⟩ := opens_of_flat hfound
    have hopen := not_mem_append_blanks hopen (by decide) hfound.blank
    have hclose := not_mem_append_blanks hclose (by decide) h.blank
    by_contra htype
    rw [Bool.not_eq_false] at htype
    have hparts : (m.literal ++ blanks') ++ '(' :: (f found.arguments ++ ')' :: rewritten f ps) =
        (x ++ (m.literal ++ blanks)) ++ '(' :: (call.arguments ++ ')' :: y) := by
      simpa [h.text_eq, hfound.head_eq] using hs
    rcases Text.here_or_later hopen hparts with ⟨-, hargs⟩ | ⟨q, hq, hqy⟩
    · simpa [hf] using h.occursIn_of_close htype hargs
    · rcases Text.behind_or_within hqy with ⟨r, rfl, hr⟩ | ⟨r, hne, hargs, hr⟩
      · -- The call stands behind the one that was found.
        cases r with
        | nil => simp at hr
        | cons d r =>
          simp only [List.cons_append, List.cons.injEq] at hr
          obtain ⟨rfl, hr⟩ := hr
          have hbefore : x ++ (m.literal ++ blanks) ++ [] =
              (m.literal ++ blanks' ++ '(' :: f found.arguments) ++ ')' :: r := by
            simpa using hq
          rcases Text.behind_or_before hclose hbefore with ⟨j, -, hj⟩ | ⟨j, rfl, rfl⟩
          · simp at hj
          · have hlast : found.text.getLast? = some ')' := by simp [text]
            rw [List.getLast?_append, Option.or_assoc, Text.getLast?_cons_or, ← hlast] at hfit
            simp [ih (x := j) (by simp [hr, h.text_eq]) hfit] at htype
      · -- The call stands in the new arguments of the one that was found.
        obtain ⟨d, r, rfl⟩ := List.exists_cons_of_ne_nil hne
        simp only [List.cons_append, List.cons.injEq] at hr
        obtain ⟨rfl, hr⟩ := hr
        have hopen : '(' ∉ type.literal := fun hc =>
          h.opens ((Token.occursIn_infix htype).subset hc)
        have hnone := hf found.arguments
        rw [hargs, Token.occursIn_append_cons hopen (by decide), h.occursIn_of_close htype hr,
          Bool.or_true] at hnone
        cases hnone

theorem not_takes_replaceHits (hopen : '(' ∉ m.literal) (hclose : ')' ∉ m.literal)
    (hf : ∀ args, type.occursIn (f args) = false) (t : Text) :
    ¬ Takes m type (Text.replaceHits (flat m) (fun c => (c.withArguments f).text) t) := by
  rintro ⟨x, y, blanks, call, hflat, hxy, hfit, htype⟩
  rw [replaceHits_eq_rewritten] at hxy
  have hcut := Text.cut_pieces (flat_spells m) t
  rw [hflat.not_occursIn_of_cut hcut hopen hclose hf hxy (by simpa using hfit)] at htype
  cases htype

end Refit.Call

namespace Refit.Rule.Retyping

open Call (Plain Takes)

variable {r : Retyping} {m : Token}

theorem not_takes_applyToCalls (hopen : '(' ∉ m.literal) (hclose : ')' ∉ m.literal)
    (hr : ∀ args, r.token.occursIn (r.apply args) = false) (t : Text) :
    ¬ Takes m r.token (r.applyToCalls m t) :=
  Call.not_takes_replaceHits hopen hclose hr t

theorem Generic.not_takes_applyToCalls (hr : r.Generic) (hm : Plain m) (t : Text) :
    ¬ Takes m r.token (r.applyToCalls m t) :=
  Retyping.not_takes_applyToCalls (hm.not_mem (by decide)) (hm.not_mem (by decide))
    (Token.not_occursIn_replaceIn hr.toAlike hr.apart) t

end Refit.Rule.Retyping
