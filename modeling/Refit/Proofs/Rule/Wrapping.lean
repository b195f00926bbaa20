import Refit.Proofs.Call.Nesting
import Refit.Proofs.Rule.Settling

/-! An argument with parentheses in it is too deep to be read once it is wrapped, so its call is not
found again, and calls are found in the argument instead. A wrapping settles exactly where there is
nothing to wrap in these. -/

namespace Refit.Rule

open Call (Bare Closed IsNested OneDeep Opens nested nestedArguments?)
open Text (Cut Piece here_or_later)

variable {m : Token} {adapter args t w k inner blanks : Text} {o : Option Char} {call : Call}
  {ps : List (Piece Call)} {r : Rule}

theorem exists_of_wrapped? (ha : Bare adapter) (hargs : OneDeep args)
    (h : wrapped? adapter args = some w) : ∃ u arg v, Bare u ∧ OneDeep arg ∧ Bare v ∧
      w = u ++ '(' :: (arg ++ ')' :: v) ∧ ('(' ∈ args → '(' ∈ arg) ∧ (Bare args → Bare arg) := by
  obtain ⟨hne, rfl⟩ := wrapped?_eq_some h
  have hlead := Bare.of_blank (Text.blank_leadingBlanks args)
  have htail := Bare.of_blank (Text.blank_trailingBlanks args)
  have hparts := Text.parts_eq hne
  refine ⟨_, Text.trim args, _, hlead.append ha, ?_, htail, rfl, ?_, ?_⟩
  · rw [← hparts] at hargs
    exact (hargs.of_bare_append hlead).of_append_bare htail
  · intro ho
    rw [← hparts] at ho
    simpa [hlead.opens, htail.opens] using ho
  · intro hbare
    rw [← hparts] at hbare
    exact hbare.of_append.2.of_append.1

theorem oneDeep_of_wrapped? (ha : Bare adapter) (hargs : Bare args)
    (h : wrapped? adapter args = some w) : OneDeep w := by
  obtain ⟨u, arg, v, hu, -, hv, rfl, -, hbare⟩ := exists_of_wrapped? ha (.bare hargs) h
  exact .group hu (hbare hargs) (.bare hv)

theorem closed_of_wrapped? (ha : Bare adapter) (hargs : OneDeep args)
    (h : wrapped? adapter args = some w) : Closed w := by
  obtain ⟨u, arg, v, hu, harg, hv, rfl, -, -⟩ := exists_of_wrapped? ha hargs h
  exact .of_group hu harg hv

theorem not_read_inside_of_wrapped? (ha : Bare adapter) (hargs : OneDeep args)
    (h : wrapped? adapter args = some w) (rest : Text) :
    nestedArguments? true (w ++ rest) = none := by
  obtain ⟨u, arg, v, hu, -, -, rfl, -, -⟩ := exists_of_wrapped? ha hargs h
  rw [List.append_assoc, Call.nestedArguments?_bare hu]
  rfl

theorem not_read_of_wrapped? (ha : Bare adapter) (hargs : OneDeep args) (ho : '(' ∈ args)
    (h : wrapped? adapter args = some w) (rest : Text) :
    nestedArguments? false (w ++ rest) = none := by
  obtain ⟨u, arg, v, hu, harg, -, rfl, hopen, -⟩ := exists_of_wrapped? ha hargs h
  rw [List.append_assoc, Call.nestedArguments?_bare hu, List.cons_append, List.append_assoc]
  simp [nestedArguments?, harg.not_read_inside (hopen ho)]

theorem wrapped?_wrapped (hadapter : Text.trim adapter = adapter) (hne : adapter ≠ [])
    (h : wrapped? adapter args = some w) : wrapped? adapter w = none := by
  obtain ⟨-, rfl⟩ := wrapped?_eq_some h
  obtain ⟨c, a, rfl⟩ := List.exists_cons_of_ne_nil hne
  have htrim := Text.trim_parts (w := a ++ '(' :: Text.trim args)
    (Text.blank_leadingBlanks args) (Text.blank_trailingBlanks args)
    (Text.isBlank_of_trim hadapter) (show isBlank ')' = false by decide)
  have harg : Text.trim (Text.leadingBlanks args ++ (c :: a) ++
      '(' :: (Text.trim args ++ ')' :: Text.trailingBlanks args)) =
      (c :: a ++ ['(']) ++ (Text.trim args ++ [')']) := by
    simpa using htrim
  rw [wrapped?, if_pos]
  rw [harg]
  simp

def rewritten (adapter : Text) (ps : List (Piece Call)) : Text :=
  ps.flatMap (Piece.render (wrapCall adapter))

@[simp] theorem rewritten_gap (adapter : Text) (c : Char) (ps : List (Piece Call)) :
    rewritten adapter (.gap c :: ps) = c :: rewritten adapter ps := rfl

theorem rewritten_kept (h : wrapped? adapter call.arguments = none) (ps : List (Piece Call)) :
    rewritten adapter (.hit call :: ps) = call.text ++ rewritten adapter ps := by
  simp [rewritten, Piece.render, wrapCall, h]

theorem rewritten_wrapped (h : wrapped? adapter call.arguments = some w) (ps : List (Piece Call)) :
    rewritten adapter (.hit call :: ps) = call.head ++ (w ++ ')' :: rewritten adapter ps) := by
  simp [rewritten, Piece.render, wrapCall, h, Call.text]

theorem isNested_of_cut {s : Text}
    (h : nested m o (call.text ++ s) = some (call.text.length, call)) :
    ∃ blanks, IsNested m blanks call ∧ m.fits o (blanks ++ ['(']).head? = true := by
  obtain ⟨-, blanks, -, hnested, -, hfit⟩ := Call.nested_eq_some_iff.mp h
  exact ⟨blanks, hnested, hfit⟩

section Found

variable (hm : Bare m.literal) (ha : Bare adapter)
include hm ha

theorem isSome_of_rewritten (hcut : Cut (nested m) Call.text o t ps) {inside : Bool}
    (h : (nestedArguments? inside (rewritten adapter ps)).isSome) :
    (nestedArguments? inside t).isSome := by
  induction hcut generalizing inside with
  | nil => exact h
  | gap _ _ ih => exact Call.isSome_nestedArguments?_cons _ (fun _ => ih) h
  | @hit o call s ps _ hfound _ ih =>
    obtain ⟨blanks, hcall, -⟩ := isNested_of_cut hfound
    rw [Call.text, List.append_assoc, List.append_assoc, List.singleton_append,
      hcall.isSome_read hm]
    cases hw : wrapped? adapter call.arguments with
    | none =>
      rw [rewritten_kept hw, Call.text, List.append_assoc, List.append_assoc,
        List.singleton_append, hcall.isSome_read hm] at h
      refine ⟨h.1, ?_⟩
      by_cases ho : '(' ∈ call.arguments
      · simp [hcall.oneDeep.not_read_inside ho] at h
      · have hbare := hcall.oneDeep.bare_of_not_mem ho
        rw [Call.read_inside hbare, Option.isSome_map] at h ⊢
        exact ih h.2
    | some w =>
      rw [rewritten_wrapped hw, hcall.isSome_read hm,
        not_read_inside_of_wrapped? ha hcall.oneDeep hw] at h
      cases h.2

theorem exists_of_rewritten (hcut : Cut (nested m) Call.text o t ps) (hcall : Opens m blanks call)
    (hk : k <:+ call.head) (hs : rewritten adapter ps = k ++ inner)
    (hargs : (nestedArguments? false inner).isSome) :
    ∃ inner', t = k ++ inner' ∧ (nestedArguments? false inner').isSome := by
  induction hcut generalizing k with
  | nil =>
    obtain ⟨-, rfl⟩ := List.append_eq_nil_iff.mp hs.symm
    cases hargs
  | @gap o c s ps hgap hcut ih =>
    cases k with
    | nil =>
      refine ⟨c :: s, rfl, isSome_of_rewritten hm ha (hcut.gap hgap) ?_⟩
      rwa [hs]
    | cons d k =>
      simp only [rewritten_gap, List.cons_append, List.cons.injEq] at hs
      obtain ⟨inner', rfl, hinner⟩ := ih ((List.suffix_cons d k).trans hk) hs.2
      exact ⟨inner', by simp [hs.1], hinner⟩
  | @hit o found s ps hne hfound hcut _ =>
    by_cases hknil : k = []
    · subst hknil
      refine ⟨_, rfl, isSome_of_rewritten hm ha (.hit hne hfound hcut) ?_⟩
      rwa [hs]
    · obtain ⟨blanks', hnested, -⟩ := isNested_of_cut hfound
      -- Wrapped or not, the call begins with its head.
      obtain ⟨X, hX⟩ : ∃ X, rewritten adapter (.hit found :: ps) = found.head ++ X := by
        cases hw : wrapped? adapter found.arguments with
        | none =>
          exact ⟨_, by rw [rewritten_kept hw, Call.text, List.append_assoc, List.append_assoc]⟩
        | some w => exact ⟨_, rewritten_wrapped hw ps⟩
      obtain ⟨rfl, -⟩ := hnested.eq_head hm hcall hk hknil (hX.symm.trans hs)
      refine ⟨found.arguments ++ ')' :: s, by simp [Call.text], ?_⟩
      rw [hnested.oneDeep.read]
      rfl

theorem nested_rewritten_eq_none (hcut : Cut (nested m) Call.text o t ps)
    (h : nested m o t = none) : nested m o (rewritten adapter ps) = none :=
  Call.finder_eq_none_of_heads h fun _ _ _ hopens hs hargs =>
    exists_of_rewritten hm ha hcut hopens List.suffix_rfl hs hargs

end Found

theorem pieces_head (hm : Bare m.literal) (hcall : Opens m blanks call)
    (h : nestedArguments? false inner = none) :
    Text.piecesFrom (nested m) o 0 (call.head ++ inner) =
      call.head.map .gap ++ Text.piecesFrom (nested m) none 0 inner := by
  have hnone : ∀ x c y, call.head = x ++ c :: y →
      nested m (x.getLast?.or o) (c :: (y ++ inner)) = none := by
    intro x c y hhead
    rw [Option.eq_none_iff_forall_ne_some]
    rintro ⟨n, found⟩ hfound
    obtain ⟨-, blanks', inner', hopens, ht, hargs, -⟩ := Call.finder_eq_some_iff.mp hfound
    obtain ⟨-, rfl⟩ := hopens.eq_head hm hcall ⟨x, hhead.symm⟩ (List.cons_ne_nil c y) ht.symm
    rw [h] at hargs
    cases hargs
  have hlast : call.head.getLast?.or o = some '(' := by simp [hcall.head_eq]
  rw [Text.piecesFrom_gaps hnone, hlast]
  exact congrArg _ (Text.piecesFrom_congr (Call.nested_congr (by decide)) inner)

def rewrap (m : Token) (adapter : Text) : Piece Call → List (Piece Call)
  | .gap c => [.gap c]
  | .hit call =>
    match wrapped? adapter call.arguments with
    | none => [.hit call]
    | some w =>
      if '(' ∈ call.arguments then
        call.head.map .gap ++ Text.pieces (nested m) w ++ [.gap ')']
      else [.hit { call with arguments := w }]

theorem pieces_rewritten (hm : Bare m.literal) (ha : Bare adapter)
    (hcut : Cut (nested m) Call.text o t ps) :
    Text.piecesFrom (nested m) o 0 (rewritten adapter ps) = ps.flatMap (rewrap m adapter) := by
  induction hcut with
  | nil => rfl
  | @gap o c s ps hgap hcut ih =>
    have hnone := nested_rewritten_eq_none hm ha (hcut.gap hgap) hgap
    rw [rewritten_gap] at hnone ⊢
    rw [Text.piecesFrom, hnone]
    exact congrArg (.gap c :: ·) ih
  | @hit o call s ps hne hfound _ ih =>
    obtain ⟨blanks, hcall, hfit⟩ := isNested_of_cut hfound
    have hlast (args : Text) : (⟨call.head, args⟩ : Call).text.getLast? = some ')' := by
      simp [Call.text]
    rw [List.flatMap_cons, rewrap]
    rw [hlast call.arguments] at ih
    cases hw : wrapped? adapter call.arguments with
    | none =>
      have hkept : nested m o (call.text ++ rewritten adapter ps) = some (call.text.length, call) :=
        Call.nested_eq_some_iff.mpr ⟨rfl, blanks, _, hcall, rfl, hfit⟩
      rw [rewritten_kept hw, Text.piecesFrom_hit hne hkept, hlast call.arguments, ih]
      rfl
    | some w =>
      rw [rewritten_wrapped hw]
      -- A call with parentheses in its argument is none any more: they are two deep now.
      by_cases ho : '(' ∈ call.arguments
      · have hdeep := not_read_of_wrapped? ha hcall.oneDeep ho hw
        rw [pieces_head hm hcall.toOpens (hdeep _), Call.pieces_append_close hm
          (closed_of_wrapped? ha hcall.oneDeep hw), ih]
        simp [ho, Text.pieces]
      · have hbare := hcall.oneDeep.bare_of_not_mem ho
        have hfound : nested m o ((⟨call.head, w⟩ : Call).text ++ rewritten adapter ps) =
            some ((⟨call.head, w⟩ : Call).text.length, ⟨call.head, w⟩) :=
          Call.nested_eq_some_iff.mpr ⟨rfl, blanks, _, ⟨⟨hcall.head_eq, hcall.blank⟩,
            oneDeep_of_wrapped? ha hbare hw⟩, rfl, hfit⟩
        have htext : call.head ++ (w ++ ')' :: rewritten adapter ps) =
            (⟨call.head, w⟩ : Call).text ++ rewritten adapter ps := by
          simp [Call.text]
        rw [htext, Text.piecesFrom_hit (by simp [Call.text]) hfound, hlast w, ih]
        simp [ho]

theorem applies_iff : (wrapArgument m adapter).applies t = true ↔
    ∃ c, .hit c ∈ Text.pieces (nested m) t ∧ ∃ w, wrapped? adapter c.arguments = some w := by
  have happ : (wrapArgument m adapter).applies t =
      (Text.hits (nested m) t).any fun c => (wrapped? adapter c.arguments).isSome := rfl
  simp only [happ, List.any_eq_true, Text.mem_hits, Option.isSome_iff_exists]

theorem applies_rewritten_iff (hm : Bare m.literal) (ha : Bare adapter)
    (hadapter : Text.trim adapter = adapter) (hne : adapter ≠ []) (t : Text) :
    (wrapArgument m adapter).applies (Text.replaceHits (nested m) (wrapCall adapter) t) = true ↔
      ∃ c ∈ Text.hits (nested m) t, ∃ w, wrapped? adapter c.arguments = some w ∧
        '(' ∈ c.arguments ∧ (wrapArgument m adapter).applies w = true := by
  have hpieces := pieces_rewritten hm ha (Text.cut_pieces (Call.nested_spells m) t)
  rw [← Text.pieces] at hpieces
  rw [applies_iff, Text.replaceHits_eq, ← rewritten, hpieces]
  simp only [List.mem_flatMap, Text.mem_hits]
  constructor
  · rintro ⟨d, ⟨p, hp, hd⟩, v, hv⟩
    cases p with
    | gap c => simp [rewrap] at hd
    | hit c =>
      rw [rewrap] at hd
      cases hw : wrapped? adapter c.arguments with
      | none =>
        obtain rfl : d = c := by simpa [hw] using hd
        simp [hw] at hv
      | some w =>
        by_cases ho : '(' ∈ c.arguments
        · refine ⟨c, hp, w, hw, ho, applies_iff.mpr ⟨d, ?_, v, hv⟩⟩
          simpa [hw, ho] using hd
        · obtain rfl : d = { c with arguments := w } := by simpa [hw, ho] using hd
          simp [wrapped?_wrapped hadapter hne hw] at hv
  · rintro ⟨c, hc, w, hw, ho, happ⟩
    obtain ⟨d, hd, v, hv⟩ := applies_iff.mp happ
    refine ⟨d, ⟨.hit c, hc, ?_⟩, v, hv⟩
    simp [rewrap, hw, ho, hd]

theorem settles_wrapArgument_iff : (wrapArgument m adapter).Settles t ↔
    (wrapArgument m adapter).applies (Text.replaceHits (nested m) (wrapCall adapter) t) =
      false := by
  constructor
  · rintro ⟨o, ho, -, hnot⟩
    rwa [← Except.ok.inj ho] at hnot
  · exact fun h => ⟨_, rfl, (wrapArgument_exact m adapter).idle _ h, h⟩

/-- A wrapping settles on a text exactly if there is nothing to wrap in the new arguments of the
calls that have parentheses in their argument. -/
theorem wrapping_settles_iff {method adapter : Text} (h : wrapArgument? method adapter = .ok r)
    (hm : Bare method) (ha : Bare adapter) (t : Text) :
    r.Settles t ↔ ∀ c ∈ Text.hits (nested ⟨method⟩) t, ∀ w,
      wrapped? (Text.trim adapter) c.arguments = some w → '(' ∈ c.arguments →
        r.applies w = false := by
  rw [wrapArgument?] at h
  split at h
  · cases h
  · next hne =>
    cases h
    have ha : Bare (Text.trim adapter) :=
      ⟨fun hc => ha.opens (Text.mem_of_mem_trim hc), fun hc => ha.closes (Text.mem_of_mem_trim hc)⟩
    rw [settles_wrapArgument_iff, ← Bool.not_eq_true,
      applies_rewritten_iff hm ha (Text.trim_trim adapter) hne]
    simp only [not_exists, not_and, Bool.not_eq_true]

theorem wrapping_settles_slice : ∃ r,
    wrapArgument? "write".toList " Bytes.wrap".toList = .ok r ∧
    Bare "write".toList ∧ Bare " Bytes.wrap".toList ∧
    r.apply "write( a ); write(b.slice());".toList =
      .ok "write( Bytes.wrap(a) ); write(Bytes.wrap(b.slice()));".toList ∧
    r.Settles "write( a ); write(b.slice());".toList := by
  have hr : wrapArgument? "write".toList " Bytes.wrap".toList = .ok _ := rfl
  have hm : Bare "write".toList := ⟨by decide, by decide⟩
  have ha : Bare " Bytes.wrap".toList := ⟨by decide, by decide⟩
  refine ⟨_, hr, hm, ha, rfl, (wrapping_settles_iff hr hm ha _).mpr ?_⟩
  have hhits : Text.hits (nested ⟨"write".toList⟩) "write( a ); write(b.slice());".toList =
      [⟨"write(".toList, " a ".toList⟩, ⟨"write(".toList, "b.slice()".toList⟩] := by decide
  rw [hhits]
  intro c hc w hw ho
  have hc : c = ⟨"write(".toList, "b.slice()".toList⟩ := by
    rcases List.mem_pair.mp hc with rfl | rfl
    · exact absurd ho (by decide)
    · rfl
  subst hc
  obtain rfl : "Bytes.wrap(b.slice())".toList = w := Option.some.inj hw
  decide

/-- A call that stands in the argument of another one is found only when that one is wrapped. -/
theorem wrapArgument_wraps_again : ∃ r, wrapArgument? "f".toList "A".toList = .ok r ∧
    r.apply "f(f(x))".toList = .ok "f(A(f(x)))".toList ∧
    r.applies "f(A(f(x)))".toList = true ∧
    r.apply "f(A(f(x)))".toList = .ok "f(A(f(A(x))))".toList :=
  ⟨_, rfl, rfl, by decide, rfl⟩

end Refit.Rule
