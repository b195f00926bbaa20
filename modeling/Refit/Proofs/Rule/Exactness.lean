import Refit.Proofs.Call.Recognition
import Refit.Proofs.Import.Effect
import Refit.Proofs.Results
import Refit.Rule.Spec

namespace Refit

variable {l : Language} {i : Import} {needle replacement adapter args t : Text} {r : Rule}

namespace Rule

theorem settle_eq_ok {description : Text} {f : Text → Text} (h : f t = t) :
    settle description f t = .ok t := by
  simp [settle, h]

theorem eq_of_settle_eq_ok {description : Text} {f : Text → Text}
    (h : settle description f t = .ok t) : f t = t := by
  rw [settle] at h
  split at h
  · exact Except.ok.inj h
  · cases h

structure Exact (r : Rule) : Prop where
  idle : ∀ t, r.applies t = false → r.apply t = .ok t
  alters : ∀ t, r.applies t = true → r.apply t ≠ .ok t

theorem literal_exact (hne : needle ≠ []) (hr : replacement ≠ needle) :
    (literal needle replacement).Exact where
  idle t h := by
    have hnil : Text.hits (Text.literally needle) t = [] :=
      (Text.hits_literally_eq_nil_iff hne).mpr h
    exact settle_eq_ok (Text.replaceHits_eq_self (Text.literally_spells hne) hnil)
  alters t h heq := by
    refine Text.replaceHits_ne_self (Text.literally_spells hne) hr ?_ (eq_of_settle_eq_ok heq)
    intro hnil
    have : Text.hasInfix needle t = true := h
    simp [(Text.hits_literally_eq_nil_iff hne).mp hnil] at this

theorem exact_of_literal? (h : literal? needle replacement = .ok r) : r.Exact := by
  rw [literal?] at h
  split at h
  · cases h
  · next hne =>
    split at h
    · cases h
    · next hinfix =>
      split at h
      · cases h
      · cases h
        refine literal_exact hne ?_
        rintro rfl
        exact hinfix (Text.hasInfix_iff.mpr List.infix_rfl)

theorem replaceAll_eq_self_of_not_occursIn {p : Pattern} (h : p.occursIn t = false)
    (template : Text) : p.replaceAll template t = t := by
  have hnone : p.program.search none t = none := by simpa [Pattern.occursIn] using h
  simp only [Pattern.replaceAll, Pattern.pieces, Pattern.piecesFrom, hnone]
  rw [List.flatMap_map]
  exact List.flatMap_singleton' t

theorem idle_of_pattern? {source template : Text} (h : pattern? source template = .ok r)
    (ht : r.applies t = false) : r.apply t = .ok t := by
  obtain ⟨p, rfl⟩ : ∃ p, r = pattern p template := by
    cases hread : readPattern source with
    | error e => simp [pattern?, hread, bind, Except.bind] at h
    | ok p =>
      simp only [pattern?, hread, bind, Except.bind] at h
      split at h
      · cases h
      · exact ⟨p, (Except.ok.inj h).symm⟩
  exact settle_eq_ok (replaceAll_eq_self_of_not_occursIn ht template)

namespace Retyping

variable {r : Retyping} {m : Token}

theorem applyToCall_eq_text (hne : r.token.literal ≠ []) {c : Call}
    (h : r.token.occursIn c.arguments = false) : r.applyToCall c = c.text := by
  rw [applyToCall, apply, Token.replaceIn_eq_self hne h]

theorem apply_ne_self (hne : r.token.literal ≠ []) (hr : r.replacement ≠ r.token.literal)
    (h : r.token.occursIn t = true) : r.apply t ≠ t := by
  refine Text.replaceHits_ne_self (Token.finder_spells hne) hr ?_
  intro hnil
  simp [(Token.hits_finder_eq_nil_iff hne).mp hnil] at h

theorem length_apply (hne : r.token.literal ≠ []) :
    (∀ t, (r.apply t).length ≤ t.length) ∨ ∀ t, t.length ≤ (r.apply t).length := by
  have hself := Text.replaceHits_text (Token.finder_spells hne)
  rcases Nat.le_total r.replacement.length r.token.literal.length with hle | hle
  · refine .inl fun t => ?_
    have := Text.length_replaceHits_le r.token.finder (fun _ : Unit => hle) t
    rwa [hself] at this
  · refine .inr fun t => ?_
    have := Text.length_replaceHits_le r.token.finder (fun _ : Unit => hle) t
    rwa [hself] at this

theorem applyToCalls_ne_self (hne : r.token.literal ≠ []) (hr : r.replacement ≠ r.token.literal)
    {c : Call} (hc : c ∈ Text.hits (Call.flat m) t) (h : r.token.occursIn c.arguments = true) :
    r.applyToCalls m t ≠ t := by
  intro heq
  have hcall := Text.eq_of_replaceHits_eq (Call.flat_spells m) ?_ heq c hc
  · refine apply_ne_self hne hr h ?_
    simpa [applyToCall, Call.text] using hcall
  · rcases length_apply hne with hle | hle
    · exact .inl fun c _ => by simpa [applyToCall, Call.text] using hle c.arguments
    · exact .inr fun c _ => by simpa [applyToCall, Call.text] using hle c.arguments

theorem token_ne_nil_of_make? {type : Text} (h : make? type replacement = .ok r) :
    r.token.literal ≠ [] ∧ r.token.literal = type ∧ r.replacement = replacement := by
  rw [make?] at h
  split at h
  · cases h
  · next hne =>
    split at h
    · cases h
    · cases h
      exact ⟨hne, rfl, rfl⟩

theorem idle_renameType (hne : r.token.literal ≠ []) (h : (renameType r).applies t = false) :
    (renameType r).apply t = .ok t :=
  congrArg Except.ok (Token.replaceIn_eq_self hne h r.replacement)

theorem idle_retypeSignature (hne : r.token.literal ≠ [])
    (h : (retypeSignature m r).applies t = false) : (retypeSignature m r).apply t = .ok t := by
  refine congrArg Except.ok ?_
  rw [applyToCalls, Text.replaceHits_congr (g := Call.text),
    Text.replaceHits_text (Call.flat_spells m)]
  intro c hc
  refine applyToCall_eq_text hne ?_
  simpa using List.any_eq_false.mp h c hc

theorem renameType_exact (hne : r.token.literal ≠ []) (hr : r.replacement ≠ r.token.literal) :
    (renameType r).Exact where
  idle _ := idle_renameType hne
  alters _ h heq := apply_ne_self hne hr h (Except.ok.inj heq)

theorem retypeSignature_exact (hne : r.token.literal ≠ [])
    (hr : r.replacement ≠ r.token.literal) : (retypeSignature m r).Exact where
  idle _ := idle_retypeSignature hne
  alters _ h heq := by
    obtain ⟨c, hc, hcall⟩ := List.any_eq_true.mp h
    exact applyToCalls_ne_self hne hr hc hcall (Except.ok.inj heq)

end Retyping

theorem wrapped?_eq_some {w : Text} (h : wrapped? adapter args = some w) :
    Text.trim args ≠ [] ∧ w = Text.leadingBlanks args ++ adapter ++
      '(' :: (Text.trim args ++ ')' :: Text.trailingBlanks args) := by
  rw [wrapped?] at h
  split at h
  · cases h
  · next hnot =>
    simp only [Bool.or_eq_true, not_or] at hnot
    refine ⟨by simpa using hnot.1.1.1, ?_⟩
    rw [← Option.some.inj h]
    simp

theorem length_lt_of_wrapped? {w : Text} (h : wrapped? adapter args = some w) :
    args.length < w.length := by
  obtain ⟨hne, rfl⟩ := wrapped?_eq_some h
  have := congrArg List.length (Text.parts_eq hne)
  simp only [List.length_append, List.length_cons] at *
  omega

theorem length_text_lt_wrapCall {c : Call} (h : (wrapped? adapter c.arguments).isSome = true) :
    c.text.length < (wrapCall adapter c).length := by
  obtain ⟨w, hw⟩ := Option.isSome_iff_exists.mp h
  have := length_lt_of_wrapped? hw
  simp only [wrapCall, hw, Call.text, List.length_append, List.length_singleton]
  omega

theorem wrapCall_eq_text {c : Call} (h : (wrapped? adapter c.arguments).isSome = false) :
    wrapCall adapter c = c.text := by
  rw [wrapCall, Option.isSome_eq_false_iff.mp h |> Option.isNone_iff_eq_none.mp]

theorem wrapArgument_exact (m : Token) (adapter : Text) : (wrapArgument m adapter).Exact where
  idle t h := by
    refine congrArg Except.ok ?_
    rw [Text.replaceHits_congr (g := Call.text), Text.replaceHits_text (Call.nested_spells m)]
    intro c hc
    refine wrapCall_eq_text ?_
    simpa using List.any_eq_false.mp h c hc
  alters t h heq := by
    obtain ⟨c, hc, hwrapped⟩ := List.any_eq_true.mp h
    have hlt := length_text_lt_wrapCall hwrapped
    -- No call gets shorter, so the text stays only if each call does.
    have hle : ∀ d ∈ Text.hits (Call.nested m) t, d.text.length ≤ (wrapCall adapter d).length := by
      intro d _
      cases hd : (wrapped? adapter d.arguments).isSome with
      | true => exact Nat.le_of_lt (length_text_lt_wrapCall hd)
      | false => exact Nat.le_of_eq (congrArg List.length (wrapCall_eq_text hd).symm)
    have := Text.eq_of_replaceHits_eq (Call.nested_spells m) (.inr hle) (Except.ok.inj heq) c hc
    rw [this] at hlt
    exact Nat.lt_irrefl _ hlt

theorem ensureImport_exact (hi : i.line ≠ []) : (ensureImport i).Exact where
  idle t h := by
    have h : i.isMissing t = false := h
    rcases addImport_cases i t with ⟨-, hok⟩ | ⟨hmissing, -⟩ | ⟨hmissing, -⟩
    · exact hok
    · simp [h] at hmissing
    · simp [h] at hmissing
  alters t h heq := by
    have h : i.isMissing t = true := h
    have heq : addImport i t = .ok t := heq
    rcases addImport_cases i t with ⟨hmissing, -⟩ | ⟨-, -, herror⟩ | ⟨-, -, ls, hls, hok⟩
    · simp [h] at hmissing
    · simp [heq] at herror
    · have hlt := hls.length_lt hi
      rw [heq] at hok
      rw [← Except.ok.inj hok, Text.flatten_splitLines] at hlt
      exact Nat.lt_irrefl _ hlt

theorem removeUnusedImport_exact (i : Import) : (removeUnusedImport i).Exact where
  idle t h := by
    have h : (i.isPresent t && !i.isUsed t) = false := h
    have hnone : i.removeUnused? t = none := if_neg (by simp [h])
    change Except.ok ((i.removeUnused? t).getD t) = _
    rw [hnone]
    rfl
  alters t h heq := by
    have h : (i.isPresent t && !i.isUsed t) = true := h
    have heq : Except.ok ((i.removeUnused? t).getD t) = .ok t := heq
    rw [Import.removeUnused?_eq_some h] at heq
    have hpresent := Import.isPresent_iff.mp (Bool.and_eq_true_iff.mp h).1
    exact Import.without_ne hpresent (Except.ok.inj heq)

theorem line_ne_nil_of_make? {symbol statement marker : Text}
    (h : Import.make? l symbol statement marker = .ok i) : i.line ≠ [] := by
  rw [Import.make?] at h
  split at h
  · cases h
  · next hne =>
    cases h
    exact fun hline => hne (.inl hline)

end Rule

namespace RuleSpec

/-- Whether a rule makes a difference wherever it applies. A pattern may put back what it matches,
and a type may be replaced by itself. -/
def Alters : RuleSpec → Prop
  | replacePattern .. => False
  | renameType type replacement => replacement ≠ type
  | retypeSignature _ type replacement => replacement ≠ type
  | _ => True

/-- A rule that does not apply to a text leaves it; one that applies fails or changes the text. -/
theorem applies_exact (l : Language) (s : RuleSpec) (r : Rule) (h : s.build l = .ok r) (t : Text) :
    (r.applies t = false → r.apply t = .ok t) ∧
    (s.Alters → r.applies t = true → r.apply t ≠ .ok t) := by
  have hexact : ∀ {r : Rule}, r.Exact → (r.applies t = false → r.apply t = .ok t) ∧
      (s.Alters → r.applies t = true → r.apply t ≠ .ok t) :=
    fun hr => ⟨hr.idle t, fun _ => hr.alters t⟩
  cases s with
  | replaceLiteral needle replacement => exact hexact (Rule.exact_of_literal? h)
  | replacePattern source template => exact ⟨Rule.idle_of_pattern? h, False.elim⟩
  | renameType type replacement =>
    obtain ⟨p, hp, rfl⟩ := exists_of_map_eq_ok h
    obtain ⟨hne, htype, hreplacement⟩ := Rule.Retyping.token_ne_nil_of_make? hp
    refine ⟨Rule.Retyping.idle_renameType hne, fun halters => ?_⟩
    exact (Rule.Retyping.renameType_exact hne (by rwa [htype, hreplacement])).alters t
  | retypeSignature method type replacement =>
    obtain ⟨p, hp, rfl⟩ := exists_of_map_eq_ok h
    obtain ⟨hne, htype, hreplacement⟩ := Rule.Retyping.token_ne_nil_of_make? hp
    refine ⟨Rule.Retyping.idle_retypeSignature hne, fun halters => ?_⟩
    exact (Rule.Retyping.retypeSignature_exact hne (by rwa [htype, hreplacement])).alters t
  | wrapArgument method adapter =>
    have h : Rule.wrapArgument? method adapter = .ok r := h
    rw [Rule.wrapArgument?] at h
    split at h
    · cases h
    · cases h
      exact hexact (Rule.wrapArgument_exact _ _)
  | ensureImport symbol statement marker =>
    obtain ⟨i, hi, rfl⟩ := exists_of_map_eq_ok h
    exact hexact (Rule.ensureImport_exact (Rule.line_ne_nil_of_make? hi))
  | removeUnusedImport statement marker =>
    obtain ⟨i, hi, rfl⟩ := exists_of_map_eq_ok h
    exact hexact (Rule.removeUnusedImport_exact i)

theorem applies_exact_serialize : ∃ r,
    (retypeSignature "serialize".toList "Bytes<ByteBuffer>".toList "BytesOut<?>".toList).build
      .java = .ok r ∧
    r.applies "void serialize(Bytes<ByteBuffer> sink);".toList = true ∧
    r.apply "void serialize(Bytes<ByteBuffer> sink);".toList ≠
      .ok "void serialize(Bytes<ByteBuffer> sink);".toList := by
  have hne : "BytesOut<?>".toList ≠ "Bytes<ByteBuffer>".toList := by decide
  have halters : (retypeSignature "serialize".toList "Bytes<ByteBuffer>".toList
      "BytesOut<?>".toList).Alters := hne
  exact ⟨_, rfl, by decide, (applies_exact .java _ _ rfl _).2 halters (by decide)⟩

end RuleSpec

end Refit
