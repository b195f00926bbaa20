import Refit.Import
import Refit.Proofs.Language.Kinds
import Refit.Proofs.Text.Lines

namespace Refit

open Text (AreLines EndBlind)

variable {i : Import} {l : Language} {new line content statement t : Text} {ls ls' : List Text}
  {k : Nat}

namespace Import

/-- A new line stands behind another. It ends as that one does, or closes the text as that one did.
-/
inductive Inserted (new : Text) : List Text → List Text → Prop
  | ended {line : Text} {u v : List Text} (e : LineEnd) : Text.lineEnd? line = some e →
      Inserted new (u ++ line :: v) (u ++ line :: (new ++ e.text) :: v)
  | last {line : Text} {u : List Text} (e : LineEnd) : '\n' ∉ line →
      Inserted new (u ++ [line]) (u ++ [line ++ e.text, new])

theorem Inserted.cons (h : Inserted new ls ls') (line : Text) :
    Inserted new (line :: ls) (line :: ls') := by
  cases h with
  | @ended _ u _ e he => exact .ended (u := line :: u) e he
  | @last _ u e he => exact .last (u := line :: u) e he

theorem insertBehind_inserted (h : AreLines ls) (hk : k < ls.length) (new : Text) (e : LineEnd) :
    Inserted new ls (insertBehind k new e ls) := by
  induction ls generalizing k with
  | nil => simp at hk
  | cons line ls ih =>
    cases k with
    | succ k => exact (ih h.tail (by simpa using hk)).cons line
    | zero =>
      rw [insertBehind]
      cases hl : Text.lineEnd? line with
      | some e => exact .ended (u := []) e hl
      | none =>
        obtain ⟨rfl, hn⟩ := h.of_lineEnd?_eq_none hl
        exact .last (u := []) e hn

theorem Inserted.length_lt (h : Inserted new ls ls') (hne : new ≠ []) :
    ls.flatten.length < ls'.flatten.length := by
  have := List.length_pos_iff.mpr hne
  cases h <;> simp <;> omega

theorem Inserted.areLines (h : Inserted new ls ls') (hls : AreLines ls) (hne : new ≠ [])
    (hn : '\n' ∉ new) : AreLines ls' := by
  have hend : ∀ u : Text, '\n' ∉ u → ∀ (e : LineEnd) {post}, AreLines post →
      AreLines ((u ++ e.text) :: post) := by
    intro u hu e post hpost
    cases e with
    | lf => exact .cons hu hpost
    | crlf =>
      have := AreLines.cons (u := u ++ ['\r']) (by simp [hu]) hpost
      simpa [LineEnd.text] using this
  cases h with
  | @ended line u post e he =>
    obtain ⟨u, hu, rfl⟩ := hls.right.of_lineEnd?_eq_some he
    have hpost : AreLines post := hls.right.tail
    exact hls.append_congr (by simp) (.cons hu (hend new hn e hpost))
  | last e hu => exact hls.append_congr (by simp) (hend _ hu e (.last hne hn))

theorem Inserted.countP_eq {p : Text → Bool} (h : Inserted new ls ls') (hp : EndBlind p) :
    ls'.countP p = ls.countP p + if p new then 1 else 0 := by
  cases h with
  | ended e => simp [List.countP_cons, hp new e]; omega
  | @last line _ e => simp [List.countP_cons, hp line e]; omega

theorem Inserted.exists_iff {p : Text → Bool} (h : Inserted new ls ls') (hp : EndBlind p) :
    (∃ line ∈ ls', p line = true) ↔ (∃ line ∈ ls, p line = true) ∨ p new = true := by
  rw [← List.countP_pos_iff, ← List.countP_pos_iff, h.countP_eq hp]
  cases p new <;> simp

theorem lastIdxOf?_lt {kind : LineKind} {kinds : List LineKind}
    (h : lastIdxOf? kind kinds = some k) : k < kinds.length := by
  obtain ⟨j, hj, rfl⟩ := Option.map_eq_some_iff.mp h
  have := (List.findIdx?_eq_some_iff_getElem.mp hj).1
  simp at this
  omega

theorem lastIdxOf?_eq_none_iff {kind : LineKind} {kinds : List LineKind} :
    lastIdxOf? kind kinds = none ↔ kind ∉ kinds := by
  simp [lastIdxOf?]

theorem anchor?_lt (h : anchor? l ls = some k) : k < ls.length := by
  rw [← l.length_classify ls]
  rcases Option.or_eq_some_iff.mp h with h | ⟨-, h⟩
  · exact lastIdxOf?_lt h
  · exact (List.findIdx?_eq_some_iff_getElem.mp h).1

theorem anchor?_eq_none_iff :
    anchor? l (Text.splitLines content) = none ↔ ¬ l.Anchored content := by
  rw [anchor?, Option.or_eq_none_iff, lastIdxOf?_eq_none_iff, List.idxOf?_eq_none_iff,
    ← l.map_snd_kindedLines]
  constructor
  · rintro ⟨himports, hdeclares⟩ ⟨⟨line, kind⟩, hentry, hkind⟩
    cases kind with
    | imports => exact himports (List.mem_map_of_mem hentry)
    | declares => exact hdeclares (List.mem_map_of_mem hentry)
    | other => exact hkind rfl
  · intro hnone
    constructor
    · intro h
      obtain ⟨entry, hentry, hkind⟩ := List.mem_map.mp h
      exact hnone ⟨entry, hentry, by simp [hkind]⟩
    · intro h
      obtain ⟨entry, hentry, hkind⟩ := List.mem_map.mp h
      exact hnone ⟨entry, hentry, by simp [hkind]⟩

theorem isUsed_iff : i.isUsed content = true ↔ i.language.Uses i.marker content := by
  simp [isUsed, Language.Uses, Language.kindedLines]

theorem isPresent_iff : i.isPresent content = true ↔ Text.HasLine i.line content := by
  simp [isPresent, Text.HasLine]

theorem isMissing_iff : i.isMissing content = true ↔
    ¬ Text.HasLine i.line content ∧ i.language.Uses i.marker content := by
  rw [isMissing, Bool.and_eq_true, Bool.not_eq_true', ← Bool.not_eq_true, isPresent_iff, isUsed_iff]

theorem not_isMissing_iff : i.isMissing content = false ↔
    (i.language.Uses i.marker content → Text.HasLine i.line content) := by
  rw [← Bool.not_eq_true, isMissing_iff, not_and', not_not]

def without (i : Import) (t : Text) : Text :=
  ((Text.splitLines t).filter fun line => Text.trim line != i.line).flatten

theorem removeUnused?_eq_some (h : (i.isPresent t && !i.isUsed t) = true) :
    i.removeUnused? t = some (i.without t) := if_pos h

theorem splitLines_without (i : Import) (t : Text) :
    Text.splitLines (i.without t) =
      (Text.splitLines t).filter fun line => Text.trim line != i.line :=
  Text.splitLines_flatten_filter _ t

theorem hasLine_without : Text.HasLine statement (i.without t) ↔
    Text.HasLine statement t ∧ statement ≠ i.line := by
  simp only [Text.HasLine, splitLines_without, List.mem_filter, bne_iff_ne]
  constructor
  · rintro ⟨line, ⟨hline, hne⟩, rfl⟩
    exact ⟨⟨line, hline, rfl⟩, hne⟩
  · rintro ⟨⟨line, hline, rfl⟩, hne⟩
    exact ⟨line, ⟨hline, hne⟩, rfl⟩

theorem without_ne (h : Text.HasLine i.line t) : i.without t ≠ t := by
  intro heq
  obtain ⟨line, hline, htrim⟩ := h
  have : ¬ Text.HasLine i.line (i.without t) := fun hwithout => (hasLine_without.mp hwithout).2 rfl
  rw [heq] at this
  exact this ⟨line, hline, htrim⟩

end Import

namespace Rule

open Import (Inserted)

theorem addImport_cases (i : Import) (content : Text) :
    (i.isMissing content = false ∧ addImport i content = .ok content) ∨
    (i.isMissing content = true ∧ ¬ i.language.Anchored content ∧
      addImport i content = .error (.noAnchor i.line)) ∨
    (i.isMissing content = true ∧ i.language.Anchored content ∧
      ∃ ls, Inserted i.line (Text.splitLines content) ls ∧
        addImport i content = .ok ls.flatten) := by
  rw [addImport, Import.resolve, Import.isMissing]
  cases i.isUsed content with
  | false => exact .inl (by simp [Except.map])
  | true =>
    cases i.isPresent content with
    | true => exact .inl (by simp [Except.map])
    | false =>
      cases hanchor : Import.anchor? i.language (Text.splitLines content) with
      | none =>
        refine .inr (.inl ⟨rfl, Import.anchor?_eq_none_iff.mp hanchor, ?_⟩)
        simp [hanchor, Except.map]
      | some k =>
        refine .inr (.inr ⟨rfl, ?_, ?_⟩)
        · by_contra h
          rw [← Import.anchor?_eq_none_iff, hanchor] at h
          cases h
        · exact ⟨_, Import.insertBehind_inserted (Text.areLines_splitLines content)
            (Import.anchor?_lt hanchor) i.line (Text.dominantLineEnd content),
            by simp [hanchor, Except.map]⟩

end Rule

end Refit
