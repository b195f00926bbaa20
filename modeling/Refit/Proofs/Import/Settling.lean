import Refit.Proofs.Rule.Exactness

namespace Refit

open Text (AreLines)

variable {i : Import} {l : Language} {symbol statement marker c o : Text} {ls : List Text} {k : Nat}

namespace Import

theorem line_of_make? (h : make? l symbol statement marker = .ok i) :
    i.line = Text.trim statement := by
  rw [make?] at h
  split at h
  · cases h
  · cases h
    rfl

theorem trim_line (i : Import) : Text.trim i.line = i.line := Text.trim_trim i.statement

theorem resolve_eq_inserted (h : i.resolve c = .ok (.inserted k o)) :
    i.isMissing c = true ∧ Rule.addImport i c = .ok o := by
  refine ⟨?_, by rw [Rule.addImport, h]; rfl⟩
  rw [resolve] at h
  cases hused : i.isUsed c with
  | false => simp [hused] at h
  | true =>
    cases hpresent : i.isPresent c with
    | true => simp [hused, hpresent] at h
    | false => simp [isMissing, hused, hpresent]

theorem not_hasLine_of_mem (h : '\n' ∈ i.line) (t : Text) : ¬ Text.HasLine i.line t := by
  rintro ⟨line, hline, htrim⟩
  rw [← htrim] at h
  exact (Text.areLines_splitLines t).not_mem_trim hline h

theorem Inserted.hasLine (h : Inserted i.line (Text.splitLines c) ls) (hi : i.line ≠ [])
    (hn : '\n' ∉ i.line) : Text.HasLine i.line ls.flatten := by
  have hls := h.areLines (Text.areLines_splitLines c) hi hn
  have hexists := (h.exists_iff (Text.endBlind_trim i.line)).mpr (.inr (by simp [i.trim_line]))
  simpa [Text.HasLine, hls.splitLines_flatten] using hexists

theorem isPresent_addImport_iff (hi : i.line ≠ []) (h : i.isMissing c = true)
    (ho : Rule.addImport i c = .ok o) : i.isPresent o = true ↔ '\n' ∉ i.line := by
  rw [isPresent_iff]
  refine ⟨fun hline hn => not_hasLine_of_mem hn o hline, fun hn => ?_⟩
  rcases Rule.addImport_cases i c with ⟨hmissing, -⟩ | ⟨-, -, herror⟩ | ⟨-, -, ls, hls, hok⟩
  · simp [h] at hmissing
  · simp [ho] at herror
  · rw [ho] at hok
    rw [Except.ok.inj hok]
    exact hls.hasLine hi hn

end Import

namespace Rule

/-- A rule that added an import leaves what it made, unless the statement has several lines and the
marker still occurs. -/
theorem ensureImport_settles_iff (hi : Import.make? l symbol statement marker = .ok i)
    (h : i.resolve c = .ok (.inserted k o)) :
    (ensureImport i).apply o = .ok o ↔ '\n' ∉ Text.trim statement ∨ i.isUsed o = false := by
  have hne := line_ne_nil_of_make? hi
  have hexact := ensureImport_exact hne
  have happlies : (ensureImport i).apply o = .ok o ↔ i.isMissing o = false := by
    constructor
    · intro hok
      rw [← Bool.not_eq_true]
      exact fun hmissing => hexact.alters o hmissing hok
    · exact hexact.idle o
  obtain ⟨hmissing, hok⟩ := Import.resolve_eq_inserted h
  rw [happlies, ← Import.line_of_make? hi, ← Import.isPresent_addImport_iff hne hmissing hok]
  rw [Import.isMissing]
  cases i.isPresent o <;> simp

theorem ensureImport_settles_bytesOut : ∃ i o,
    Import.make? .java "BytesOut".toList "import a.BytesOut;".toList "BytesOut".toList = .ok i ∧
    i.resolve "package a;\nBytesOut out;\n".toList = .ok (.inserted 1 o) ∧
    (ensureImport i).apply o = .ok o := by
  refine ⟨_, "package a;\nimport a.BytesOut;\nBytesOut out;\n".toList, rfl, rfl, ?_⟩
  have hi : Import.make? .java "BytesOut".toList "import a.BytesOut;".toList
      "BytesOut".toList = .ok _ := rfl
  exact (ensureImport_settles_iff hi (k := 1) (c := "package a;\nBytesOut out;\n".toList) rfl).mpr
    (.inl (by decide))

theorem ensureImport_adds_lines_twice : ∃ i o again,
    Import.make? .java "B".toList "import a.B;\nimport a.C;".toList "B".toList = .ok i ∧
    i.resolve "package a;\nB b;\n".toList = .ok (.inserted 1 o) ∧
    (ensureImport i).apply o = .ok again ∧ again ≠ o :=
  ⟨_, _, _, rfl, rfl, rfl, by decide⟩

end Rule

end Refit
