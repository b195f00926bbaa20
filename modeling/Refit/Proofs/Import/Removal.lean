import Refit.Proofs.Import.Insertion
import Refit.Proofs.Token.Occurrence

namespace Refit

open Text (HasLine splitLines trim)

variable {l : Language} {i : Import} {r : Rule} {line content statement marker t u v : Text}
  {c : Char} {tok : Token} {lines : List Text} {keep : Text → Bool} {inBlock : Bool}

def blankCodes : List Nat :=
  [0x09, 0x0A, 0x0B, 0x0C, 0x0D, 0x20, 0x85, 0xA0, 0x1680, 0x2000, 0x2001, 0x2002, 0x2003, 0x2004,
   0x2005, 0x2006, 0x2007, 0x2008, 0x2009, 0x200A, 0x2028, 0x2029, 0x202F, 0x205F, 0x3000]

theorem toNat_mem_blankCodes (h : isBlank c = true) : c.toNat ∈ blankCodes := by
  simp only [isBlank, Bool.or_eq_true, Bool.and_eq_true, decide_eq_true_eq, beq_iff_eq] at h
  simp only [blankCodes, List.mem_cons, List.not_mem_nil, or_false]
  omega

theorem isWord_of_isBlank (h : isBlank c = true) : isWord c = false := by
  have hall : (blankCodes.all fun n => !isWord (Char.ofNat n)) = true := by decide +kernel
  simpa using List.all_eq_true.mp hall c.toNat (toNat_mem_blankCodes h)

namespace Token

theorem occursIn_between_blanks (hu : ∀ c ∈ u, isBlank c = true) (hv : ∀ c ∈ v, isBlank c = true)
    (h : tok.occursIn t = true) : tok.occursIn (u ++ (t ++ v)) = true := by
  obtain ⟨x, y, rfl, hfit⟩ := occursIn_iff.mp h
  refine occursIn_iff.mpr ⟨u ++ x, y ++ v, by simp, ?_⟩
  rw [← hfit]
  apply fits_congr
  · cases hx : x.getLast? with
    | some d => simp [List.getLast?_append, hx]
    | none =>
      rw [List.getLast?_eq_none_iff.mp hx, List.append_nil]
      cases hlast : u.getLast? with
      | none => rfl
      | some d => exact isWord_of_isBlank (hu d (List.mem_of_getLast? hlast))
  · cases y with
    | cons d y => rfl
    | nil =>
      cases v with
      | nil => rfl
      | cons d v => exact isWord_of_isBlank (hv d List.mem_cons_self)

theorem occursIn_of_trim (hne : tok.literal ≠ []) (h : tok.occursIn (trim line) = true) :
    tok.occursIn line = true := by
  have hline : trim line ≠ [] := by
    intro hnil
    rw [hnil, not_occursIn_nil hne] at h
    cases h
  rw [← Text.parts_eq hline]
  exact occursIn_between_blanks (Text.blank_leadingBlanks line) (Text.blank_trailingBlanks line) h

end Token

namespace Language

open LineShape Phrase

theorem accepts_trim_blockOpener (h : blockOpener.accepts line = true) :
    blockOpener.accepts (trim line) = true := by
  have hwhole : blockOpener.whole = true := rfl
  have hshape : blockOpener.phrase =
      .all ([blanks] ++ [fixed "import", blanks, fixed "("] ++ [blanks]) := rfl
  rw [LineShape.accepts, if_pos hwhole, hshape, matchesAll_iff, matches_all_concat] at h ⊢
  obtain ⟨_, v, rfl, hpre, hv⟩ := h
  obtain ⟨u, m, rfl, hu, hm⟩ := matches_seq.mp hpre
  have hbegin {b : Char} {w : Text}
      (hw : Matches CharClass.contains (.all [fixed "import", blanks, fixed "("]) (b :: w)) :
      b = 'i' := by
    obtain ⟨k, hk, hkb⟩ := hw.exists_head
    obtain rfl : k = .char 'i' := by simpa [fixed, Phrase.all, heads, nullable] using hk
    exact (eq_of_beq hkb).symm
  -- What stands between the blanks begins with a letter and ends with the parenthesis.
  obtain ⟨x, y, rfl, hy⟩ := exists_of_matches_all hm rfl
  obtain ⟨d, hd, rfl⟩ := matches_one.mp hy
  obtain rfl : '(' = d := eq_of_beq hd
  cases x with
  | nil => exact absurd (hbegin hm) (by decide)
  | cons b x =>
    obtain rfl : b = 'i' := hbegin hm
    have htrim : trim (u ++ ('i' :: x ++ ['(']) ++ v) = 'i' :: (x ++ ['(']) := by
      simpa using Text.trim_parts (matches_blanks_iff.mp hu) (matches_blanks_iff.mp hv)
        (by decide : isBlank 'i' = false) (by decide : isBlank '(' = false) (w := x)
    rw [htrim]
    exact ⟨'i' :: (x ++ ['(']), [], by simp, matches_seq.mpr ⟨[], _, rfl, .done, hm⟩, .done⟩

def Steady (l : Language) (line : Text) : Prop :=
  l = go → trim line ≠ [')'] ∧ blockOpener.accepts (trim line) = false

theorem Steady.opens_eq (h : l.Steady line) (hopen : inBlock = true → l = go) :
    l.opens inBlock line = inBlock := by
  cases l with
  | go =>
    obtain ⟨hclose, hopener⟩ := h rfl
    cases inBlock with
    | true => simpa [opens] using hclose
    | false =>
      rw [opens, if_neg Bool.false_ne_true, ← Bool.not_eq_true]
      intro haccepts
      rw [accepts_trim_blockOpener haccepts] at hopener
      cases hopener
  | _ =>
    cases inBlock with
    | true => cases hopen rfl
    | false => rfl

theorem zip_classifyFrom_filter (h : ∀ line ∈ lines, keep line = false → l.Steady line)
    (hopen : inBlock = true → l = go) :
    (lines.filter keep).zip (l.classifyFrom inBlock (lines.filter keep)) =
      (lines.zip (l.classifyFrom inBlock lines)).filter fun entry => keep entry.1 := by
  induction lines generalizing inBlock with
  | nil => rfl
  | cons line lines ih =>
    obtain ⟨hline, hlines⟩ := List.forall_mem_cons.mp h
    have hnext : l.opens inBlock line = true → l = go := by
      intro hopens
      cases l with
      | go => rfl
      | _ => cases hopens
    rw [classifyFrom, List.zip_cons_cons]
    cases hkeep : keep line with
    | true =>
      rw [List.filter_cons_of_pos hkeep, classifyFrom, List.zip_cons_cons, ih hlines hnext,
        List.filter_cons_of_pos (by exact hkeep)]
    | false =>
      rw [List.filter_cons_of_neg (by simp [hkeep]), (hline hkeep).opens_eq hopen, ih hlines hopen,
        List.filter_cons_of_neg (by simp [hkeep])]

end Language

namespace Import

theorem kindedLines_without (h : l.Steady i.line) (t : Text) :
    l.kindedLines (i.without t) = (l.kindedLines t).filter fun entry => trim entry.1 != i.line := by
  have hlines : ∀ line ∈ splitLines t, (trim line != i.line) = false → l.Steady line := by
    intro line _ hline hgo
    obtain hline : trim line = i.line := by simpa using hline
    rw [hline, ← i.trim_line]
    exact h hgo
  have hclosed : false = true → l = .go := fun h => absurd h Bool.false_ne_true
  rw [Language.kindedLines, Language.kindedLines, splitLines_without, l.classify_eq, l.classify_eq,
    Language.zip_classifyFrom_filter hlines hclosed]

theorem kind_of_not_uses (hne : marker ≠ []) (hmarker : (Token.mk marker).occursIn statement = true)
    (h : ¬ l.Uses marker content) {entry : Text × LineKind} (hentry : entry ∈ l.kindedLines content)
    (hline : trim entry.1 = statement) : entry.2 = .imports := by
  by_contra hkind
  subst hline
  exact h ⟨entry, hentry, hkind, Token.occursIn_of_trim hne hmarker⟩

theorem marker_of_make? {symbol : Text} (h : make? l symbol statement marker = .ok i) :
    i.marker = marker := by
  rw [make?] at h
  split at h
  · cases h
  · rw [← Except.ok.inj h]

theorem marker_ne_of_make? {symbol : Text} (h : make? l symbol statement marker = .ok i) :
    marker ≠ [] := by
  rw [make?] at h
  split at h
  · cases h
  · next hne => exact fun hmarker => hne (.inr hmarker)

end Import

namespace Rule

/-- A rule that removes an unused import leaves all other lines in their order, each with its
terminator and its kind. It deletes import lines only, among them all that hold the statement, and
the marker still occurs on import lines at most. -/
theorem removeUnusedImport_safe (hr : removeUnusedImport? l statement marker = .ok r)
    (hmarker : (Token.mk marker).occursIn (trim statement) = true)
    (hblock : l = .go →
      trim statement ≠ [')'] ∧ Language.blockOpener.accepts (trim statement) = false)
    (h : r.applies content = true) : ∃ o, r.apply content = .ok o ∧
      o = ((splitLines content).filter fun line => trim line != trim statement).flatten ∧
      (∀ entry ∈ l.kindedLines content, trim entry.1 = trim statement → entry.2 = .imports) ∧
      l.kindedLines o =
        (l.kindedLines content).filter (fun entry => trim entry.1 != trim statement) ∧
      ¬ HasLine (trim statement) o ∧ ¬ l.Uses marker o := by
  obtain ⟨i, hi, rfl⟩ := exists_of_map_eq_ok hr
  have hline := Import.line_of_make? hi
  have hne := Import.marker_ne_of_make? hi
  have hunused : ¬ l.Uses marker content := by
    have hunused := (Bool.and_eq_true_iff.mp h).2
    rw [Bool.not_eq_true', ← Bool.not_eq_true, Import.isUsed_iff] at hunused
    rwa [Import.language_of_make? hi, Import.marker_of_make? hi] at hunused
  have hsteady : l.Steady i.line := by
    intro hgo
    rw [i.trim_line, hline]
    exact hblock hgo
  have hkinds := Import.kindedLines_without hsteady content
  have hok : (removeUnusedImport i).apply content = .ok (i.without content) := by
    have hsome := Import.removeUnused?_eq_some h
    exact congrArg (fun o? : Option Text => Except.ok (o?.getD content)) hsome
  rw [← hline] at hmarker ⊢
  refine ⟨i.without content, hok, rfl, ?_, hkinds, ?_, ?_⟩
  · exact fun entry => Import.kind_of_not_uses hne hmarker hunused
  · exact fun hleft => (Import.hasLine_without.mp hleft).2 rfl
  · rintro ⟨entry, hentry, huses⟩
    rw [hkinds] at hentry
    exact hunused ⟨entry, List.mem_of_mem_filter hentry, huses⟩

theorem removeUnusedImport_safe_block : ∃ r o,
    removeUnusedImport? .go "\"os\"".toList "os".toList = .ok r ∧
    (Token.mk "os".toList).occursIn (trim "\"os\"".toList) = true ∧
    r.applies "import (\n\t\"os\"\n\t\"fmt\"\n)\nfmt.Print()\n".toList = true ∧
    r.apply "import (\n\t\"os\"\n\t\"fmt\"\n)\nfmt.Print()\n".toList = .ok o ∧
    o = "import (\n\t\"fmt\"\n)\nfmt.Print()\n".toList ∧
    (Language.go.kindedLines o).map Prod.snd = [.imports, .imports, .imports, .other] ∧
    ¬ Language.go.Uses "os".toList o := by
  have hr : removeUnusedImport? .go "\"os\"".toList "os".toList = .ok _ := rfl
  have hmarker : (Token.mk "os".toList).occursIn (trim "\"os\"".toList) = true := by decide
  have happlies : (removeUnusedImport ⟨.go, "os".toList, "\"os\"".toList, "os".toList⟩).applies
      "import (\n\t\"os\"\n\t\"fmt\"\n)\nfmt.Print()\n".toList = true := by decide
  obtain ⟨o, hok, ho, -, hkinds, -, hunused⟩ :=
    removeUnusedImport_safe hr hmarker (fun _ => by decide) happlies
  have ho : o = "import (\n\t\"fmt\"\n)\nfmt.Print()\n".toList := ho.trans (by decide)
  exact ⟨_, o, hr, hmarker, happlies, hok, ho, by rw [hkinds]; decide, hunused⟩

end Rule

end Refit
