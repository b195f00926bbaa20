import Refit.Proofs.Import.Landing
import Refit.Proofs.Import.Settling
import Refit.Proofs.Pipeline.Composition

namespace Refit

open Import (IsAnchor Landing Ordinary anchor? insertBehind)
open Rule (addImport ensureImport)
open Text (Bears Ended HasLine splitLines)

variable {l : Language} {i : Import} {is : List Import} {c o : Text} {p : Progress} {k : Nat}

theorem Import.exists_anchor? (h : l.Anchored c) : ∃ k, anchor? l (splitLines c) = some k := by
  rw [← Option.ne_none_iff_exists', Ne, anchor?_eq_none_iff, not_not]
  exact h

theorem Import.Ordinary.language_eq (hi : Ordinary l i) : i.language = l :=
  language_of_make? hi.made

theorem Rule.addImport_of_anchor? (hi : i.isMissing c = true)
    (hk : anchor? i.language (splitLines c) = some k) : addImport i c =
      .ok (insertBehind k i.line (Text.dominantLineEnd c) (splitLines c)).flatten := by
  rw [Import.isMissing, Bool.and_eq_true, Bool.not_eq_true'] at hi
  rw [addImport, Import.resolve, hi.1, hi.2]
  simp [hk, Except.map]

namespace Pipeline

theorem step_ensureImport_of_missing (hi : Ordinary l i) (hc : l.Anchored p.content)
    (hmissing : i.isMissing p.content = true) : ∃ o, Nonempty (Landing l i.line p.content o) ∧
      step (some l) p (ensureImport i) =
        { p with content := o, applied := p.applied ++ [(ensureImport i).description] } := by
  obtain ⟨k, hk⟩ := Import.exists_anchor? hc
  obtain ⟨landing⟩ := Landing.of_anchor? hi hk (Text.dominantLineEnd p.content)
  have hok : (ensureImport i).apply p.content = .ok _ :=
    Rule.addImport_of_anchor? hmissing (hi.language_eq ▸ hk)
  have hnot : ¬ HasLine (Text.trim i.line) p.content := by
    rw [i.trim_line]
    exact (Import.isMissing_iff.mp hmissing).1
  have hcheck : check (some l) p.content _ = .ok _ :=
    check_eq_ok_iff.mpr ⟨rfl, landing.noNewRepeats hnot⟩
  have happlies : (ensureImport i).applies p.content = true := hmissing
  have hexact := Rule.ensureImport_exact (Rule.line_ne_nil_of_make? hi.made)
  refine ⟨_, ⟨landing⟩, ?_⟩
  rcases step_cases (some l) p (ensureImport i) with
    ⟨-, hidle | hidle⟩ | ⟨-, t, -, happly, -, hstep⟩ | ⟨-, e, herror, -⟩
  · simp [happlies] at hidle
  · exact absurd hidle (hexact.alters _ happlies)
  · obtain rfl := Except.ok.inj (hok.symm.trans happly)
    exact hstep
  · rw [hok] at herror
    cases hcheck.symm.trans herror

/-- A text got statements behind its anchor, one after the other, each on a line of its own. No
other line is changed, but an anchor without an end got one. -/
def GetsBlock (l : Language) (statements : List Text) (c o : Text) : Prop :=
  ∃ u x x' v block, splitLines c = u ++ x :: v ∧ splitLines o = u ++ x' :: (block ++ v) ∧
    IsAnchor (l.classify (splitLines c)) u.length ∧ Ended x x' ∧
    List.Forall₂ Bears block statements

theorem GetsBlock.cons {new first : Text} {statements : List Text} (h : Landing l new c first)
    (hrest : GetsBlock l statements first o) : GetsBlock l (new :: statements) c o := by
  obtain ⟨u, x, x', v, block, hbefore, hafter, hanchor, hended, hblock⟩ := hrest
  have hlen : u.length = (h.above.map Prod.fst ++ [h.anchor']).length := by
    simp [hanchor.unique h.isAnchor_line]
  have hlines := h.splitLines_after
  rw [hbefore, List.append_cons _ h.anchor'] at hlines
  obtain ⟨rfl, hbelow⟩ := List.append_inj hlines hlen
  obtain ⟨rfl, rfl⟩ := List.cons.inj hbelow
  refine ⟨h.above.map Prod.fst, h.anchor, h.anchor', h.below.map Prod.fst, x' :: block,
    h.splitLines_before, ?_, ?_, h.ended, .cons (h.bears.ended hended) hblock⟩
  · rw [hafter]
    simp
  · rw [List.length_map]
    exact h.isAnchor

theorem foldl_ensureImport (his : ∀ i ∈ is, Ordinary l i) (hdistinct : (is.map Import.line).Nodup)
    (hc : l.Anchored p.content) (hmissing : ∀ i ∈ is, i.isMissing p.content = true) : ∃ o,
      GetsBlock l (is.map Import.line) p.content o ∧
      (is.map ensureImport).foldl (step (some l)) p =
        { p with
          content := o
          applied := p.applied ++ is.map fun i => (ensureImport i).description } := by
  induction is generalizing p with
  | nil =>
    obtain ⟨k, hk⟩ := Import.exists_anchor? hc
    obtain ⟨u, x, v, hlines, rfl⟩ := Import.exists_of_anchor? hk
    refine ⟨p.content, ⟨u, x, x, v, [], hlines, hlines, ?_, .inl rfl, .nil⟩, by simp⟩
    exact Import.isAnchor_of_anchor? hk
  | cons i is ih =>
    obtain ⟨hi, his⟩ := List.forall_mem_cons.mp his
    obtain ⟨hfirst, hrest⟩ := List.forall_mem_cons.mp hmissing
    obtain ⟨hne, hdistinct⟩ := List.nodup_cons.mp hdistinct
    -- The first import is the anchor of the second, and the others are still missing.
    obtain ⟨first, ⟨landing⟩, hstep⟩ := step_ensureImport_of_missing hi hc hfirst
    have hmissing : ∀ j ∈ is, j.isMissing first = true := fun j hj =>
      landing.isMissing (his j hj).language_eq (fun h => hne (h ▸ List.mem_map_of_mem hj))
        (hrest j hj)
    obtain ⟨o, hblock, hrun⟩ := ih
      (p := { p with content := first, applied := p.applied ++ [(ensureImport i).description] })
      his hdistinct landing.anchored hmissing
    refine ⟨o, GetsBlock.cons landing hblock, ?_⟩
    rw [List.map_cons, List.foldl_cons, hstep, hrun]
    simp

/-- Imports that are called for and missing land as one block, in the order of their rules, behind
the last import or, without one, behind the first declaration. All of the rules are applied, and
none is warned of. -/
theorem imports_land_in_order (l : Language) (is : List Import) (c : Text)
    (his : ∀ i ∈ is, Ordinary l i) (hdistinct : (is.map Import.line).Nodup) (hc : l.Anchored c)
    (hmissing : ∀ i ∈ is, ¬ HasLine i.line c ∧ l.Uses i.marker c) :
    let o := transform { rules := is.map ensureImport, guard := some l } c
    o.applied = is.map (fun i => (ensureImport i).description) ∧ o.warnings = [] ∧
      GetsBlock l (is.map Import.line) c o.content := by
  have hcalled : ∀ i ∈ is, i.isMissing c = true := by
    intro i hi
    rw [Import.isMissing_iff, (his i hi).language_eq]
    exact hmissing i hi
  obtain ⟨o, hblock, hrun⟩ := foldl_ensureImport (p := { content := c }) his hdistinct hc hcalled
  rw [transform, hrun]
  exact ⟨rfl, rfl, hblock⟩

def unclosed : Text := "fmt.Print(os.Args)\nimport (\n\"io\"".toList

def fmtImport : Import := ⟨.go, "fmt".toList, "import \"fmt\"".toList, "fmt".toList⟩

def osImport : Import := ⟨.go, "os".toList, "import \"os\"".toList, "os".toList⟩

theorem imports_land_in_unclosed_block :
    let o := transform
      { rules := [ensureImport osImport, ensureImport fmtImport], guard := some .go } unclosed
    o.content =
      "fmt.Print(os.Args)\nimport (\n\"io\"\nimport \"os\"\nimport \"fmt\"".toList ∧
    o.warnings = [] ∧ GetsBlock .go [osImport.line, fmtImport.line] unclosed o.content := by
  have hos : Ordinary .go osImport := ⟨rfl, by decide, by decide, by decide⟩
  have hfmt : Ordinary .go fmtImport := ⟨rfl, by decide, by decide, by decide⟩
  have his : ∀ i ∈ [osImport, fmtImport], Ordinary .go i := by simp [hos, hfmt]
  have hmissing : ∀ i ∈ [osImport, fmtImport], i.isMissing unclosed = true := by decide
  have hc : Language.go.Anchored unclosed := ⟨("\"io\"".toList, .imports), by decide, nofun⟩
  obtain ⟨-, hwarnings, hblock⟩ := imports_land_in_order .go [osImport, fmtImport] unclosed his
    (by decide) hc fun i hi => (his i hi).language_eq ▸ Import.isMissing_iff.mp (hmissing i hi)
  exact ⟨by decide +kernel, hwarnings, hblock⟩

end Pipeline

end Refit
