import Refit.Proofs.Pipeline.Guard
import Refit.Proofs.Text.Lines

namespace Refit

namespace Pipeline

variable {d : Document} {s : Progress × Document}

/-- Rules that have come to a progress over a document have left the document alone if none of them
was applied, and else have set its content to what they have come to. -/
structure Follows (d : Document) (s : Progress × Document) : Prop where
  content_eq : s.2.content = s.1.content
  document_eq : s.2 = if s.1.applied = [] then d else d.setContent s.1.content

theorem follows_start (d : Document) : Follows d ({ content := d.content }, d) := ⟨rfl, rfl⟩

theorem Follows.step (h : Follows d s) (guard : Option Language) (r : Rule) :
    Follows d (stepOver guard s r) := by
  obtain ⟨p, after⟩ := s
  have hcontent : after.content = p.content := h.content_eq
  rw [stepOver]
  dsimp only
  rcases step_cases guard p r with ⟨hs, -⟩ | ⟨-, t, hne, -, -, hs⟩ | ⟨-, e, -, hs⟩
  · rw [hs, if_pos hcontent.symm]
    exact h
  · rw [hs, if_neg (hcontent ▸ hne)]
    have hafter : after.setContent t = d.setContent t := by
      have hdocument : after = if p.applied = [] then d else d.setContent p.content :=
        h.document_eq
      rw [hdocument]
      split
      · rfl
      · exact Document.setContent_setContent d p.content t
    have happlied : p.applied ++ [r.description] ≠ [] :=
      List.append_ne_nil_of_right_ne_nil p.applied (List.cons_ne_nil _ _)
    exact ⟨rfl, hafter.trans (if_neg happlied).symm⟩
  · rw [hs, if_pos hcontent.symm]
    exact ⟨hcontent, h.document_eq⟩

theorem Follows.foldl (h : Follows d s) (guard : Option Language) (rules : List Rule) :
    Follows d (rules.foldl (stepOver guard) s) := by
  induction rules generalizing s with
  | nil => exact h
  | cons r rules ih => exact ih (h.step guard r)

theorem fst_foldl_stepOver (guard : Option Language) (s : Progress × Document)
    (rules : List Rule) :
    (rules.foldl (stepOver guard) s).1 = rules.foldl (step guard) s.1 := by
  induction rules generalizing s with
  | nil => rfl
  | cons r rules ih => exact ih (stepOver guard s r)

/-- A pipeline makes of a document what it makes of the content. If no rule was applied, the
document is left as it was, with its lines. -/
theorem run_eq (p : Pipeline) (d : Document) :
    p.run d = (p.transform d.content,
      if (p.transform d.content).applied = [] then d
      else d.setContent (p.transform d.content).content) := by
  have h := (follows_start d).foldl p.guard p.rules
  have hfst := fst_foldl_stepOver p.guard ({ content := d.content }, d) p.rules
  rw [run, transform]
  dsimp only
  rw [h.content_eq, hfst, h.document_eq, hfst]

end Pipeline

namespace Document

variable {d : Document}

inductive Edit
  | setContent (content : Text)
  | setLines (lines : List Text)
  | run (p : Pipeline)

def edit (d : Document) : Edit → Document
  | .setContent c => d.setContent c
  | .setLines ls => d.setLines ls
  | .run p => (p.run d).2

def edited (d : Document) (es : List Edit) : Document := es.foldl edit d

def Spells (d : Document) : Prop := d.lines.flatten = d.content

theorem spells_ofContent (p : Path) (c : Text) : (ofContent p c).Spells := Text.flatten_splitLines c

theorem spells_setContent (d : Document) (c : Text) : (d.setContent c).Spells :=
  Text.flatten_splitLines c

theorem spells_setLines (d : Document) (ls : List Text) : (d.setLines ls).Spells := rfl

namespace Spells

theorem run (h : d.Spells) (p : Pipeline) : (p.run d).2.Spells := by
  rw [Pipeline.run_eq]
  dsimp only
  split
  · exact h
  · exact spells_setContent d _

theorem edit (h : d.Spells) (e : Edit) : (d.edit e).Spells := by
  cases e with
  | setContent c => exact spells_setContent d c
  | setLines ls => exact spells_setLines d ls
  | run p => exact h.run p

theorem edited (h : d.Spells) (es : List Edit) : (d.edited es).Spells := by
  induction es generalizing d with
  | nil => exact h
  | cons e es ih => exact ih (h.edit e)

theorem beq_ofContent_iff (h : d.Spells) :
    (d == ofContent d.path d.content) = true ↔ Text.Lined d.lines := by
  have hbeq : (d == ofContent d.path d.content) =
      (d.path.same d.path && d.content == d.content && d.lines == Text.splitLines d.content) := rfl
  rw [hbeq, Path.same, beq_self_eq_true, beq_self_eq_true, Bool.true_and, Bool.true_and,
    beq_iff_eq, eq_comm, Text.splitLines_eq_iff]
  exact and_iff_right h

end Spells

theorem lined_lines_run (p : Pipeline) (d : Document) :
    Text.Lined (p.run d).2.lines ↔ (p.run d).1.applied ≠ [] ∨ Text.Lined d.lines := by
  rw [Pipeline.run_eq]
  dsimp only
  split
  · next hnone => simp [hnone]
  · next hsome => exact iff_of_true (Text.lined_splitLines _) (.inl hsome)

/-- The lines of a text are the only ones that spell it, and the lines of a document always spell
its content, whatever was done to it. The document is the same as one newly made of its content
exactly if its lines are cut where the content is: always once the content is set, and behind a
pipeline exactly if a rule was applied or they were so before. -/
theorem lines_spell_content (p : Path) (t : Text) (es : List Edit) :
    (∀ c ls, Text.splitLines c = ls ↔ ls.flatten = c ∧ Text.Lined ls) ∧
    let d := (ofContent p t).edited es
    d.lines.flatten = d.content ∧
    ((d == ofContent d.path d.content) = true ↔ Text.Lined d.lines) ∧
    (∀ c, Text.Lined (d.setContent c).lines) ∧
    ∀ q : Pipeline, Text.Lined (q.run d).2.lines ↔
      (q.run d).1.applied ≠ [] ∨ Text.Lined d.lines := by
  refine ⟨fun c ls => Text.splitLines_eq_iff, ?_⟩
  intro d
  have hspells : d.Spells := (spells_ofContent p t).edited es
  exact ⟨hspells, hspells.beq_ofContent_iff, fun c => Text.lined_splitLines c,
    fun q => lined_lines_run q d⟩

/-- Lines that were set are cut anew even by rules that take each other's changes back. -/
example :
    let d := (ofContent (.ofString "A.java") []).setLines ["a\nb".toList, "c".toList]
    let grow : Rule := ⟨"Grow".toList, fun _ => true, fun t => .ok (t ++ ['d'])⟩
    let shrink : Rule := ⟨"Shrink".toList, fun _ => true, fun t => .ok t.dropLast⟩
    let after := Pipeline.run { rules := [grow, shrink] } d
    ¬ Text.Lined d.lines ∧ (d == ofContent d.path d.content) = false ∧
    after.1.changed = false ∧ after.2.lines = ["a\n".toList, "bc".toList] := by
  decide

end Document

end Refit
