import Mathlib.Tactic.FinCases
import Refit.Pattern
import Refit.Proofs.Pattern.Line

namespace Refit.Pattern

open Token (metaCharacters)

variable {c : Char} {more : Text} {turns groups : Nat} {names : List (Text × Nat)}
  {g : Reader.OpenGroup}

namespace Atom

def step : Atom → Step
  | literal c => .one (.single c)
  | set s => .one s
  | look l => .look l

def expr : Atom → Expr
  | literal c => .set (.single c)
  | set s => .set s
  | look l => .look l

theorem emit_expr (a : Atom) (below : List Step) :
    a.expr.emit below.length (lineCode below) =
      ((a.step :: below).length, lineCode (a.step :: below)) := by
  cases a <;> simp only [expr, Expr.emit, Code.add, size_lineCode] <;> rfl

end Atom

theorem emit_seqs (as : List Atom) (below : List Step) :
    (Expr.seqs (as.map Atom.expr)).emit below.length (lineCode below) =
      ((as.map Atom.step ++ below).length, lineCode (as.map Atom.step ++ below)) := by
  induction as with
  | nil => rfl
  | cons a as ih =>
    cases as with
    | nil => exact a.emit_expr below
    | cons b as =>
      rw [List.map_cons, List.map_cons, Expr.seqs, Expr.emit, ← List.map_cons, ih]
      · exact a.emit_expr _
      · simp

def wholeLine (as : List Atom) : List Step := .save 0 :: (as.map Atom.step ++ [.save 1])

theorem program_eq (e : Expr) :
    e.program = ⟨(e.emit 1 #[.done, .save 1 0]).2.push (.save 0 (e.emit 1 #[.done, .save 1 0]).1),
      (e.emit 1 #[.done, .save 1 0]).2.size⟩ := rfl

theorem program_seqs (as : List Atom) :
    (Expr.seqs (as.map Atom.expr)).program = ⟨lineCode (wholeLine as), (wholeLine as).length⟩ := by
  have hemit : (Expr.seqs (as.map Atom.expr)).emit 1 #[Instr.done, .save 1 0] =
      ((as.map Atom.step ++ [Step.save 1]).length,
        lineCode (as.map Atom.step ++ [Step.save 1])) :=
    emit_seqs as [.save 1]
  rw [program_eq, hemit]
  simp only [size_lineCode]
  rfl

def Atom.part (a : Atom) : Part := { expr := a.expr }

namespace Reader

section Runs

variable {α β : Type} (r : Reading)

theorem bind_apply (x : Reader α) (f : α → Reader β) :
    (x >>= f) r = match x r with
      | .ok (a, r) => f a r
      | .error e => .error e := by
  change (x r >>= fun p => f p.1 p.2) = _
  cases x r <;> rfl

theorem rest_apply : rest r = .ok (r.rest, r) := rfl

theorem flags_apply : flags r = .ok (r.flags, r) := rfl

theorem bump_apply : bump r = .ok ((), { r with rest := r.rest.drop 1 }) := rfl

theorem skipBlanks_apply (hspaced : r.flags.spaced = false) : skipBlanks r = .ok ((), r) := by
  change Except.ok ((), if r.flags.spaced then _ else r) = _
  rw [hspaced]
  rfl

end Runs

def operators : List Char := ['(', ')', '|', '[', '?', '*', '+', '\x7b']

theorem groupRest_of_atom (hc : c ∉ operators) :
    groupRest [] g (turns + 1) ⟨c :: more, {}, groups, names⟩ =
      (atom c >>= fun p => groupRest [] (g.push p) turns) ⟨c :: more, {}, groups, names⟩ := by
  simp only [operators, List.mem_cons, List.not_mem_nil, or_false, not_or] at hc
  simp [groupRest, hc, bind_apply, rest_apply, skipBlanks_apply]

theorem atom_escaped (hc : c ∈ metaCharacters) :
    atom '\\' ⟨'\\' :: c :: more, {}, groups, names⟩ =
      .ok ((Atom.literal c).part, ⟨more, {}, groups, names⟩) := by
  fin_cases hc <;> rfl

theorem atom_plain (hc : c ∉ metaCharacters) :
    atom c ⟨c :: more, {}, groups, names⟩ =
      .ok ((Atom.literal c).part, ⟨more, {}, groups, names⟩) := by
  simp only [atom, bind_apply, flags_apply, bump_apply]
  -- The characters that mean something else are all escaped in a literal.
  split <;> first | exact absurd (by decide) hc | rfl

theorem groupRest_literal (c : Char) :
    groupRest [] g (turns + 1) ⟨Token.escape [c] ++ more, {}, groups, names⟩ =
      groupRest [] (g.push (Atom.literal c).part) turns ⟨more, {}, groups, names⟩ := by
  by_cases hc : c ∈ metaCharacters
  · have hescape : Token.escape [c] = ['\\', c] := by simp [Token.escape, hc]
    rw [hescape, List.cons_append, List.cons_append, List.nil_append,
      groupRest_of_atom (by decide), bind_apply, atom_escaped hc]
  · have hescape : Token.escape [c] = [c] := by simp [Token.escape, hc]
    have hoperator : c ∉ operators := fun h => hc (by fin_cases h <;> decide)
    rw [hescape, List.singleton_append, groupRest_of_atom hoperator, bind_apply, atom_plain hc]

theorem wordEdge_of_head? (hmore : more.head? ≠ some '\x7b') :
    wordEdge ⟨more, {}, groups, names⟩ = .ok (.boundary, ⟨more, {}, groups, names⟩) := by
  cases more with
  | nil => rfl
  | cons d more =>
    have hd : '\x7b' ≠ d := fun h => hmore (by rw [h]; rfl)
    simp only [wordEdge, accept, bind_apply, rest_apply, Text.dropStart?, if_neg hd]
    rfl

theorem escape_boundary (hmore : more.head? ≠ some '\x7b') :
    escape ⟨'b' :: more, {}, groups, names⟩ =
      .ok (.look (.edge .boundary false), ⟨more, {}, groups, names⟩) := by
  change (wordEdge >>= fun e => pure (Atom.look (.edge e false))) ⟨more, {}, groups, names⟩ = _
  rw [bind_apply, wordEdge_of_head? hmore]
  rfl

theorem groupRest_boundary (hmore : more.head? ≠ some '\x7b') :
    groupRest [] g (turns + 1) ⟨'\\' :: 'b' :: more, {}, groups, names⟩ =
      groupRest [] (g.push (Atom.look (.edge .boundary false)).part) turns
        ⟨more, {}, groups, names⟩ := by
  have hatom : atom '\\' ⟨'\\' :: 'b' :: more, {}, groups, names⟩ =
      .ok ((Atom.look (.edge .boundary false)).part, ⟨more, {}, groups, names⟩) := by
    simp only [atom, bind_apply, flags_apply, bump_apply, List.drop_succ_cons, List.drop_zero,
      escape_boundary hmore]
    rfl
  rw [groupRest_of_atom (by decide), bind_apply, hatom]

namespace OpenGroup

def read (g : OpenGroup) (as : List Atom) : OpenGroup :=
  { g with parts := (as.map Atom.part).reverse ++ g.parts }

theorem push_read (g : OpenGroup) (a : Atom) (as : List Atom) :
    (g.push a.part).read as = g.read (a :: as) := by
  simp [read, push]

theorem read_read (g : OpenGroup) (as bs : List Atom) :
    (g.read as).read bs = g.read (as ++ bs) := by
  simp [read]

theorem content_read (as : List Atom) :
    (({ index := none, flags := {} } : OpenGroup).read as).content =
      .seqs (as.map Atom.part) := by
  simp [read, content, branch, Part.alts]

end OpenGroup

theorem groupRest_escape (literal : Text) :
    groupRest [] g (literal.length + turns) ⟨Token.escape literal ++ more, {}, groups, names⟩ =
      groupRest [] (g.read (literal.map .literal)) turns ⟨more, {}, groups, names⟩ := by
  induction literal generalizing g with
  | nil => simp [Token.escape, OpenGroup.read]
  | cons c literal ih =>
    have hescape : Token.escape (c :: literal) = Token.escape [c] ++ Token.escape literal := by
      simp [Token.escape]
    rw [hescape, List.append_assoc, List.length_cons, Nat.add_right_comm, groupRest_literal, ih,
      OpenGroup.push_read]
    rfl

end Reader

theorem seqs_part (as : List Atom) :
    (Part.seqs (as.map Atom.part)).expr = Expr.seqs (as.map Atom.expr) ∧
      (Part.seqs (as.map Atom.part)).depth ≤ 1 := by
  have hdepth (n : Nat) : ((as.map Atom.part).map Part.depth).foldl max n = n := by
    induction as generalizing n with
    | nil => rfl
    | cons a as ih => exact (ih (max n 0)).trans (Nat.max_zero n)
  rcases as with - | ⟨a, - | ⟨b, as⟩⟩
  · exact ⟨rfl, Nat.zero_le 1⟩
  · exact ⟨rfl, Nat.zero_le 1⟩
  · refine ⟨?_, ?_⟩
    · simp [Part.seqs, Atom.part, Function.comp_def]
    · exact Nat.le_of_eq (congrArg (1 + ·) (hdepth 0))

end Refit.Pattern
