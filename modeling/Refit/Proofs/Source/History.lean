import Refit.Proofs.Source.Memory

namespace Refit.Memory

variable {m : Memory} {p : Path} {texts : List (Path × Text)} {closed : List Path}

inductive Action
  | file (p : Path) (content : Text)
  | refuseWrites (p : Path)
  | write (p : Path) (content : Text)
  deriving Repr, DecidableEq

def act (m : Memory) : Action → Except Failure Memory
  | .file p c => .ok (m.file p c)
  | .refuseWrites p => .ok (m.refuseWrites p)
  | .write p c => m.write p c

def after (m : Memory) (a : Action) : Memory :=
  match m.act a with
  | .ok m' => m'
  | .error _ => m

def run (m : Memory) (as : List Action) : Memory := as.foldl after m

def succeeds (m : Memory) : Action → Bool
  | .write p c => (m.write p c).isOk
  | _ => false

def successes (m : Memory) : List Action → Nat
  | [] => 0
  | a :: as => (m.succeeds a).toNat + successes (m.after a) as

/-- What an action stores, under the path as it is spelled. A write stores nothing if its path is
the same as a closed one. -/
def storedBy (closed : List Path) : Action → List (Path × Text)
  | .file p c => [(p, c)]
  | .refuseWrites _ => []
  | .write p c => if closed.any p.same then [] else [(p, c)]

def closedBy : Action → List Path
  | .refuseWrites p => [p]
  | .file .. | .write .. => []

def stored (closed : List Path) : List Action → List (Path × Text)
  | [] => []
  | a :: as => storedBy closed a ++ stored (closed ++ closedBy a) as

/-- The text that was last stored under a path, however it was spelled. -/
def latest? (texts : List (Path × Text)) (p : Path) : Option Text :=
  (texts.reverse.find? fun f => p.same f.1).map Prod.snd

theorem latest?_concat (texts : List (Path × Text)) (p : Path) (c : Text) (q : Path) :
    latest? (texts ++ [(p, c)]) q = if q.same p then some c else latest? texts q := by
  rw [latest?, List.reverse_concat, List.find?_cons]
  cases q.same p <;> rfl

theorem writable_refuseWrites (m : Memory) (p q : Path) :
    (m.refuseWrites p).writable q = (m.writable q && !q.same p) := by
  rw [writable, writable, refuseWrites, ← Bool.not_or, Bool.not_inj_iff, Bool.eq_iff_iff,
    Bool.or_eq_true, Path.any_same_iff, Path.any_same_iff, Path.places_insertSorted,
    Finset.mem_insert, or_comm, Path.same, beq_iff_eq]

theorem after_file (m : Memory) (p : Path) (c : Text) : m.after (.file p c) = m.file p c := rfl

theorem after_refuseWrites (m : Memory) (p : Path) :
    m.after (.refuseWrites p) = m.refuseWrites p := rfl

theorem after_write (h : m.writable p = true) (c : Text) :
    m.after (.write p c) = { m.file p c with writes := m.writes + 1 } := by
  rw [after, act, write_of_writable h]

theorem after_write_refused (h : m.writable p = false) (c : Text) :
    m.after (.write p c) = m := by
  rw [after, act, write_eq_error h]

structure Reflects (m : Memory) (texts : List (Path × Text)) (closed : List Path) : Prop where
  get?_eq : ∀ p, m.get? p = latest? texts p
  names_eq : m.files.map Prod.fst = Path.union [] (texts.map Prod.fst)
  writable_eq : ∀ p, m.writable p = !closed.any p.same

theorem reflects_empty : Reflects {} [] [] := ⟨fun _ => rfl, rfl, fun _ => rfl⟩

namespace Reflects

theorem file (h : m.Reflects texts closed) (p : Path) (c : Text) (n : Nat) :
    Reflects { m.file p c with writes := n } (texts ++ [(p, c)]) closed where
  get?_eq q := by
    refine (get?_file m p c q).trans ?_
    rw [latest?_concat, h.get?_eq]
  names_eq := by
    refine (map_fst_insertFile p c m.files).trans ?_
    rw [h.names_eq, List.map_append, Path.union, Path.union, List.foldl_append]
    rfl
  writable_eq := h.writable_eq

theorem refuseWrites (h : m.Reflects texts closed) (p : Path) :
    (m.refuseWrites p).Reflects texts (closed ++ [p]) where
  get?_eq := h.get?_eq
  names_eq := h.names_eq
  writable_eq q := by
    rw [writable_refuseWrites, h.writable_eq, List.any_append, Bool.not_or]
    simp

theorem after (h : m.Reflects texts closed) (a : Action) :
    (m.after a).Reflects (texts ++ storedBy closed a) (closed ++ closedBy a) := by
  cases a with
  | file p c =>
    rw [after_file, closedBy, List.append_nil]
    exact h.file p c m.writes
  | refuseWrites p =>
    rw [after_refuseWrites, storedBy, List.append_nil]
    exact h.refuseWrites p
  | write p c =>
    rw [storedBy, closedBy, List.append_nil]
    have hwritable := h.writable_eq p
    cases hclosed : closed.any p.same with
    | true =>
      rw [hclosed, Bool.not_true] at hwritable
      rw [after_write_refused hwritable, if_pos rfl, List.append_nil]
      exact h
    | false =>
      rw [hclosed, Bool.not_false] at hwritable
      rw [after_write hwritable, if_neg Bool.false_ne_true]
      exact h.file p c (m.writes + 1)

theorem run (h : m.Reflects texts closed) (as : List Action) :
    (m.run as).Reflects (texts ++ stored closed as) (closed ++ as.flatMap closedBy) := by
  induction as generalizing m texts closed with
  | nil =>
    rw [stored, List.flatMap_nil, List.append_nil, List.append_nil]
    exact h
  | cons a as ih =>
    rw [stored, List.flatMap_cons, ← List.append_assoc, ← List.append_assoc]
    exact ih (h.after a)

end Reflects

theorem writes_after (m : Memory) (a : Action) :
    (m.after a).writes = m.writes + (m.succeeds a).toNat := by
  cases a with
  | file p c => rfl
  | refuseWrites p => rfl
  | write p c =>
    cases h : m.writable p with
    | true =>
      rw [after_write h, succeeds, write_of_writable h]
      rfl
    | false =>
      rw [after_write_refused h, succeeds, write_eq_error h]
      rfl

theorem writes_run (m : Memory) (as : List Action) :
    (m.run as).writes = m.writes + m.successes as := by
  induction as generalizing m with
  | nil => rfl
  | cons a as ih =>
    rw [successes, ← Nat.add_assoc, ← writes_after]
    exact ih (m.after a)

/-- Files in memory are a map from paths, told apart by their components. After any actions a path
has the text that was last stored under a path that is the same. Writes to a path that is the same
as one that refuses them change nothing, all others succeed and are counted. The list ascends, and
has of all stored paths that are the same the one that was stored first. -/
theorem memory_maps_paths (as : List Action) :
    let m := run {} as
    let texts := stored [] as
    (∀ p, m.get? p = latest? texts p ∧ ∀ t, m.read p = .ok t ↔ latest? texts p = some t) ∧
    (∀ p c, (as.flatMap closedBy).any p.same = true →
      m.write p c = .error (.unwritable p .readOnly) ∧ m.after (.write p c) = m) ∧
    (∀ p c, (as.flatMap closedBy).any p.same = false →
      m.write p c = .ok { m.file p c with writes := m.writes + 1 }) ∧
    m.writes = successes {} as ∧
    ∃ ps, source.list m = .ok ps ∧ Path.Ascending ps ∧
      (∀ p, p ∈ ps ↔ (texts.map Prod.fst).find? p.same = some p) ∧
      ∀ q ∈ texts.map Prod.fst, ∃! p, p ∈ ps ∧ q.same p = true := by
  intro m texts
  have hm : m.Reflects texts (as.flatMap closedBy) := reflects_empty.run as
  have hnil : Path.Ascending [] := List.Pairwise.nil
  have hwritable (p : Path) := hm.writable_eq p
  refine ⟨fun p => ⟨hm.get?_eq p, fun t => ?_⟩, fun p c hclosed => ?_, fun p c hopen => ?_, ?_,
    m.files.map Prod.fst, rfl, ?_, ?_, ?_⟩
  · rw [read, hm.get?_eq]
    cases latest? texts p <;> simp
  · have hrefused : m.writable p = false := by rw [hwritable, hclosed, Bool.not_true]
    exact ⟨write_eq_error hrefused c, after_write_refused hrefused c⟩
  · exact write_of_writable (by rw [hwritable, hopen, Bool.not_false]) c
  · exact (writes_run {} as).trans (Nat.zero_add _)
  · exact hm.names_eq ▸ hnil.union _
  · exact fun p => hm.names_eq ▸ Path.mem_union_nil_iff
  · exact fun q hq => hm.names_eq ▸ Path.existsUnique_union_nil hq

theorem memory_maps_paths_spellings :
    let as : List Action := [.write (.ofString "a//b") "1".toList, .file (.ofString "./a/b") [],
      .write (.ofString "a/b/") "2".toList, .refuseWrites (.ofString "a/./b"),
      .write (.ofString "a/b") "3".toList]
    (as.flatMap closedBy).any (Path.ofString "a/b").same = true ∧
    (run {} as).get? (.ofString "a/b") = some "2".toList ∧
    (run {} as).write (.ofString "a/b") [] = .error (.unwritable (.ofString "a/b") .readOnly) ∧
    (run {} as).writes = 2 ∧
    ∃ ps, source.list (run {} as) = .ok ps ∧ .ofString "a//b" ∈ ps ∧ .ofString "a/b" ∉ ps := by
  intro as
  obtain ⟨hget, hrefused, -, hwrites, ps, hlist, -, hps, -⟩ := memory_maps_paths as
  have hclosed : (as.flatMap closedBy).any (Path.ofString "a/b").same = true := by decide
  refine ⟨hclosed, ?_, (hrefused _ [] hclosed).1, ?_, ps, hlist, ?_, ?_⟩
  · rw [(hget _).1]
    decide
  · rw [hwrites]
    decide
  · rw [hps]
    decide
  · rw [hps]
    decide

end Refit.Memory
