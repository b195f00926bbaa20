import Refit.Proofs.Path.Order
import Refit.Source

namespace Refit.Memory

variable {m m' : Memory} {p q : Path} {c t : Text} {fs pre post : List (Path × Text)}

def Ascending (fs : List (Path × Text)) : Prop := fs.Pairwise fun f g => Path.cmp f.1 g.1 = .lt

/-- The files of a memory are in the order of their paths, and no two paths are the same. -/
def Ascends (m : Memory) : Prop := Ascending m.files

def writable (m : Memory) (p : Path) : Bool := !m.readOnly.any p.same

theorem ascending_iff : Ascending fs ↔ Path.Ascending (fs.map Prod.fst) := by
  rw [Ascending, Path.Ascending, List.pairwise_map]

theorem map_fst_insertFile (p : Path) (c : Text) (fs : List (Path × Text)) :
    (insertFile p c fs).map Prod.fst = p.insertSorted (fs.map Prod.fst) := by
  induction fs with
  | nil => rfl
  | cons f fs ih =>
    rw [insertFile, List.map_cons, Path.insertSorted]
    cases Path.cmp p f.1 with
    | lt => rfl
    | eq => rfl
    | gt => exact congrArg (f.1 :: ·) ih

theorem Ascending.insertFile (h : Ascending fs) (p : Path) (c : Text) :
    Ascending (insertFile p c fs) := by
  rw [ascending_iff, map_fst_insertFile]
  exact (ascending_iff.mp h).insertSorted p

theorem map_find?_insertFile (p : Path) (c : Text) (fs : List (Path × Text)) (q : Path) :
    ((insertFile p c fs).find? fun f => q.same f.1).map Prod.snd =
      if q.same p then some c else (fs.find? fun f => q.same f.1).map Prod.snd := by
  induction fs with
  | nil => cases h : q.same p <;> simp [insertFile, h]
  | cons f fs ih =>
    rw [insertFile]
    cases hcmp : Path.cmp p f.1 with
    | lt => cases h : q.same p <;> simp [h]
    | eq =>
      have hsame : q.same f.1 = q.same p := by
        rw [Path.same, Path.same, eq_of_beq (Path.cmp_eq_iff.mp hcmp)]
      cases h : q.same p <;> simp [hsame, h]
    | gt =>
      have hne := Path.components_ne_of_lt (Std.OrientedCmp.gt_iff_lt.mp hcmp)
      cases h : q.same f.1 with
      | false => simpa [h] using ih
      | true =>
        have hq : q.same p = false := by
          rw [Path.same_eq_false_iff, eq_of_beq h]
          exact hne
        simp [h, hq]

theorem get?_file (m : Memory) (p : Path) (c : Text) (q : Path) :
    (m.file p c).get? q = if q.same p then some c else m.get? q :=
  map_find?_insertFile p c m.files q

theorem write_of_writable (h : m.writable p = true) (c : Text) :
    m.write p c = .ok { m.file p c with writes := m.writes + 1 } := by
  have h : m.readOnly.any p.same = false := by simpa [writable] using h
  rw [write, h, if_neg Bool.false_ne_true]

theorem ascends_empty : Ascends {} := List.Pairwise.nil

theorem Ascends.file (h : m.Ascends) (p : Path) (c : Text) : (m.file p c).Ascends :=
  h.insertFile p c

theorem Ascends.refuseWrites (h : m.Ascends) (p : Path) : (m.refuseWrites p).Ascends := h

theorem Ascends.write (h : m.Ascends) (hw : m.write p c = .ok m') : m'.Ascends := by
  rw [Memory.write] at hw
  split at hw
  · cases hw
  · cases hw
    exact h.insertFile p c

section Place

variable (h : Ascending (pre ++ (p, t) :: post))
include h

theorem Ascending.lt_of_mem_left : ∀ f ∈ pre, Path.cmp f.1 p = .lt :=
  fun f hf => (List.pairwise_append.mp h).2.2 f hf (p, t) (by simp)

theorem Ascending.insertFile_append :
    Memory.insertFile p c (pre ++ (p, t) :: post) = pre ++ (p, c) :: post := by
  have hpre := h.lt_of_mem_left
  clear h
  induction pre with
  | nil =>
    have hself : Path.cmp p p = .eq := Std.ReflCmp.compare_self
    simp [Memory.insertFile, hself]
  | cons f pre ih =>
    simp only [List.mem_cons, forall_eq_or_imp] at hpre
    rw [List.cons_append, Memory.insertFile, Std.OrientedCmp.gt_iff_lt.mpr hpre.1, ih hpre.2]
    rfl

theorem Ascending.find?_append :
    (pre ++ (p, t) :: post).find? (fun f => p.same f.1) = some (p, t) := by
  have hpre : pre.find? (fun f => p.same f.1) = none := by
    rw [List.find?_eq_none]
    intro f hf
    simp [Path.not_same_of_lt (h.lt_of_mem_left f hf)]
  simp [List.find?_append, hpre]

end Place

theorem Ascends.get?_of_mem (h : m.Ascends) (hf : (p, t) ∈ m.files) : m.get? p = some t := by
  obtain ⟨pre, post, hfiles⟩ := List.append_of_mem hf
  rw [Ascends, hfiles] at h
  rw [get?, hfiles, h.find?_append]
  rfl

theorem Ascends.read_of_mem (h : m.Ascends) (hf : (p, t) ∈ m.files) : m.read p = .ok t := by
  rw [read, h.get?_of_mem hf]

theorem Ascends.write_eq_ok (h : m.Ascends) (hf : m.files = pre ++ (p, t) :: post)
    (hw : m.writable p = true) (c : Text) :
    m.write p c = .ok { m with files := pre ++ (p, c) :: post, writes := m.writes + 1 } := by
  rw [Ascends, hf] at h
  simp [write_of_writable hw, Memory.file, hf, h.insertFile_append]

theorem Ascends.get?_write (h : m.Ascends) (hf : (p, t) ∈ m.files) (hw : m.writable p = true)
    (c : Text) : ∃ m', m.write p c = .ok m' ∧ m'.Ascends ∧ m'.readOnly = m.readOnly ∧
      m'.files.map Prod.fst = m.files.map Prod.fst ∧
      ∀ q, m'.get? q = if q.same p then some c else m.get? q := by
  refine ⟨_, write_of_writable hw c, h.file p c, rfl, ?_, get?_file m p c⟩
  obtain ⟨pre, post, hfiles⟩ := List.append_of_mem hf
  rw [Ascends, hfiles] at h
  simp [Memory.file, hfiles, h.insertFile_append]

theorem write_eq_error (hw : m.writable p = false) (c : Text) :
    m.write p c = .error (.unwritable p .readOnly) := by
  have hw : m.readOnly.any p.same = true := by simpa [writable] using hw
  simp [Memory.write, hw]

end Refit.Memory
