import Mathlib.Data.List.Pairwise
import Refit.Proofs.Batch.Pointwise
import Refit.Proofs.Tree.Source

namespace Refit

namespace Batch

section Simulation

variable {σ τ : Type} {src : Source σ} {src' : Source τ} {R : σ → τ → Prop} {s : σ} {t : τ}
  {b : Batch} {ps : List Path} {p : Path}

/-- Two sources whose states show the same texts under some paths, and go on to do so when one of
these is written. -/
structure Simulates (src : Source σ) (src' : Source τ) (R : σ → τ → Prop) (ps : List Path) :
    Prop where
  read : ∀ p ∈ ps, ∀ s t, R s t → ∃ c, src.read s p = .ok c ∧ src'.read t p = .ok c
  write : ∀ p ∈ ps, ∀ c s t, R s t →
    ∃ s' t', src.write s p c = .ok s' ∧ src'.write t p c = .ok t' ∧ R s' t'

theorem Simulates.file (hsim : Simulates src src' R ps) (hp : p ∈ ps) (h : R s t) (b : Batch)
    (sum : Summary) : ∃ sum' s' t', b.file src sum s p = (sum', s', none) ∧
      b.file src' sum t p = (sum', t', none) ∧ R s' t' := by
  obtain ⟨c, hs, ht⟩ := hsim.read p hp s t h
  rw [file_of_read hs, file_of_read ht]
  dsimp only
  cases hchanged : (b.outcome (p, c)).changed with
  | false => exact ⟨_, s, t, rfl, rfl, h⟩
  | true =>
    cases hdry : b.dryRun with
    | true => exact ⟨_, s, t, rfl, rfl, h⟩
    | false =>
      obtain ⟨s', t', hs', ht', h'⟩ := hsim.write p hp (b.outcome (p, c)).content s t h
      rw [hs', ht']
      exact ⟨_, s', t', rfl, rfl, h'⟩

theorem Simulates.files (hsim : Simulates src src' R ps) (h : R s t) (b : Batch) (sum : Summary) :
    ∃ sum' s' t', b.files src sum s ps = (.ok sum', s') ∧
      b.files src' sum t ps = (.ok sum', t') ∧ R s' t' := by
  induction ps generalizing s t sum with
  | nil => exact ⟨sum, s, t, rfl, rfl, h⟩
  | cons p ps ih =>
    obtain ⟨sum', s', t', hs, ht, h'⟩ :=
      hsim.file List.mem_cons_self h b { sum with scanned := sum.scanned + 1 }
    have hrest : Simulates src src' R ps :=
      ⟨fun q hq => hsim.read q (List.mem_cons_of_mem p hq),
        fun q hq => hsim.write q (List.mem_cons_of_mem p hq)⟩
    rw [Batch.files, Batch.files, hs, ht]
    exact ih hrest h' sum'

theorem file_dryRun (hdry : b.dryRun = true) (src : Source σ) (sum : Summary) (s : σ) (p : Path) :
    (b.file src sum s p).2.1 = s := by
  rw [file]
  split
  · rfl
  · dsimp only
    split
    · rfl
    · rfl

theorem files_dryRun (hdry : b.dryRun = true) (src : Source σ) (sum : Summary) (s : σ)
    (ps : List Path) : (b.files src sum s ps).2 = s := by
  induction ps generalizing sum with
  | nil => rfl
  | cons p ps ih =>
    have hfile := file_dryRun hdry src { sum with scanned := sum.scanned + 1 } s p
    rw [Batch.files]
    split
    · next hp =>
      rw [hp] at hfile
      obtain rfl : _ = s := hfile
      exact ih _
    · next hp =>
      rw [hp] at hfile
      obtain rfl : _ = s := hfile
      split
      · exact ih _
      · rfl

theorem run_dry (hdry : b.dryRun = true) (src : Source σ) (s : σ) : (b.run src s).2 = s := by
  rw [run]
  split
  · rfl
  · exact files_dryRun hdry src {} s _

end Simulation

variable {tree after : Tree} {root : Path} {m : Matcher} {mem : Memory} {b : Batch}
  {texts : List (List Text × Text)} {x y : List Text × Text} {want : List Text × Text → Bool}

structure Mirrors (root : Path) (texts : List (List Text × Text)) (ps : List Path) (tree : Tree)
    (mem : Memory) : Prop where
  holds : tree.Holds root (texts.map fun x => (x.1, (mem.get? (root.below x.1)).getD x.2))
  ascends : mem.Ascends
  writable : mem.readOnly = []
  paths : mem.files.map Prod.fst = ps

theorem eq_of_same (h : tree.Holds root texts) (hx : x ∈ texts) (hy : y ∈ texts)
    (hsame : (root.below x.1).same (root.below y.1) = true) : x = y := by
  by_contra hne
  have : Std.Symm fun x y : List Text × Text => (root.below y.1).same (root.below x.1) = false :=
    ⟨fun x y hxy => by simpa [Path.same, Bool.beq_comm] using hxy⟩
  have hdiffer := (h.ascends.imp fun hlt => Path.not_same_of_lt hlt).forall hy hx (Ne.symm hne)
  rw [hsame] at hdiffer
  cases hdiffer

def memoryOf (root : Path) (texts : List (List Text × Text)) : Memory where
  files := texts.map fun x => (root.below x.1, x.2)

section Held

variable (h : tree.Holds root texts)
include h

theorem ascending_texts (want : List Text × Text → Bool) (g : List Text × Text → Text) :
    Memory.Ascending ((texts.filter want).map fun x => (root.below x.1, g x)) := by
  rw [Memory.Ascending, List.pairwise_map]
  exact h.ascends.filter want

theorem get?_texts (g : List Text × Text → Text) (hx : x ∈ texts)
    (hmem : mem.files = (texts.filter want).map fun x => (root.below x.1, g x)) :
    mem.get? (root.below x.1) = if want x then some (g x) else none := by
  cases hwant : want x with
  | true =>
    have hascends : mem.Ascends := by
      rw [Memory.Ascends, hmem]
      exact ascending_texts h want g
    refine hascends.get?_of_mem ?_
    rw [hmem]
    exact List.mem_map.mpr ⟨x, List.mem_filter.mpr ⟨hx, hwant⟩, rfl⟩
  | false =>
    rw [Memory.get?, hmem, List.find?_eq_none.mpr]
    · rfl
    · intro f hf hsame
      obtain ⟨y, hy, rfl⟩ := List.mem_map.mp hf
      obtain ⟨hy, hwanty⟩ := List.mem_filter.mp hy
      rw [eq_of_same h hx hy hsame, hwanty] at hwant
      cases hwant

theorem mirrors_memoryOf (want : List Text × Text → Bool) :
    Mirrors root texts ((texts.filter want).map (root.below ·.1)) tree
      (memoryOf root (texts.filter want)) where
  holds := by
    have hsame : texts.map (fun x => (x.1,
        ((memoryOf root (texts.filter want)).get? (root.below x.1)).getD x.2)) = texts := by
      refine (List.map_congr_left fun x hx => ?_).trans (List.map_id texts)
      rw [get?_texts h Prod.snd hx rfl]
      cases want x <;> rfl
    rwa [hsame]
  ascends := ascending_texts h want Prod.snd
  writable := rfl
  paths := by simp [memoryOf]

theorem simulates (m : Matcher) (want : List Text × Text → Bool) :
    Simulates (Tree.source root m) Memory.source
      (Mirrors root texts ((texts.filter want).map (root.below ·.1)))
      ((texts.filter want).map (root.below ·.1)) where
  read := by
    intro p hp tree mem hmirrors
    obtain ⟨x, hx, hxp⟩ := List.mem_map.mp hp
    rw [← hmirrors.paths] at hp
    obtain ⟨⟨q, t⟩, hmem, rfl⟩ := List.mem_map.mp hp
    have hget := hmirrors.ascends.get?_of_mem hmem
    have htext : (x.1, t) ∈ texts.map fun x =>
        (x.1, (mem.get? (root.below x.1)).getD x.2) := by
      refine List.mem_map.mpr ⟨x, (List.mem_filter.mp hx).1, ?_⟩
      rw [hxp, hget]
      rfl
    have hread := hmirrors.holds.readText htext
    rw [hxp] at hread
    exact ⟨t, congrArg (Except.mapError _) hread, hmirrors.ascends.read_of_mem hmem⟩
  write := by
    intro p hp c tree mem hmirrors
    obtain ⟨x, hx, hxp⟩ := List.mem_map.mp hp
    have hx := (List.mem_filter.mp hx).1
    have hpaths := hmirrors.paths ▸ hp
    obtain ⟨⟨q, t⟩, hmem, rfl⟩ := List.mem_map.mp hpaths
    have hwritable : mem.writable q = true := by simp [Memory.writable, hmirrors.writable]
    obtain ⟨mem', hwrite, hascends, hreadOnly, hkeys, hget⟩ :=
      hmirrors.ascends.get?_write hmem hwritable c
    obtain ⟨after, hafter, hholds⟩ :=
      hmirrors.holds.writeText (List.mem_map_of_mem hx) c
    -- No other text has the path that was written.
    have hsame : (texts.map fun x => (x.1, (mem.get? (root.below x.1)).getD x.2)).map
        (Tree.retext x.1 c) = texts.map fun x => (x.1, (mem'.get? (root.below x.1)).getD x.2) := by
      rw [List.map_map]
      refine List.map_congr_left fun y hy => ?_
      rw [Function.comp_apply, Tree.retext, hget]
      by_cases hyx : y.1 = x.1
      · rw [if_pos hyx, hyx, hxp, if_pos (Path.same_refl q)]
        rfl
      · have hdiffer : ¬(root.below y.1).same q = true := by
          intro hsame
          rw [← show root.below x.1 = q from hxp] at hsame
          exact hyx (congrArg Prod.fst (eq_of_same h hy hx hsame))
        rw [if_neg hyx, if_neg hdiffer]
    rw [hsame] at hholds
    rw [hxp] at hafter
    exact ⟨after, mem', congrArg (Except.mapError _) hafter, hwrite, hholds, hascends,
      hreadOnly.trans hmirrors.writable, hkeys.trans hmirrors.paths⟩

/-- A batch over a tree: what it says, and what it leaves below the root. -/
theorem run_tree (b : Batch)
    (hlist : m.list root tree = .ok ((texts.filter want).map (root.below ·.1))) :
    ∃ after, b.run (Tree.source root m) tree =
        (.ok (b.report (memoryOf root (texts.filter want))
          (memoryOf root (texts.filter want)).files), after) ∧
      after.Holds root (texts.map fun x => (x.1, if want x then
        (b.leave (memoryOf root (texts.filter want)) (root.below x.1, x.2)).2 else x.2)) := by
  have hmirrors := mirrors_memoryOf h want
  obtain ⟨sum, after, mem, htree, hmemory, hafter⟩ := (simulates h m want).files hmirrors b {}
  have hrun := run_memory b hmirrors.ascends
  have hlistMemory : Memory.source.list (memoryOf root (texts.filter want)) =
      .ok ((texts.filter want).map (root.below ·.1)) := congrArg Except.ok hmirrors.paths
  have hlistTree : (Tree.source root m).list tree =
      .ok ((texts.filter want).map (root.below ·.1)) := hlist
  rw [Batch.run, hlistMemory] at hrun
  obtain ⟨hsum, hmem⟩ := Prod.mk.inj (hmemory.symm.trans hrun)
  refine ⟨after, ?_, ?_⟩
  · rw [Batch.run, hlistTree]
    dsimp only
    rw [htree, hsum]
  · have hsame : texts.map (fun x => (x.1, (mem.get? (root.below x.1)).getD x.2)) =
        texts.map fun x => (x.1, if want x then
          (b.leave (memoryOf root (texts.filter want)) (root.below x.1, x.2)).2 else x.2) := by
      refine List.map_congr_left fun x hx => ?_
      have hfiles : mem.files = (texts.filter want).map fun x => (root.below x.1,
          (b.leave (memoryOf root (texts.filter want)) (root.below x.1, x.2)).2) := by
        rw [hmem]
        exact List.map_map
      rw [get?_texts h _ hx hfiles]
      cases want x <;> rfl
    rw [← hsame]
    exact hafter.holds

end Held

end Batch

end Refit
