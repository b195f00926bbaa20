import Refit.Proofs.Import.Insertion

namespace Refit

open LineShape Phrase
open Text (splitLines)

variable {i : Import} {c o opener closer : Text} {inner above below lines : List Text} {n k : Nat}

section LastPlace

variable {α : Type} {p : α → Bool} {u v a b d : List α} {x : α}

theorem length_le_iff_exists (hx : p x = true) (hv : ∀ y ∈ v, p y = false)
    (h : u ++ x :: v = a ++ d) : a.length ≤ u.length ↔ ∃ y ∈ d, p y = true := by
  rcases List.append_eq_append_iff.mp h with ⟨r, rfl, hr⟩ | ⟨r, rfl, rfl⟩
  · cases r with
    | nil =>
      obtain rfl : d = x :: v := hr.symm
      simp [hx]
    | cons y r =>
      obtain ⟨rfl, rfl⟩ := List.cons.inj hr
      have hnone : ¬ ∃ y ∈ d, p y = true := fun ⟨y, hy, hpy⟩ => by
        simp [hv y (List.mem_append_right r hy)] at hpy
      simp only [hnone, iff_false, List.length_append, List.length_cons]
      omega
  · simp only [List.length_append, Nat.le_add_right, true_iff]
    exact ⟨x, by simp, hx⟩

theorem last_mem_middle_iff (hx : p x = true) (hv : ∀ y ∈ v, p y = false)
    (h : u ++ x :: v = a ++ (b ++ d)) :
    (a.length ≤ u.length ∧ u.length < a.length + b.length) ↔
      (∃ y ∈ b, p y = true) ∧ ∀ y ∈ d, p y = false := by
  have hfrom := length_le_iff_exists hx hv h
  have hbehind := length_le_iff_exists hx hv (h.trans (List.append_assoc a b d).symm)
  rw [List.length_append] at hbehind
  have hparts : (∃ y ∈ b ++ d, p y = true) ↔ (∃ y ∈ b, p y = true) ∨ ∃ y ∈ d, p y = true := by
    simp [or_and_right, exists_or]
  have hnone : (∀ y ∈ d, p y = false) ↔ ¬ ∃ y ∈ d, p y = true := by simp
  rw [← Nat.not_le, hfrom, hbehind, hparts, hnone]
  exact and_congr_left fun hnot => or_iff_left hnot

end LastPlace

namespace Language

def enclosedStart : LineShape :=
  ⟨.all [blanks, fixed "from", gap, words ['.'], gap, fixed "import", blanks, fixed "("], false⟩

/-- The same, at the beginning of the line and with a blank before the parenthesis. -/
def topLevelStart : LineShape :=
  ⟨.all [fixed "from", gap, words ['.'], gap, fixed "import", gap, fixed "("], false⟩

def closesParenthesis (line : Text) : Bool := (line.takeWhile (· != '#')).contains ')'

/-- The lines of an import in parentheses: the first one leaves them open, and the last one is the
first that closes them. -/
structure Enclosed (opener : Text) (inner : List Text) (closer : Text) : Prop where
  begins : enclosedStart.accepts opener = true
  stays : ∀ line ∈ opener :: inner, closesParenthesis line = false
  ends : closesParenthesis closer = true

def InParentheses (lines : List Text) (n : Nat) : Prop :=
  ∃ above opener inner closer below, lines = above ++ (opener :: inner ++ closer :: below) ∧
    Enclosed opener inner closer ∧
    above.length < n ∧ n ≤ above.length + (opener :: inner).length

/-- The last lines that are told to be imports stand in parentheses. -/
def LastEnclosed (lines : List Text) : Prop :=
  ∃ above opener inner closer below, lines = above ++ (opener :: inner ++ closer :: below) ∧
    Enclosed opener inner closer ∧
    (∃ line ∈ opener :: inner, python.isImport line = true) ∧
    ∀ line ∈ closer :: below, python.isImport line = false

theorem isImport_of_topLevelStart (h : topLevelStart.accepts opener = true) :
    python.isImport opener = true := by
  have hopen : topLevelStart.whole = false := rfl
  have hshape : topLevelStart.phrase =
      .all ([fixed "from", gap, words ['.'], gap, fixed "import", gap] ++ [fixed "("]) := rfl
  rw [accepts, hopen, if_neg Bool.false_ne_true, hshape, matchesStart_iff] at h
  obtain ⟨_, w, rfl, h⟩ := h
  obtain ⟨u, v, rfl, hu, -⟩ := matches_all_concat.mp h
  refine List.any_eq_true.mpr ⟨_, List.mem_singleton_self _, ?_⟩
  rw [accepts, if_neg Bool.false_ne_true, matchesStart_iff]
  exact ⟨u, v ++ w, by simp, .right hu⟩

end Language

namespace Import

open Refit.Language (python Enclosed InParentheses LastEnclosed)

theorem exists_of_anchor?_python (h : anchor? python lines = some k) :
    ∃ u x v, lines = u ++ x :: v ∧ u.length = k ∧ python.isImport x = true ∧
      ∀ y ∈ v, python.isImport y = false := by
  have hlt := anchor?_lt h
  have hkinds : python.classify lines = lines.map python.kindOf := rfl
  have hat (j : Nat) (line : Text) : lines[j]? = some line →
      ((python.classify lines)[j]? = some LineKind.imports ↔ python.isImport line = true) := by
    intro hj
    rw [hkinds, List.getElem?_map, hj, Option.map_some, Option.some_inj,
      Language.kindOf_eq_imports_iff]
  refine ⟨lines.take k, lines[k], lines.drop (k + 1), ?_, List.length_take_of_le hlt.le, ?_⟩
  · rw [← List.drop_eq_getElem_cons hlt, List.take_append_drop]
  · rcases isAnchor_of_anchor? h with ⟨himport, hlast⟩ | ⟨-, hdeclares, -⟩
    · refine ⟨(hat k _ (List.getElem?_eq_getElem hlt)).mp himport, fun y hy => ?_⟩
      obtain ⟨j, hj⟩ := List.getElem?_of_mem hy
      rw [List.getElem?_drop] at hj
      rw [← Bool.not_eq_true, ← hat (k + 1 + j) y hj]
      exact hlast _ (by omega)
    · -- No line of Python is a declaration.
      rw [hkinds, List.getElem?_map, List.getElem?_eq_getElem hlt, Option.map_some,
        Option.some_inj, Language.kindOf] at hdeclares
      split at hdeclares <;> cases hdeclares

/-- A new import lands in the parentheses of another one if that is the last import of the text. It
does so behind every import in parentheses that begins its line, has a blank before the parenthesis
and is followed by no other. -/
theorem lands_in_parentheses_iff (hi : i.language = python)
    (h : i.resolve c = .ok (.inserted n o)) :
    (InParentheses (splitLines c) n ↔ LastEnclosed (splitLines c)) ∧
    ∀ above opener inner closer below,
      splitLines c = above ++ (opener :: inner ++ closer :: below) → Enclosed opener inner closer →
      Language.topLevelStart.accepts opener = true →
      (∀ line ∈ closer :: below, python.isImport line = false) →
        InParentheses (splitLines c) n := by
  obtain ⟨k, hk, rfl, -⟩ := exists_of_resolve h
  rw [hi] at hk
  obtain ⟨u, x, v, hlines, rfl, hx, hv⟩ := exists_of_anchor?_python hk
  have hiff : InParentheses (splitLines c) (u.length + 1) ↔ LastEnclosed (splitLines c) := by
    unfold InParentheses LastEnclosed
    refine exists_congr fun above => exists_congr fun opener => exists_congr fun inner =>
      exists_congr fun closer => exists_congr fun below => and_congr_right fun hc =>
      and_congr_right fun _ => ?_
    rw [← last_mem_middle_iff hx hv (hlines.symm.trans hc), Nat.lt_succ_iff, Nat.succ_le_iff]
  refine ⟨hiff, fun above opener inner closer below hc hclosed hstart hnone => ?_⟩
  exact hiff.mpr ⟨above, opener, inner, closer, below, hc, hclosed,
    ⟨opener, List.mem_cons_self, Language.isImport_of_topLevelStart hstart⟩, hnone⟩

theorem lands_in_parentheses_iff_second : ∃ i o,
    make? .python "c".toList "import c".toList "c".toList = .ok i ∧
    i.resolve "from m import (\n  a)\nfrom n import ( # (b)\n  b\n)\nc.f(a)\n".toList =
      .ok (.inserted 3 o) ∧
    InParentheses
      (splitLines "from m import (\n  a)\nfrom n import ( # (b)\n  b\n)\nc.f(a)\n".toList) 3 ∧
    o = "from m import (\n  a)\nfrom n import ( # (b)\nimport c\n  b\n)\nc.f(a)\n".toList := by
  have h : (Import.mk .python "c".toList "import c".toList "c".toList).resolve
      "from m import (\n  a)\nfrom n import ( # (b)\n  b\n)\nc.f(a)\n".toList = .ok (.inserted 3
        "from m import (\n  a)\nfrom n import ( # (b)\nimport c\n  b\n)\nc.f(a)\n".toList) := rfl
  have hclosed : Enclosed "from n import ( # (b)\n".toList ["  b\n".toList] ")\n".toList :=
    ⟨by decide, by decide, by decide⟩
  refine ⟨_, _, rfl, h, ?_, rfl⟩
  exact (lands_in_parentheses_iff rfl h).2 ["from m import (\n".toList, "  a)\n".toList] _ _ _
    ["c.f(a)\n".toList] (by decide) hclosed (by decide) (by decide)

/-- The line of the new import stands between the first line of the other one and its name. -/
theorem import_splits_parentheses : ∃ i o opener closer below,
    make? .python "b".toList "import b".toList "b".toList = .ok i ∧
    i.resolve "from m import (\n    a,\n)\nb.f(a)\n".toList = .ok (.inserted 1 o) ∧
    Enclosed opener ["    a,\n".toList] closer ∧
    splitLines "from m import (\n    a,\n)\nb.f(a)\n".toList =
      [opener, "    a,\n".toList, closer] ++ below ∧
    splitLines o = [opener, "import b\n".toList, "    a,\n".toList, closer] ++ below := by
  have hclosed : Enclosed "from m import (\n".toList ["    a,\n".toList] ")\n".toList :=
    ⟨by decide, by decide, by decide⟩
  exact ⟨_, _, _, _, ["b.f(a)\n".toList], rfl, rfl, hclosed, by decide, by decide⟩

end Import

end Refit
