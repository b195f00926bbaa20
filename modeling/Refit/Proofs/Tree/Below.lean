import Mathlib.Data.List.Basic
import Refit.Proofs.Tree.Place

namespace Refit

namespace Path

variable {p root : Path} {n : Text} {names a b : List Text}

def below (root : Path) (names : List Text) : Path := names.foldl join root

def steps (p : Path) : List Text :=
  if p.spelling.getLast? = some '/' then p.segments.dropLast else p.segments

theorem segments_append_slash (s t : Text) :
    (Path.mk (s ++ '/' :: t)).segments = (Path.mk s).segments ++ (Path.mk t).segments :=
  List.splitOnP_append_cons s t (beq_self_eq_true '/')

theorem segments_name (hn : '/' ∉ n) : (Path.mk n).segments = [n] := by
  refine List.splitOnP_eq_singleton fun c hc => ?_
  rw [beq_eq_false_iff_ne]
  rintro rfl
  exact hn hc

theorem exists_of_slash (h : p.spelling.getLast? = some '/') : ∃ q : Path,
    p.spelling = q.spelling ++ ['/'] ∧ p.segments = q.segments ++ [[]] ∧ p.steps = q.segments := by
  obtain ⟨s, hs⟩ := List.getLast?_eq_some_iff.mp h
  have hsegments : p.segments = (Path.mk s).segments ++ [[]] := by
    rw [show p = ⟨s ++ ['/']⟩ from congrArg Path.mk hs]
    exact segments_append_slash s []
  refine ⟨⟨s⟩, hs, hsegments, ?_⟩
  rw [steps, if_pos h, hsegments, List.dropLast_concat]

theorem segments_eq (p : Path) : p.segments = p.steps ∨ p.segments = p.steps ++ [[]] := by
  by_cases hslash : p.spelling.getLast? = some '/'
  · obtain ⟨q, -, hsegments, hsteps⟩ := exists_of_slash hslash
    exact .inr (hsegments.trans (by rw [hsteps]))
  · exact .inl (if_neg hslash).symm

theorem steps_ne_nil (p : Path) : p.steps ≠ [] := by
  by_cases hslash : p.spelling.getLast? = some '/'
  · obtain ⟨q, -, -, hsteps⟩ := exists_of_slash hslash
    exact hsteps ▸ List.splitOnP_ne_nil _ q.spelling
  · rw [steps, if_neg hslash]
    exact List.splitOnP_ne_nil _ p.spelling

theorem segments_join (hp : p.spelling ≠ []) (hn : '/' ∉ n) :
    (p.join n).segments = p.steps ++ [n] := by
  rw [join]
  by_cases hslash : p.spelling.getLast? = some '/'
  · obtain ⟨q, hq, -, hsteps⟩ := exists_of_slash hslash
    rw [if_pos (.inr hslash), hq, hsteps, List.append_assoc, List.singleton_append,
      segments_append_slash, segments_name hn]
  · rw [if_neg (by simp [hp, hslash]), steps, if_neg hslash, segments_append_slash,
      segments_name hn]

theorem getLast?_join_ne (hne : n ≠ []) (hn : '/' ∉ n) :
    (p.join n).spelling.getLast? ≠ some '/' := by
  have hlast (s : Text) : (s ++ n).getLast? ≠ some '/' := by
    rw [List.getLast?_append_of_ne_nil s hne]
    exact fun h => hn (List.mem_of_getLast? h)
  rw [join]
  split
  · exact hlast p.spelling
  · simpa using hlast (p.spelling ++ ['/'])

theorem steps_join (hp : p.spelling ≠ []) (hn : n.IsName) : (p.join n).steps = p.steps ++ [n] := by
  rw [steps, if_neg (getLast?_join_ne hn.1 hn.2.2.2.1), segments_join hp hn.2.2.2.1]

theorem spelling_join_ne (hp : p.spelling ≠ []) : (p.join n).spelling ≠ [] := by
  rw [join]
  split <;> simp [hp]

theorem steps_below (hp : p.spelling ≠ []) (hnames : ∀ n ∈ names, n.IsName) :
    (p.below names).steps = p.steps ++ names := by
  induction names generalizing p with
  | nil => exact (List.append_nil _).symm
  | cons n names ih =>
    obtain ⟨hn, hnames⟩ := List.forall_mem_cons.mp hnames
    rw [below, List.foldl_cons]
    refine (ih (spelling_join_ne hp) hnames).trans ?_
    rw [steps_join hp hn, List.append_assoc, List.singleton_append]

theorem spelling_below_ne (hp : p.spelling ≠ []) (names : List Text) :
    (p.below names).spelling ≠ [] := by
  induction names generalizing p with
  | nil => exact hp
  | cons n names ih => exact ih (spelling_join_ne hp)

theorem below_concat (root : Path) (names : List Text) (n : Text) :
    root.below (names ++ [n]) = (root.below names).join n := by
  rw [below, List.foldl_concat, below]

theorem getLast?_below_ne (hne : names ≠ []) (hnames : ∀ n ∈ names, n.IsName) :
    (p.below names).spelling.getLast? ≠ some '/' := by
  rcases names.eq_nil_or_concat with rfl | ⟨names, n, rfl⟩
  · exact absurd rfl hne
  · have hn : n.IsName := hnames n (by simp)
    rw [List.concat_eq_append, below_concat]
    exact getLast?_join_ne hn.1 hn.2.2.2.1

theorem segments_below (hp : p.spelling ≠ []) (hne : names ≠ []) (hnames : ∀ n ∈ names, n.IsName) :
    (p.below names).segments = p.steps ++ names := by
  rw [← steps_below hp hnames, steps, if_neg (getLast?_below_ne hne hnames)]

theorem head?_join (hp : p.spelling ≠ []) : (p.join n).spelling.head? = p.spelling.head? := by
  obtain ⟨c, t, hc⟩ := List.exists_cons_of_ne_nil hp
  rw [join, hc]
  split <;> rfl

theorem isAbsolute_below (hp : p.spelling ≠ []) (names : List Text) :
    (p.below names).isAbsolute = p.isAbsolute := by
  induction names generalizing p with
  | nil => rfl
  | cons n names ih =>
    rw [below, List.foldl_cons]
    refine (ih (spelling_join_ne hp)).trans ?_
    rw [isAbsolute, isAbsolute, head?_join hp]

theorem not_mem_below (hp : '\x00' ∉ p.spelling) (hnames : ∀ n ∈ names, n.IsName) :
    '\x00' ∉ (p.below names).spelling := by
  induction names generalizing p with
  | nil => exact hp
  | cons n names ih =>
    obtain ⟨hn, hnames⟩ := List.forall_mem_cons.mp hnames
    refine ih ?_ hnames
    rw [join]
    split <;> simp [hp, hn.2.2.2.2.1]

theorem components_eq (p : Path) : p.components =
    (if p.isAbsolute then [.root] else if p.steps.head? = some ['.'] then [.here] else []) ++
      p.steps.filterMap component? := by
  obtain ⟨first, rest, hsteps⟩ := List.exists_cons_of_ne_nil (steps_ne_nil p)
  have hfilter : (first :: rest ++ [[]]).filterMap component? =
      (first :: rest).filterMap component? := by
    rw [List.filterMap_append]
    exact List.append_nil _
  rw [components]
  rcases segments_eq p with h | h <;> rw [h, hsteps]
  · simp
  · rw [List.cons_append] at hfilter
    simp [hfilter]

theorem components_join (hp : p.spelling ≠ []) (hn : n.IsName) :
    (p.join n).components = p.components ++ [.name n] := by
  have hname : component? n = some (.name n) := by
    rw [component?, if_neg (by simp [hn.1, hn.2.1]), if_neg hn.2.2.1]
  have habsolute : (p.join n).isAbsolute = p.isAbsolute := by
    rw [isAbsolute, isAbsolute, head?_join hp]
  obtain ⟨first, rest, hsteps⟩ := List.exists_cons_of_ne_nil (steps_ne_nil p)
  rw [components_eq, components_eq, steps_join hp hn, habsolute, List.filterMap_append, hsteps,
    ← List.append_assoc]
  simp [hname]

theorem components_below (hp : p.spelling ≠ []) (hnames : ∀ n ∈ names, n.IsName) :
    (p.below names).components = p.components ++ names.map .name := by
  induction names generalizing p with
  | nil => exact (List.append_nil _).symm
  | cons n names ih =>
    obtain ⟨hn, hnames⟩ := List.forall_mem_cons.mp hnames
    rw [below, List.foldl_cons]
    refine (ih (spelling_join_ne hp) hnames).trans ?_
    rw [components_join hp hn, List.append_assoc, List.map_cons, List.singleton_append]

theorem compareLex_append {α : Type} {cmp : α → α → Ordering} [Std.ReflCmp cmp] {x y : α}
    (h : cmp x y = .lt) (lead u v : List α) :
    List.compareLex cmp (lead ++ x :: u) (lead ++ y :: v) = .lt := by
  induction lead with
  | nil =>
    rw [List.nil_append, List.nil_append, List.compareLex_cons_cons, h]
    rfl
  | cons z lead ih =>
    have hself : cmp z z = .eq := Std.ReflCmp.compare_self
    rw [List.cons_append, List.cons_append, List.compareLex_cons_cons, hself, ih]
    rfl

theorem cmp_below (hroot : root.spelling ≠ []) (ha : ∀ n ∈ a, n.IsName) (hb : ∀ n ∈ b, n.IsName)
    (h : Before a b) : cmp (root.below a) (root.below b) = .lt := by
  obtain ⟨lead, n, m, u, v, rfl, rfl, hlt⟩ := h
  have hname : Component.cmp (.name n) (.name m) = .lt := hlt
  rw [cmp, components_below hroot ha, components_below hroot hb]
  simp only [List.map_append, List.map_cons, ← List.append_assoc]
  exact compareLex_append hname _ _ _

end Path

end Refit
