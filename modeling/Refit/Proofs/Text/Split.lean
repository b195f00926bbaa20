import Refit.Proofs.Text.Cut

namespace Refit.Text

variable {α : Type} {find : Finder α} {stands : Option Char → Text → α → Prop} {text : α → Text}
  {o : Option Char} {t g z z' : Text} {a : α} {c : Char} {ms ms' : List (Text × α)}
  {ps : List (Piece α)}

def Free (stands : Option Char → Text → α → Prop) (o : Option Char) (g rest : Text) : Prop :=
  ∀ x c y a, g = x ++ c :: y → ¬ stands (x.getLast?.or o) (c :: (y ++ rest)) a

/-- The leftmost matches in a text that do not overlap, each with what stands before it, and what
stands behind the last. -/
inductive Split (stands : Option Char → Text → α → Prop) (text : α → Text) :
    Option Char → Text → List (Text × α) → Text → Prop
  | last {o : Option Char} {g : Text} : Free stands o g [] → Split stands text o g [] g
  | next {o : Option Char} {g t z : Text} {a : α} {ms : List (Text × α)} :
      Free stands o g (text a ++ t) → stands (g.getLast?.or o) (text a ++ t) a →
      Split stands text (text a).getLast? t ms z →
      Split stands text o (g ++ (text a ++ t)) ((g, a) :: ms) z

def assemble (f : α → Text) (ms : List (Text × α)) (z : Text) : Text :=
  ms.flatMap (fun m => m.1 ++ f m.2) ++ z

@[simp] theorem assemble_nil (f : α → Text) (z : Text) : assemble f [] z = z := rfl

@[simp] theorem assemble_cons (f : α → Text) (g : Text) (a : α) (ms : List (Text × α)) (z : Text) :
    assemble f ((g, a) :: ms) z = g ++ (f a ++ assemble f ms z) := by
  simp [assemble]

theorem Split.eq_assemble (h : Split stands text o t ms z) : t = assemble text ms z := by
  induction h with
  | last => rfl
  | next _ _ _ ih => rw [assemble_cons, ← ih]

def lead (c : Char) : List (Text × α) × Text → List (Text × α) × Text
  | ([], z) => ([], c :: z)
  | ((g, a) :: ms, z) => ((c :: g, a) :: ms, z)

def spans : List (Piece α) → List (Text × α) × Text
  | [] => ([], [])
  | .gap c :: ps => lead c (spans ps)
  | .hit a :: ps => (([], a) :: (spans ps).1, (spans ps).2)

theorem spans_gaps (g : Text) : spans (g.map (Piece.gap (α := α))) = ([], g) := by
  induction g with
  | nil => rfl
  | cons c g ih => rw [List.map_cons, spans, ih, lead]

theorem spans_gaps_hit (g : Text) (a : α) (ps : List (Piece α)) :
    spans (g.map .gap ++ .hit a :: ps) = ((g, a) :: (spans ps).1, (spans ps).2) := by
  induction g with
  | nil => rfl
  | cons c g ih => rw [List.map_cons, List.cons_append, spans, ih, lead]

theorem flatMap_render_eq (f : α → Text) (ps : List (Piece α)) :
    ps.flatMap (Piece.render f) = assemble f (spans ps).1 (spans ps).2 := by
  induction ps with
  | nil => rfl
  | cons p ps ih =>
    rw [List.flatMap_cons, ih]
    cases p with
    | hit a => simp [spans, Piece.render]
    | gap c =>
      rw [spans]
      obtain ⟨_ | ⟨⟨g, a⟩, ms⟩, z⟩ := spans ps
      · rfl
      · simp [lead, Piece.render]

def Finder.Finds (find : Finder α) (text : α → Text)
    (stands : Option Char → Text → α → Prop) : Prop :=
  ∀ o t n a, find o t = some (n, a) ↔ n = (text a).length ∧ stands o t a

theorem Finder.Finds.eq_none_iff (h : find.Finds text stands) :
    find o t = none ↔ ∀ a, ¬ stands o t a := by
  rw [Option.eq_none_iff_forall_ne_some]
  constructor
  · intro hnone a ha
    exact hnone _ ((h o t _ a).mpr ⟨rfl, ha⟩)
  · rintro hnot ⟨n, a⟩ hfound
    exact hnot a ((h o t n a).mp hfound).2

theorem Split.cons (h : Split stands text (some c) t ms z) (hc : ∀ a, ¬ stands o (c :: t) a) :
    Split stands text o (c :: t) (lead c (ms, z)).1 (lead c (ms, z)).2 := by
  have hfree : ∀ g rest, t = g ++ rest → Free stands (some c) g rest →
      Free stands o (c :: g) rest := by
    intro g rest ht hg x d y a hx
    cases x with
    | nil =>
      obtain ⟨rfl, rfl⟩ := List.cons.inj hx
      exact ht ▸ hc a
    | cons e x =>
      obtain ⟨rfl, rfl⟩ := List.cons.inj hx
      rw [getLast?_cons_or]
      exact hg x d y a rfl
  cases h with
  | last hg => exact .last (hfree t [] (List.append_nil t).symm hg)
  | next hg ha hrest => exact .next (hfree _ _ rfl hg) (by rwa [getLast?_cons_or]) hrest

theorem split_of_cut (hfinds : find.Finds text stands) (h : Cut find text o t ps) :
    Split stands text o t (spans ps).1 (spans ps).2 := by
  induction h with
  | nil => exact .last fun x c y a hx => by simp at hx
  | gap hnone _ ih => exact ih.cons (hfinds.eq_none_iff.mp hnone)
  | @hit o a t ps _ hfound _ ih =>
    have hfree : Free stands o [] (text a ++ t) := fun x c y b hx => by simp at hx
    exact .next hfree ((hfinds _ _ _ a).mp hfound).2 ih

section Found

variable (hspells : find.Spells text) (hfinds : find.Finds text stands)
include hspells hfinds

theorem Split.spans_eq (h : Split stands text o t ms z) :
    spans (piecesFrom find o 0 t) = (ms, z) := by
  induction h with
  | @last o g hg =>
    have hgaps := piecesFrom_gaps (t := []) fun x c y hx =>
      hfinds.eq_none_iff.mpr fun a => hg x c y a hx
    rw [List.append_nil] at hgaps
    rw [hgaps, piecesFrom, List.append_nil, spans_gaps]
  | @next o g t z a ms hg ha _ ih =>
    have hfound := (hfinds _ _ _ a).mpr ⟨rfl, ha⟩
    have hne : text a ≠ [] := (hspells _ _ _ _ hfound).1
    rw [piecesFrom_gaps fun x c y hx => hfinds.eq_none_iff.mpr fun a => hg x c y a hx,
      piecesFrom_hit hne hfound, spans_gaps_hit, ih]

theorem split_iff : Split stands text o t ms z ↔ spans (piecesFrom find o 0 t) = (ms, z) := by
  constructor
  · exact Split.spans_eq hspells hfinds
  · intro h
    have hsplit := split_of_cut hfinds (cut_piecesFrom hspells o t)
    rwa [h] at hsplit

theorem exists_split (t : Text) : ∃ ms z, Split stands text none t ms z :=
  ⟨_, _, (split_iff hspells hfinds).mpr rfl⟩

theorem Split.replaceHits_eq (h : Split stands text none t ms z) (f : α → Text) :
    replaceHits find f t = assemble f ms z := by
  rw [Text.replaceHits_eq, flatMap_render_eq, pieces, h.spans_eq hspells hfinds]

end Found

end Refit.Text
