import Refit.Proofs.Language.Kinds
import Refit.Proofs.Phrase.Matching
import Refit.Proofs.Text.Lines

namespace Refit

variable {l : Language} {line u : Text} {s : LineShape} {e : LineEnd}

namespace Phrase

variable {κ α : Type} {test : κ → α → Bool} {p : Phrase κ} {x : α} {w : List α}

def heads : Phrase κ → List κ
  | empty => []
  | one k => [k]
  | seq a b => a.heads ++ if a.nullable then b.heads else []
  | alt a b => a.heads ++ b.heads
  | star a => a.heads

theorem Matches.exists_head (h : Matches test p (x :: w)) : ∃ k ∈ p.heads, test k x = true := by
  induction p generalizing w with
  | empty => simp at h
  | one k =>
    obtain ⟨y, hy, hxy⟩ := matches_one.mp h
    obtain ⟨rfl, -⟩ := List.cons.inj hxy
    exact ⟨k, List.mem_singleton_self k, hy⟩
  | seq a b iha ihb =>
    obtain ⟨u, v, huv, ha, hb⟩ := matches_seq.mp h
    cases u with
    | nil =>
      rw [List.nil_append] at huv
      obtain ⟨k, hk, hkx⟩ := ihb (huv ▸ hb)
      refine ⟨k, List.mem_append_right _ ?_, hkx⟩
      rwa [if_pos ((nullable_iff test a).mpr ha)]
    | cons y u =>
      obtain ⟨rfl, -⟩ := List.cons.inj huv
      obtain ⟨k, hk, hkx⟩ := iha ha
      exact ⟨k, List.mem_append_left _ hk, hkx⟩
  | alt a b iha ihb =>
    rcases matches_alt.mp h with h | h
    · obtain ⟨k, hk, hkx⟩ := iha h
      exact ⟨k, List.mem_append_left _ hk, hkx⟩
    · obtain ⟨k, hk, hkx⟩ := ihb h
      exact ⟨k, List.mem_append_right _ hk, hkx⟩
  | star a ih =>
    obtain ⟨u, v, -, ha, -⟩ := matches_star_cons.mp h
    exact ih ha

end Phrase

namespace LineShape

open Phrase (Matches)

theorem matches_blanks_iff : Matches CharClass.contains blanks u ↔ ∀ c ∈ u, isBlank c = true := by
  induction u with
  | nil => simp [blanks, Matches.done]
  | cons c u ih =>
    rw [blanks, Phrase.matches_star_cons, ← blanks]
    constructor
    · rintro ⟨v, w, rfl, hv, hw⟩
      obtain ⟨d, hd, hcd⟩ := Phrase.matches_one.mp hv
      obtain ⟨rfl, rfl⟩ := List.cons.inj hcd
      exact List.forall_mem_cons.mpr ⟨hd, ih.mp hw⟩
    · intro h
      obtain ⟨hc, hu⟩ := List.forall_mem_cons.mp h
      exact ⟨[], u, rfl, .one hc, ih.mpr hu⟩

theorem isBlank_lineEnd : ∀ c ∈ e.text, isBlank c = true :=
  List.all_eq_true.mp (by cases e <;> decide)

def Trails (s : LineShape) : Prop := s.whole = false ∨ ∃ ps, s.phrase = .all (ps ++ [blanks])

theorem Trails.accepts_append (hs : s.Trails) (h : s.accepts line = true)
    (hu : ∀ c ∈ u, isBlank c = true) : s.accepts (line ++ u) = true := by
  rw [accepts] at h ⊢
  rcases hs with hs | ⟨ps, hs⟩
  · rw [hs, if_neg Bool.false_ne_true, Phrase.matchesStart_iff] at h ⊢
    obtain ⟨v, w, rfl, hv⟩ := h
    exact ⟨v, w ++ u, List.append_assoc v w u, hv⟩
  · split at h
    · next hwhole =>
      rw [if_pos hwhole]
      rw [hs, Phrase.matchesAll_iff, Phrase.matches_all_concat] at h ⊢
      obtain ⟨v, w, rfl, hv, hw⟩ := h
      refine ⟨v, w ++ u, List.append_assoc v w u, hv, matches_blanks_iff.mpr ?_⟩
      exact List.forall_mem_append.mpr ⟨matches_blanks_iff.mp hw, hu⟩
    · next hwhole =>
      rw [if_neg hwhole]
      rw [Phrase.matchesStart_iff] at h ⊢
      obtain ⟨v, w, rfl, hv⟩ := h
      exact ⟨v, w ++ u, List.append_assoc v w u, hv⟩

def Begins (s : LineShape) (cs : List Char) : Prop :=
  ∀ line, s.accepts line = true → ∃ c ∈ cs, (Text.trimStart line).head? = some c

theorem begins_of_all {p : Phrase CharClass} {ps : List (Phrase CharClass)} {whole : Bool}
    {cs : List Char} (hnull : (Phrase.all (p :: ps)).nullable = false)
    (hheads : ((Phrase.all (p :: ps)).heads.all fun k => cs.any fun c =>
      k == .char c && !isBlank c) = true) :
    Begins ⟨.all (blanks :: p :: ps), whole⟩ cs := by
  intro line h
  have h : ∃ u v, line = u ++ v ∧
      Matches CharClass.contains (.all (blanks :: p :: ps)) u := by
    rw [accepts] at h
    split at h
    · exact ⟨line, [], (List.append_nil line).symm, (Phrase.matchesAll_iff _ _).mp h⟩
    · exact (Phrase.matchesStart_iff _ _).mp h
  obtain ⟨u, v, rfl, hu⟩ := h
  obtain ⟨b, w, rfl, hb, hw⟩ := Phrase.matches_seq.mp hu
  cases w with
  | nil =>
    rw [← Phrase.nullable_iff, hnull] at hw
    cases hw
  | cons x w =>
    obtain ⟨k, hk, hkx⟩ := hw.exists_head
    obtain ⟨c, hc, hhead⟩ := List.any_eq_true.mp (List.all_eq_true.mp hheads k hk)
    rw [Bool.and_eq_true, beq_iff_eq, Bool.not_eq_true'] at hhead
    obtain ⟨rfl, hblank⟩ := hhead
    obtain rfl : c = x := eq_of_beq hkx
    refine ⟨c, hc, ?_⟩
    rw [Text.trimStart, List.append_assoc, List.dropWhile_append_of_pos (matches_blanks_iff.mp hb),
      List.cons_append, List.dropWhile_cons_of_neg (by simp [hblank])]
    rfl

end LineShape

namespace Language

open LineShape

theorem trails : ∀ s ∈ l.importShapes ++ l.declarationShapes, s.Trails := by
  cases l <;>
    simp only [importShapes, declarationShapes, List.cons_append, List.nil_append, List.mem_cons,
      List.not_mem_nil, or_false, forall_eq_or_imp, forall_eq]
  case kotlin => exact ⟨.inr ⟨[_, _, _, _, _, _, _], rfl⟩, .inr ⟨[_, _, _, _, _, _], rfl⟩⟩
  case go => exact ⟨.inl rfl, .inr ⟨[_, _, _, _], rfl⟩, .inl rfl⟩
  case java => exact ⟨.inl rfl, .inl rfl⟩
  case csharp => exact ⟨.inl rfl, .inl rfl⟩
  all_goals exact .inl rfl

theorem isImport_append (h : l.isImport line = true) (hu : ∀ c ∈ u, isBlank c = true) :
    l.isImport (line ++ u) = true := by
  obtain ⟨s, hs, haccepts⟩ := List.any_eq_true.mp h
  exact List.any_eq_true.mpr
    ⟨s, hs, (trails s (List.mem_append_left _ hs)).accepts_append haccepts hu⟩

theorem isDeclaration_append (h : l.isDeclaration line = true) (hu : ∀ c ∈ u, isBlank c = true) :
    l.isDeclaration (line ++ u) = true := by
  obtain ⟨s, hs, haccepts⟩ := List.any_eq_true.mp h
  exact List.any_eq_true.mpr
    ⟨s, hs, (trails s (List.mem_append_right _ hs)).accepts_append haccepts hu⟩

def importLetters : Language → List Char
  | csharp => ['g', 'u']
  | _ => ['i']

def declarationLetters : Language → List Char
  | csharp => ['n']
  | _ => ['p']

theorem import_begins (h : l.declarationShapes ≠ []) :
    ∀ s ∈ l.importShapes, s.Begins l.importLetters := by
  cases l <;>
    simp only [importShapes, List.mem_cons, List.not_mem_nil, or_false, forall_eq_or_imp, forall_eq]
  case go => exact ⟨begins_of_all rfl rfl, begins_of_all rfl rfl⟩
  case java => exact begins_of_all rfl rfl
  case kotlin => exact begins_of_all rfl rfl
  case csharp => exact begins_of_all rfl rfl
  all_goals exact absurd rfl h

theorem declaration_begins : ∀ s ∈ l.declarationShapes, s.Begins l.declarationLetters := by
  cases l <;> simp only [declarationShapes, List.mem_cons, List.not_mem_nil, or_false, forall_eq,
    false_imp_iff, implies_true]
  all_goals exact begins_of_all rfl rfl

theorem isImport_of_isDeclaration (h : l.isDeclaration line = true) :
    l.isImport line = false := by
  obtain ⟨s, hs, hdeclares⟩ := List.any_eq_true.mp h
  obtain ⟨c, hc, hline⟩ := declaration_begins s hs line hdeclares
  rw [isImport, List.any_eq_false]
  intro t ht himports
  obtain ⟨d, hd, hline'⟩ := import_begins (List.ne_nil_of_mem hs) t ht line himports
  obtain rfl : c = d := Option.some.inj (hline.symm.trans hline')
  cases l <;> revert hc hd <;> simp +contextual [importLetters, declarationLetters]

theorem kindOf_append (h : l.kindOf line ≠ .other) (hu : ∀ c ∈ u, isBlank c = true) :
    l.kindOf (line ++ u) = l.kindOf line := by
  cases himport : l.isImport line with
  | true =>
    rw [kindOf, kindOf, himport, isImport_append himport hu]
    rfl
  | false =>
    cases hdeclares : l.isDeclaration line with
    | true =>
      have hboth := isDeclaration_append hdeclares hu
      rw [kindOf, kindOf, himport, hdeclares, hboth, isImport_of_isDeclaration hboth]
    | false => exact absurd (by rw [kindOf, himport, hdeclares]; rfl) h

def opens (l : Language) (inBlock : Bool) (line : Text) : Bool :=
  match l with
  | go => if inBlock then Text.trim line != [')'] else blockOpener.accepts line
  | _ => false

def classifyFrom (l : Language) (inBlock : Bool) : List Text → List LineKind
  | [] => []
  | line :: lines =>
    (if inBlock then .imports else l.kindOf line) :: classifyFrom l (l.opens inBlock line) lines

theorem classifyBlocks_eq (inBlock : Bool) (lines : List Text) :
    classifyBlocks inBlock lines = go.classifyFrom inBlock lines := by
  induction lines generalizing inBlock with
  | nil => rfl
  | cons line lines ih =>
    cases inBlock with
    | true =>
      rw [classifyBlocks, if_pos rfl, ih]
      rfl
    | false =>
      rw [classifyBlocks, if_neg Bool.false_ne_true, classifyFrom, opens]
      cases hopens : blockOpener.accepts line with
      | true =>
        have himport : go.isImport line = true := by simp [isImport, importShapes, hopens]
        rw [kindOf, himport, ih]
        rfl
      | false =>
        rw [if_neg Bool.false_ne_true, ih]
        rfl

theorem classify_eq (l : Language) (lines : List Text) :
    l.classify lines = l.classifyFrom false lines := by
  have hlines (hl : ∀ line, l.opens false line = false) :
      lines.map l.kindOf = l.classifyFrom false lines := by
    induction lines with
    | nil => rfl
    | cons line lines ih =>
      rw [classifyFrom, hl, ← ih]
      rfl
  cases l with
  | go => exact classifyBlocks_eq false lines
  | _ => exact hlines fun _ => rfl

theorem classifyFrom_append (inBlock : Bool) (lines more : List Text) :
    l.classifyFrom inBlock (lines ++ more) =
      l.classifyFrom inBlock lines ++ l.classifyFrom (lines.foldl l.opens inBlock) more := by
  induction lines generalizing inBlock with
  | nil => rfl
  | cons line lines ih => rw [List.cons_append, classifyFrom, classifyFrom, ih]; rfl

theorem length_classifyFrom (inBlock : Bool) (lines : List Text) :
    (l.classifyFrom inBlock lines).length = lines.length := by
  induction lines generalizing inBlock with
  | nil => rfl
  | cons line lines ih => rw [classifyFrom, List.length_cons, ih, List.length_cons]

end Language

end Refit
