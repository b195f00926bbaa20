import Refit.Proofs.Call.Arguments
import Refit.Proofs.Call.Nesting

/-! A text falls into segments without parentheses. Whether a call of a method stands in it is seen
from two of them: the one before an opening parenthesis has to end in the name of the method, and
the one behind it has to be closed. Other arguments change the second segment of a call and never
the first one, so the calls of different methods can be given other arguments in any order. -/

namespace Refit

theorem Text.piecesFrom_to {α : Type} {find : Finder α} {o : Option Char} {s rest : Text} {c : Char}
    (h : ∀ x v, s = x ++ v → find (x.getLast?.or o) (v ++ c :: rest) = none) :
    piecesFrom find o 0 (s ++ c :: rest) =
      (s ++ [c]).map .gap ++ piecesFrom find (some c) 0 rest := by
  induction s generalizing o with
  | nil =>
    have hnone : find o (c :: rest) = none := h [] [] rfl
    rw [List.nil_append, piecesFrom, hnone]
    rfl
  | cons d s ih =>
    have hnone : find o (d :: (s ++ c :: rest)) = none := h [] (d :: s) rfl
    rw [List.cons_append, piecesFrom, hnone]
    refine congrArg (.gap d :: ·) (ih fun x v hs => ?_)
    rw [← getLast?_cons_or]
    exact h (d :: x) v (by rw [hs]; rfl)

namespace Call

open Text (Piece behind_or_before here_or_later pieces piecesFrom)

variable {m n : Token} {o : Option Char} {t s u x y args rest inner blanks : Text}
  {f g : Text → Text}

inductive Segmented : Text → Prop
  | bare {s : Text} : Bare s → Segmented s
  | close {s rest : Text} : Bare s → Segmented rest → Segmented (s ++ ')' :: rest)
  | list {s args rest : Text} : Bare s → Bare args → Segmented rest →
      Segmented (s ++ '(' :: (args ++ ')' :: rest))
  | deep {s rest : Text} : Bare s → flatArguments? rest = none → Segmented rest →
      Segmented (s ++ '(' :: rest)

theorem exists_of_flatArguments? (h : flatArguments? t = some args) :
    Bare args ∧ ∃ rest, t = args ++ ')' :: rest := by
  obtain ⟨rest, ht, ho, hc⟩ := flatArguments?_eq_some_iff.mp h
  exact ⟨⟨ho, hc⟩, rest, ht⟩

theorem flatArguments?_close (h : Bare args) (rest : Text) :
    flatArguments? (args ++ ')' :: rest) = some args :=
  flatArguments?_eq_some_iff.mpr ⟨rest, rfl, h.opens, h.closes⟩

theorem flatArguments?_open (h : Bare s) (rest : Text) :
    flatArguments? (s ++ '(' :: rest) = none := by
  rw [Option.eq_none_iff_forall_ne_some]
  intro args hargs
  obtain ⟨hbare, inner, ht⟩ := exists_of_flatArguments? hargs
  have hclose : ')' ∉ s ++ ['('] := by simpa using h.closes
  have hparts : [] ++ (s ++ ['(']) ++ rest = args ++ ')' :: inner := by simpa using ht
  rcases behind_or_before hclose hparts with ⟨r, rfl, -⟩ | ⟨r, hr, -⟩
  · exact hbare.opens (by simp)
  · simp at hr

theorem segmented (t : Text) : Segmented t := by
  induction hn : t.length using Nat.strongRecOn generalizing t with
  | ind n ih =>
    rcases bare_or_exists t with hbare | ⟨s, c, rest, hs, rfl, rfl | rfl⟩
    · exact .bare hbare
    · cases hargs : flatArguments? rest with
      | none => exact .deep hs hargs (ih rest.length (by simp at hn; omega) rest rfl)
      | some args =>
        obtain ⟨hbare, rest, rfl⟩ := exists_of_flatArguments? hargs
        exact .list hs hbare (ih rest.length (by simp at hn; omega) rest rfl)
    · exact .close hs (ih rest.length (by simp at hn; omega) rest rfl)

/-- A method whose name is a word of its own: it has to stand at a word boundary on both sides. -/
structure Proper (m : Token) : Prop extends Plain m where
  binds : ∀ c ∈ m.literal, Token.bindsAt c = true

structure IsName (m : Text) : Prop where
  ne_nil : m ≠ []
  ascii : (m.all fun c => c.isAlphanum || c == '_') = true

theorem bounds_of_name {c : Char} (h : (c.isAlphanum || c == '_') = true) :
    48 ≤ c.toNat ∧ c.toNat < 128 := by
  have hwithin : ∀ a b : Char, 48 ≤ a.toNat → b.toNat < 128 → a.val ≤ c.val → c.val ≤ b.val →
      48 ≤ c.toNat ∧ c.toNat < 128 := fun a b ha hb hac hcb =>
    ⟨ha.trans (UInt32.le_iff_toNat_le.mp hac), (UInt32.le_iff_toNat_le.mp hcb).trans_lt hb⟩
  rcases Bool.or_eq_true_iff.mp h with halphanum | hunderscore
  · rcases Bool.or_eq_true_iff.mp halphanum with halpha | hdigit
    · rcases Bool.or_eq_true_iff.mp halpha with hupper | hlower
      · obtain ⟨hlow, hhigh⟩ := of_decide_eq_true hupper
        exact hwithin 'A' 'Z' (by decide) (by decide) hlow hhigh
      · obtain ⟨hlow, hhigh⟩ := Bool.and_eq_true_iff.mp hlower
        exact hwithin 'a' 'z' (by decide) (by decide) (of_decide_eq_true hlow)
          (of_decide_eq_true hhigh)
    · obtain ⟨hlow, hhigh⟩ := Bool.and_eq_true_iff.mp hdigit
      exact hwithin '0' '9' (by decide) (by decide) (of_decide_eq_true hlow)
        (of_decide_eq_true hhigh)
  · rw [eq_of_beq hunderscore]
    decide

theorem IsName.proper {m : Text} (h : IsName m) : Proper ⟨m⟩ where
  ne_nil := h.ne_nil
  word c hc := by
    have hname := List.all_eq_true.mp h.ascii c hc
    rwa [isWord, if_pos (bounds_of_name hname).2]
  solid c hc := by
    have hbounds := bounds_of_name (List.all_eq_true.mp h.ascii c hc)
    simp [isBlank]
    omega
  binds c hc := by
    have hname := List.all_eq_true.mp h.ascii c hc
    rwa [Token.bindsAt, isAlphanumeric, if_pos (bounds_of_name hname).2]

def Names (m : Token) (s : Text) : Prop :=
  ∃ x blanks, s = x ++ (m.literal ++ blanks) ∧ (∀ c ∈ blanks, isBlank c = true) ∧
    m.fits x.getLast? (blanks ++ ['(']).head? = true

theorem Plain.bare (hm : Plain m) : Bare m.literal :=
  ⟨hm.not_mem (by decide), hm.not_mem (by decide)⟩

theorem Plain.append_blanks_inj (hm : Plain m) (hn : Plain n) {blanks' : Text}
    (hb : ∀ c ∈ blanks, isBlank c = true) (hb' : ∀ c ∈ blanks', isBlank c = true)
    (h : x ++ (m.literal ++ blanks) = y ++ (n.literal ++ blanks')) :
    x ++ m.literal = y ++ n.literal ∧ blanks = blanks' := by
  have hnil : ∀ {m : Token}, Plain m → ∀ {x w r : Text}, (∀ c ∈ r, isBlank c = true) →
      x ++ m.literal = w ++ r → r = [] := by
    intro m hm x w r hr hxw
    rcases List.eq_nil_or_concat' r with rfl | ⟨r, c, rfl⟩
    · rfl
    · have hlast := congrArg List.getLast? hxw
      rw [← List.append_assoc, List.getLast?_concat, List.getLast?_append_of_ne_nil x hm.ne_nil]
        at hlast
      have hsolid := hm.solid c (List.mem_of_getLast? hlast)
      simp [hr c (by simp)] at hsolid
  rw [← List.append_assoc, ← List.append_assoc] at h
  rcases List.append_eq_append_iff.mp h with ⟨r, hr, hblanks⟩ | ⟨r, hr, hblanks⟩
  · obtain rfl := hnil hn (fun c hc => hb c (hblanks ▸ List.mem_append_left _ hc)) hr
    exact ⟨by simpa using hr.symm, by simpa using hblanks⟩
  · obtain rfl := hnil hm (fun c hc => hb' c (hblanks ▸ List.mem_append_left _ hc)) hr
    exact ⟨by simpa using hr, by simpa using hblanks.symm⟩

theorem Proper.not_fits (hm : Proper m) {c : Char} (hc : isWord c = true) (after : Option Char) :
    m.fits (some c) after = false := by
  obtain ⟨d, w, hd⟩ := List.exists_cons_of_ne_nil hm.ne_nil
  have hmem : d ∈ m.literal := by simp [hd]
  simp [Token.fits, hd, hm.binds d hmem, isWordBoundary, hc, hm.word d hmem]

theorem Names.eq (hm : Proper m) (hn : Proper n) (h : Names m s) (h' : Names n s) : m = n := by
  have hname : ∀ {m n : Token} {x y r : Text} {after : Option Char}, Proper m → Proper n →
      y = x ++ r → m.literal = r ++ n.literal → n.fits y.getLast? after = true → m = n := by
    rintro m n x y r after hm hn rfl hlit hfit
    rcases List.eq_nil_or_concat' r with rfl | ⟨r, c, rfl⟩
    · obtain ⟨lit⟩ := m
      exact congrArg Token.mk hlit
    · rw [← List.append_assoc, List.getLast?_concat,
        hn.not_fits (hm.word c (by simp [hlit]))] at hfit
      cases hfit
  obtain ⟨x, blanks, rfl, hb, hfit⟩ := h
  obtain ⟨y, blanks', hs, hb', hfit'⟩ := h'
  obtain ⟨hparts, -⟩ := hm.append_blanks_inj hn.toPlain hb hb' hs
  rcases List.append_eq_append_iff.mp hparts with ⟨r, hy, hlit⟩ | ⟨r, hx, hlit⟩
  · exact hname hm hn hy hlit hfit'
  · exact (hname hn hm hx hlit hfit).symm

theorem flat_congr {o' : Option Char} (h : o.any isWord = o'.any isWord) (t : Text) :
    flat m o t = flat m o' t := by
  apply Option.ext
  rintro ⟨k, call⟩
  rw [flat_eq_some_iff, flat_eq_some_iff]
  simp only [Token.fits_congr h rfl]

theorem pieces_flat_eq (ho : o.any isWord = false) (t : Text) :
    piecesFrom (flat m) o 0 t = pieces (flat m) t :=
  Text.piecesFrom_congr (flat_congr (by simpa using ho)) t

theorem flat_bare (hs : Bare s) : flat m o s = none := by
  rw [Option.eq_none_iff_forall_ne_some]
  rintro ⟨k, call⟩ hfound
  obtain ⟨-, blanks, rest, hflat, rfl, -⟩ := flat_eq_some_iff.mp hfound
  exact hs.opens (by simp [hflat.text_eq])

theorem pieces_bare (hs : Bare s) : pieces (flat m) s = s.map .gap := by
  have hgaps : piecesFrom (flat m) none 0 (s ++ []) = _ :=
    Text.piecesFrom_gaps fun x c y hx => by
      rw [List.append_nil]
      exact flat_bare (hx ▸ hs).of_append.2
  rwa [List.append_nil, piecesFrom, List.append_nil] at hgaps

def renew (m : Token) (f : Text → Text) (t : Text) : Text :=
  Text.replaceHits (flat m) (fun c => (c.withArguments f).text) t

theorem renew_eq (m : Token) (f : Text → Text) (t : Text) :
    renew m f t = rewritten f (pieces (flat m) t) := replaceHits_eq_rewritten f t

theorem rewritten_gaps_append (f : Text → Text) (s : Text) (ps : List (Piece Call)) :
    rewritten f (s.map .gap ++ ps) = s ++ rewritten f ps := by
  induction s with
  | nil => rfl
  | cons c s ih => rw [List.map_cons, List.cons_append, rewritten_gap, ih]; rfl

theorem renew_bare (hs : Bare s) : renew m f s = s := by
  have hgaps := rewritten_gaps_append f s []
  rw [rewritten_nil, List.append_nil, List.append_nil] at hgaps
  rw [renew_eq, pieces_bare hs, hgaps]

theorem hits_of_gaps {ps : List (Piece Call)} (h : pieces (flat m) t = s.map .gap ++ ps) :
    Text.hits (flat m) t = ps.filterMap Piece.hit? := by
  rw [Text.hits_eq, h, List.filterMap_append, List.filterMap_map]
  simp [Piece.hit?, Function.comp_def]

section Finding

variable (hm : Plain m)
include hm

theorem flat_close (hs : Bare s) (rest : Text) : flat m o (s ++ ')' :: rest) = none := by
  rw [Option.eq_none_iff_forall_ne_some]
  rintro ⟨k, call⟩ hfound
  obtain ⟨-, blanks, inner, hopens, ht, -⟩ := finder_eq_some_iff.mp hfound
  have hopen : '(' ∉ s ++ [')'] := by simpa using hs.opens
  have hparts : [] ++ (s ++ [')']) ++ rest = (m.literal ++ blanks) ++ '(' :: inner := by
    simpa [hopens.head_eq] using ht
  rcases behind_or_before hopen hparts with ⟨r, hr, -⟩ | ⟨r, hr, -⟩
  · exact (hopens.bare hm.bare).closes (by simp [hr])
  · simp at hr

theorem exists_of_flat_open (hs : Bare s) {k : Nat} {call : Call}
    (h : flat m o (s ++ '(' :: rest) = some (k, call)) : ∃ blanks,
      s = m.literal ++ blanks ∧ (∀ c ∈ blanks, isBlank c = true) ∧
      m.fits o (blanks ++ ['(']).head? = true ∧ flatArguments? rest = some call.arguments := by
  obtain ⟨-, blanks, inner, hopens, ht, hargs, hfit⟩ := finder_eq_some_iff.mp h
  have hparts : s ++ '(' :: rest = (m.literal ++ blanks) ++ '(' :: inner := by
    simpa [hopens.head_eq] using ht
  rcases here_or_later hs.opens hparts with ⟨hs, rfl⟩ | ⟨r, hr, -⟩
  · exact ⟨blanks, hs.symm, hopens.blank, hfit, hargs⟩
  · exact absurd (by simp [hr]) (hopens.bare hm.bare).opens

theorem pieces_close (hs : Bare s) (rest : Text) :
    pieces (flat m) (s ++ ')' :: rest) = (s ++ [')']).map .gap ++ pieces (flat m) rest := by
  rw [pieces, Text.piecesFrom_to, pieces_flat_eq (by decide)]
  rintro x v rfl
  exact flat_close hm hs.of_append.2 rest

theorem pieces_open_of_not (hs : Bare s) (h : ¬ (Names m s ∧ (flatArguments? rest).isSome)) :
    pieces (flat m) (s ++ '(' :: rest) = (s ++ ['(']).map .gap ++ pieces (flat m) rest := by
  rw [pieces, Text.piecesFrom_to, pieces_flat_eq (by decide)]
  rintro x v rfl
  rw [Option.eq_none_iff_forall_ne_some]
  rintro ⟨k, call⟩ hfound
  obtain ⟨blanks, rfl, hb, hfit, hargs⟩ := exists_of_flat_open hm hs.of_append.2 hfound
  rw [Option.or_none] at hfit
  exact h ⟨⟨x, blanks, rfl, hb, hfit⟩, by simp [hargs]⟩

theorem pieces_call (hs : Bare (x ++ (m.literal ++ blanks))) (hb : ∀ c ∈ blanks, isBlank c = true)
    (hfit : m.fits x.getLast? (blanks ++ ['(']).head? = true) (hargs : Bare args) (rest : Text) :
    pieces (flat m) (x ++ (m.literal ++ blanks) ++ '(' :: (args ++ ')' :: rest)) =
      x.map .gap ++ .hit ⟨m.literal ++ blanks ++ ['('], args⟩ :: pieces (flat m) rest := by
  have hgaps : piecesFrom (flat m) none 0
      (x ++ ((m.literal ++ blanks) ++ '(' :: (args ++ ')' :: rest))) = _ :=
    Text.piecesFrom_gaps fun u c y hx => by
      rw [← List.cons_append, ← List.append_assoc, Option.eq_none_iff_forall_ne_some]
      rintro ⟨k, call⟩ hfound
      have hbare : Bare ((c :: y) ++ (m.literal ++ blanks)) := by
        rw [hx, List.append_assoc] at hs
        exact hs.of_append.2
      obtain ⟨blanks', heq, hb', -⟩ := exists_of_flat_open hm hbare hfound
      have heq : (c :: y) ++ (m.literal ++ blanks) = [] ++ (m.literal ++ blanks') := heq
      have hlen := congrArg List.length (hm.append_blanks_inj hm hb hb' heq).1
      simp only [List.length_append, List.length_cons, List.length_nil] at hlen
      omega
  have hfound : flat m x.getLast?
      ((⟨m.literal ++ blanks ++ ['('], args⟩ : Call).text ++ rest) = some (_, _) :=
    flat_eq_some_iff.mpr ⟨rfl, blanks, rest, ⟨⟨rfl, hb⟩, hargs.opens, hargs.closes⟩, rfl, hfit⟩
  have hlast : (⟨m.literal ++ blanks ++ ['('], args⟩ : Call).text.getLast? = some ')' :=
    List.getLast?_concat
  have hhit := Text.piecesFrom_hit (by simp [text]) hfound
  rw [hlast, pieces_flat_eq (o := some ')') (by decide)] at hhit
  have htext : (m.literal ++ blanks) ++ '(' :: (args ++ ')' :: rest) =
      (⟨m.literal ++ blanks ++ ['('], args⟩ : Call).text ++ rest := by
    simp [text]
  rw [pieces, List.append_assoc, hgaps, Option.or_none, htext, hhit]

theorem hits_close (hs : Bare s) (rest : Text) :
    Text.hits (flat m) (s ++ ')' :: rest) = Text.hits (flat m) rest := by
  rw [hits_of_gaps (pieces_close hm hs rest), Text.hits_eq]

theorem hits_open_of_not (hs : Bare s) (h : ¬ (Names m s ∧ (flatArguments? rest).isSome)) :
    Text.hits (flat m) (s ++ '(' :: rest) = Text.hits (flat m) rest := by
  rw [hits_of_gaps (pieces_open_of_not hm hs h), Text.hits_eq]

theorem hits_deep (hs : Bare s) (h : flatArguments? rest = none) :
    Text.hits (flat m) (s ++ '(' :: rest) = Text.hits (flat m) rest :=
  hits_open_of_not hm hs (by simp [h])

theorem hits_call (hs : Bare (x ++ (m.literal ++ blanks))) (hb : ∀ c ∈ blanks, isBlank c = true)
    (hfit : m.fits x.getLast? (blanks ++ ['(']).head? = true) (hargs : Bare args) (rest : Text) :
    Text.hits (flat m) (x ++ (m.literal ++ blanks) ++ '(' :: (args ++ ')' :: rest)) =
      ⟨m.literal ++ blanks ++ ['('], args⟩ :: Text.hits (flat m) rest := by
  rw [hits_of_gaps (pieces_call hm hs hb hfit hargs rest), Text.hits_eq]
  rfl

theorem renew_close (hs : Bare s) (rest : Text) :
    renew m f (s ++ ')' :: rest) = s ++ ')' :: renew m f rest := by
  rw [renew_eq, renew_eq, pieces_close hm hs, rewritten_gaps_append, List.append_assoc]
  rfl

theorem renew_open_of_not (hs : Bare s) (h : ¬ (Names m s ∧ (flatArguments? rest).isSome)) :
    renew m f (s ++ '(' :: rest) = s ++ '(' :: renew m f rest := by
  rw [renew_eq, renew_eq, pieces_open_of_not hm hs h, rewritten_gaps_append, List.append_assoc]
  rfl

theorem renew_deep (hs : Bare s) (h : flatArguments? rest = none) :
    renew m f (s ++ '(' :: rest) = s ++ '(' :: renew m f rest :=
  renew_open_of_not hm hs (by simp [h])

theorem renew_list_of_not (hs : Bare s) (hargs : Bare args) (h : ¬ Names m s) (rest : Text) :
    renew m f (s ++ '(' :: (args ++ ')' :: rest)) =
      s ++ '(' :: (args ++ ')' :: renew m f rest) := by
  rw [renew_open_of_not hm hs fun hnames => h hnames.1, renew_close hm hargs]

theorem renew_call (hs : Bare s) (hargs : Bare args) (h : Names m s) (rest : Text) :
    renew m f (s ++ '(' :: (args ++ ')' :: rest)) =
      s ++ '(' :: (f args ++ ')' :: renew m f rest) := by
  obtain ⟨x, blanks, rfl, hb, hfit⟩ := h
  rw [renew_eq, renew_eq, pieces_call hm hs hb hfit hargs, rewritten_gaps_append, rewritten_hit]
  simp

theorem exists_renew_open (hs : Bare s) (rest : Text) :
    ∃ rest', renew m f (s ++ '(' :: rest) = s ++ '(' :: rest' := by
  by_cases h : Names m s ∧ (flatArguments? rest).isSome
  · obtain ⟨args, hargs⟩ := Option.isSome_iff_exists.mp h.2
    obtain ⟨hbare, rest, rfl⟩ := exists_of_flatArguments? hargs
    exact ⟨_, renew_call hm hs hbare h.1 rest⟩
  · exact ⟨_, renew_open_of_not hm hs h⟩

theorem flatArguments?_renew_eq_none (h : flatArguments? t = none) :
    flatArguments? (renew m f t) = none := by
  have hopen : ∀ {s}, Bare s → ∀ rest, flatArguments? (renew m f (s ++ '(' :: rest)) = none := by
    intro s hs rest
    obtain ⟨rest', hrest⟩ := exists_renew_open hm hs rest
    rw [hrest, flatArguments?_open hs]
  cases segmented t with
  | bare hs => rwa [renew_bare hs]
  | close hs => simp [flatArguments?_close hs] at h
  | list hs => exact hopen hs _
  | deep hs => exact hopen hs _

end Finding

section Different

variable (hm : Proper m) (hn : Proper n) (hne : m ≠ n)
  (hf : ∀ args, Bare args → Bare (f args))
include hm hn hne hf

theorem hits_renew (t : Text) :
    Text.hits (flat n) (renew m f t) = Text.hits (flat n) t := by
  have hm' := hm.toPlain
  have hn' := hn.toPlain
  induction segmented t with
  | bare hs => rw [renew_bare hs]
  | close hs _ ih => rw [renew_close hm' hs, hits_close hn' hs, hits_close hn' hs, ih]
  | @deep s rest hs hrest _ ih =>
    have hnone := flatArguments?_renew_eq_none hm' (f := f) hrest
    rw [renew_deep hm' hs hrest, hits_deep hn' hs hnone, hits_deep hn' hs hrest, ih]
  | @list s args rest hs hargs _ ih =>
    by_cases hnames : Names n s
    · have hnot : ¬ Names m s := fun h => hne (h.eq hm hn hnames)
      obtain ⟨x, blanks, rfl, hb, hfit⟩ := hnames
      rw [renew_list_of_not hm' hs hargs hnot, hits_call hn' hs hb hfit hargs,
        hits_call hn' hs hb hfit hargs, ih]
    · have hskip : ∀ {args}, Bare args → ∀ rest,
          Text.hits (flat n) (s ++ '(' :: (args ++ ')' :: rest)) = Text.hits (flat n) rest := by
        intro args hargs rest
        rw [hits_open_of_not hn' hs fun h => hnames h.1, hits_close hn' hargs]
      rw [hskip hargs]
      by_cases hcall : Names m s
      · rw [renew_call hm' hs hargs hcall, hskip (hf args hargs), ih]
      · rw [renew_list_of_not hm' hs hargs hcall, hskip hargs, ih]

theorem renew_comm (hg : ∀ args, Bare args → Bare (g args)) (t : Text) :
    renew n g (renew m f t) = renew m f (renew n g t) := by
  have hm' := hm.toPlain
  have hn' := hn.toPlain
  induction segmented t with
  | bare hs => rw [renew_bare hs, renew_bare hs, renew_bare hs]
  | close hs _ ih =>
    rw [renew_close hm' hs, renew_close hn' hs, renew_close hn' hs, renew_close hm' hs, ih]
  | @deep s rest hs hrest _ ih =>
    have hfnone := flatArguments?_renew_eq_none hm' (f := f) hrest
    have hgnone := flatArguments?_renew_eq_none hn' (f := g) hrest
    rw [renew_deep hm' hs hrest, renew_deep hn' hs hrest, renew_deep hn' hs hfnone,
      renew_deep hm' hs hgnone, ih]
  | @list s args rest hs hargs _ ih =>
    by_cases hnames : Names m s
    · have hnot : ¬ Names n s := fun h => hne (hnames.eq hm hn h)
      rw [renew_call hm' hs hargs hnames, renew_list_of_not hn' hs hargs hnot,
        renew_list_of_not hn' hs (hf args hargs) hnot, renew_call hm' hs hargs hnames, ih]
    · rw [renew_list_of_not hm' hs hargs hnames]
      by_cases hnames' : Names n s
      · rw [renew_call hn' hs hargs hnames', renew_call hn' hs hargs hnames',
          renew_list_of_not hm' hs (hg args hargs) hnames, ih]
      · rw [renew_list_of_not hn' hs hargs hnames', renew_list_of_not hn' hs hargs hnames',
          renew_list_of_not hm' hs hargs hnames, ih]

end Different

end Call

end Refit
