import Refit.Proofs.Text.Trim
import Refit.Proofs.Yaml.Spot
import Refit.Yaml.Scalar

namespace Refit.Yaml

open Text

variable {b c : Char} {t u w bs here more last empty previous : Text}
  {l col n k margin turns : Nat} {indent : Option Nat} {behind s : List Spot} {gapBefore : Bool}

theorem readBreaks_spaces (h : indent.all (col + k ≤ ·) = true) (t : Text) :
    readBreaks indent (spotsFrom l col (List.replicate k ' ' ++ t)) =
      readBreaks indent (spotsFrom l (col + k) t) := by
  induction k generalizing col with
  | zero => rfl
  | succ k ih =>
    have hinside : indent.all (col < ·) = true := by
      cases indent with
      | none => rfl
      | some n =>
        simp only [Option.all_some, decide_eq_true_eq] at h ⊢
        omega
    have hmore : indent.all (col + 1 + k ≤ ·) = true := by
      rwa [Nat.add_right_comm, Nat.add_assoc]
    rw [List.replicate_succ, List.cons_append, spotsFrom_cons rfl, readBreaks]
    simp only [hinside, beq_self_eq_true, Bool.and_self, if_true]
    rw [ih hmore, Nat.add_right_comm, Nat.add_assoc]

theorem readBreaks_break (hc : isBreak c = true)
    (h : readBreaks indent (spotsFrom (l + 1) 0 t) = .ok (bs, n, behind)) :
    readBreaks indent (spotsFrom l col (c :: t)) = .ok (c :: bs, max col n, behind) := by
  have hspace : (c == ' ') = false := by
    rw [beq_eq_false_iff_ne]
    rintro rfl
    cases hc
  have htab : (c == '\t') = false := by
    rw [beq_eq_false_iff_ne]
    rintro rfl
    cases hc
  rw [spotsFrom_break hc, readBreaks]
  simp only [hspace, htab, Bool.and_false, Bool.false_eq_true, if_false, hc, if_true, h]
  rfl

theorem readBreaks_stop (hbreak : t.head?.any isBreak = false)
    (h : indent.all (col < ·) = true → t.head? ≠ some ' ' ∧ t.head? ≠ some '\t') :
    readBreaks indent (spotsFrom l col t) = .ok ([], col, spotsFrom l col t) := by
  cases t with
  | nil => simp [spotsFrom, readBreaks, isBreak, endMark]
  | cons c t =>
    have hc : isBreak c = false := by simpa using hbreak
    rw [spotsFrom_cons hc, readBreaks]
    cases hinside : indent.all (col < ·) with
    | true =>
      have hgap := h hinside
      simp only [List.head?_cons, ne_eq, Option.some.injEq] at hgap
      simp [hgap.1, hgap.2, hc]
    | false => simp [hc]

def lineSpots (margin l k : Nat) (more : Text) : Text → List Spot
  | [] => spotsFrom l k more
  | c :: w =>
    spotsFrom l margin (indentLines margin true (c :: w) ++ (List.replicate k ' ' ++ more))

theorem exists_readBreaks (hbs : ∀ c ∈ bs, isBreak c = true) (hw : w.head?.any isBreak = false)
    (hk : k < margin) (hmore : BeginsWord more) (l : Nat) : ∃ n l', l ≤ l' ∧
      readBreaks (some margin) (spotsFrom l 0
        (indentLines margin false (bs ++ w) ++ (List.replicate k ' ' ++ more))) =
          .ok (bs, n, lineSpots margin l' k more w) := by
  induction bs generalizing l with
  | nil =>
    cases w with
    | nil =>
      refine ⟨k, l, Nat.le_refl l, ?_⟩
      have hspaces : (some margin).all (0 + k ≤ ·) = true := by
        simp only [Option.all_some, decide_eq_true_eq]
        omega
      have hword (c : Char) (hc : isWhite c = true) : more.head? ≠ some c := by
        intro hhead
        rw [(hmore c hhead).1] at hc
        cases hc
      have hbreak : more.head?.any isBreak = false := by
        cases more with
        | nil => rfl
        | cons c more => exact isBreak_of_isWhite (hmore c rfl).1
      refine (readBreaks_spaces hspaces more).trans ?_
      rw [Nat.zero_add]
      exact readBreaks_stop hbreak fun _ => ⟨hword ' ' rfl, hword '\t' rfl⟩
    | cons c w =>
      refine ⟨margin, l, Nat.le_refl l, ?_⟩
      have hc : isBreak c = false := by simpa using hw
      have hspaces : (some margin).all (0 + margin ≤ ·) = true := by simp
      rw [List.nil_append, indentLines_start hc, List.append_assoc, readBreaks_spaces hspaces,
        Nat.zero_add, lineSpots, indentLines_inside hc]
      exact readBreaks_stop (by simpa using hc) (by simp)
  | cons c bs ih =>
    obtain ⟨hc, hbs⟩ := List.forall_mem_cons.mp hbs
    obtain ⟨n, l', hl, hread⟩ := ih hbs (l + 1)
    refine ⟨max 0 n, l', by omega, ?_⟩
    rw [List.cons_append, indentLines_break hc, List.cons_append]
    exact readBreaks_break hc hread

theorem takeWhile_spotsFrom (hhere : ∀ c ∈ here, isPrintable c = true ∧ isBreak c = false)
    (hb : isBreak b = true) (t : Text) :
    ((spotsFrom l col (here ++ b :: t)).takeWhile fun p =>
      !isBreak p.char && p.char != endMark).map Spot.char = here := by
  induction here generalizing col with
  | nil => simp [spotsFrom_break hb, hb]
  | cons c here ih =>
    obtain ⟨⟨hprintable, hbreak⟩, hhere⟩ := List.forall_mem_cons.mp hhere
    rw [List.cons_append, spotsFrom_cons hbreak, List.takeWhile_cons_of_pos, List.map_cons,
      ih hhere]
    simp [hbreak, ne_endMark hprintable]

theorem readBlockLines_turn (hne : here ≠ [])
    (hhere : ∀ c ∈ here, isPrintable c = true ∧ isBreak c = false) (hb : isBreak b = true)
    (hbreaks : readBreaks (some margin) (spotsFrom (l + 1) 0 u) = .ok (bs, n, s))
    (hlines : ∀ gap, readBlockLines true margin [b] bs gap turns s = .ok (t, last, empty, behind))
    (previous more : Text) (gapBefore : Bool) :
    readBlockLines true margin previous more gapBefore (turns + 1)
      (spotsFrom l margin (here ++ b :: u)) =
        .ok (previous ++ more ++ here ++ t, last, empty, behind) := by
  have hfirst : (first (spotsFrom l margin (here ++ b :: u)) == endMark) = false := by
    obtain ⟨c, here, rfl⟩ := List.exists_cons_of_ne_nil hne
    have hc := (hhere c List.mem_cons_self).1
    simp [ne_endMark hc]
  have hdrop := drop_spotsFrom (fun c hc => (hhere c hc).2) l margin (b :: u)
  have hended : first (spotsFrom l (margin + here.length) (b :: u)) = b := by
    rw [first_spotsFrom]
    rfl
  have hbehind : (spotsFrom l (margin + here.length) (b :: u)).drop 1 = spotsFrom (l + 1) 0 u := by
    rw [spotsFrom_break hb]
    rfl
  rw [readBlockLines, column_spotsFrom, hfirst, bne_self_eq_false, Bool.or_self,
    if_neg Bool.false_ne_true]
  simp only [takeWhile_spotsFrom hhere hb, hdrop, hended, hb, if_true, List.length_singleton,
    hbehind, hbreaks, Bool.not_true, Bool.false_and, Bool.false_eq_true, if_false]
  simp only [bind, Except.bind, hlines, pure, Except.pure]

theorem exists_line (hne : w ≠ []) (hstart : w.head?.any isBreak = false)
    (hend : w.getLast?.any isBreak = true) : ∃ here b bs u, w = here ++ b :: (bs ++ u) ∧ here ≠ [] ∧
      (∀ c ∈ here, isBreak c = false) ∧ isBreak b = true ∧ (∀ c ∈ bs, isBreak c = true) ∧
        u.head?.any isBreak = false ∧ (u ≠ [] → u.getLast?.any isBreak = true) := by
  obtain ⟨c, w, rfl⟩ := List.exists_cons_of_ne_nil hne
  have hc : isBreak c = false := by simpa using hstart
  have hhere : ∀ d ∈ w.takeWhile fun c => !isBreak c, isBreak d = false := by
    intro d hd
    simpa using List.mem_takeWhile_imp hd
  have hline := List.takeWhile_append_dropWhile (p := fun c => !isBreak c) (l := w)
  cases hbehind : w.dropWhile fun c => !isBreak c with
  | nil =>
    rw [hbehind, List.append_nil] at hline
    rw [hline] at hhere
    have hlast := List.getLast?_eq_some_getLast hne
    rw [hlast] at hend
    have hall : ∀ d ∈ c :: w, isBreak d = false := List.forall_mem_cons.mpr ⟨hc, hhere⟩
    rw [Option.any_some, hall _ (List.getLast_mem hne)] at hend
    cases hend
  | cons b more =>
    have hb := List.head?_dropWhile_not (fun c => !isBreak c) w
    rw [hbehind] at hb hline
    have hsplit : c :: w = (c :: w.takeWhile fun c => !isBreak c) ++
        b :: (more.takeWhile isBreak ++ more.dropWhile isBreak) := by
      rw [List.takeWhile_append_dropWhile, List.cons_append, hline]
    refine ⟨_, b, _, _, hsplit, List.cons_ne_nil _ _, List.forall_mem_cons.mpr ⟨hc, hhere⟩,
      by simpa using hb, fun d hd => List.mem_takeWhile_imp hd, head?_dropWhile_any isBreak more,
      fun hne => ?_⟩
    rwa [hsplit, ← List.cons_append, ← List.append_assoc,
      List.getLast?_append_of_ne_nil _ hne] at hend

theorem lineSpots_line (hne : here ≠ []) (hhere : ∀ c ∈ here, isBreak c = false)
    (hb : isBreak b = true) (t : Text) : lineSpots margin l k more (here ++ b :: t) =
      spotsFrom l margin
        (here ++ b :: (indentLines margin false t ++ (List.replicate k ' ' ++ more))) := by
  have hindent : indentLines margin true (here ++ b :: t) =
      here ++ b :: indentLines margin false t := by
    clear hne
    induction here with
    | nil => exact indentLines_break hb margin true t
    | cons c here ih =>
      obtain ⟨hc, hhere⟩ := List.forall_mem_cons.mp hhere
      rw [List.cons_append, indentLines_inside hc, ih hhere, List.cons_append]
  obtain ⟨c, here, rfl⟩ := List.exists_cons_of_ne_nil hne
  rw [List.cons_append, lineSpots, ← List.cons_append, hindent]
  simp

theorem readBlockLines_behind (hk : k ≠ margin) (l turns : Nat) (more previous bs : Text)
    (gapBefore : Bool) :
    readBlockLines true margin previous bs gapBefore turns (spotsFrom l k more) =
      .ok ([], previous, bs, spotsFrom l k more) := by
  cases turns with
  | zero => rfl
  | succ turns => rw [readBlockLines, column_spotsFrom, if_pos (by simp [hk])]

theorem exists_readBlockLines (hne : w ≠ []) (hprintable : ∀ c ∈ w, isPrintable c = true)
    (hstart : w.head?.any isBreak = false) (hend : w.getLast?.any isBreak = true)
    (hk : k < margin) (hmore : BeginsWord more) (l : Nat) {turns : Nat} (hturns : w.length ≤ turns)
    (previous bs : Text) :
    ∃ l', l ≤ l' ∧ ∀ gapBefore, readBlockLines true margin previous bs gapBefore turns
      (lineSpots margin l k more w) = .ok (previous ++ bs ++ w.rdropWhile isBreak,
        (w.rtakeWhile isBreak).take 1, (w.rtakeWhile isBreak).drop 1, spotsFrom l' k more) := by
  -- A turn takes a line and all empty lines behind it, so what is left may be shorter by far.
  induction hn : w.length using Nat.strongRecOn generalizing w l turns previous bs with
  | ind n ih =>
    subst hn
    obtain ⟨here, b, empty, u, rfl, hhere, hinline, hb, hempty, hu, huend⟩ :=
      exists_line hne hstart hend
    have hline : ∀ c ∈ here, isPrintable c = true ∧ isBreak c = false := fun c hc =>
      ⟨hprintable c (List.mem_append_left _ hc), hinline c hc⟩
    obtain ⟨n, l₁, hl₁, hbreaks⟩ := exists_readBreaks hempty hu hk hmore (l + 1)
    obtain ⟨turns, rfl⟩ : ∃ m, turns = m + 1 := ⟨turns - 1, by simp at hturns; omega⟩
    by_cases hlast : u = []
    · subst hlast
      have hhereEnd : here.getLast?.any isBreak = false := by
        rw [List.getLast?_eq_some_getLast hhere]
        exact hinline _ (List.getLast_mem hhere)
      have htail : ∀ c ∈ b :: empty, isBreak c = true := List.forall_mem_cons.mpr ⟨hb, hempty⟩
      refine ⟨l₁, by omega, fun gapBefore => ?_⟩
      rw [lineSpots_line hhere hinline hb, List.append_nil, rdropWhile_append_all htail,
        rtakeWhile_append_all htail, rdropWhile_eq_self hhereEnd, rtakeWhile_eq_nil hhereEnd]
      have hbehind (gap : Bool) :=
        readBlockLines_behind (Nat.ne_of_lt hk) l₁ turns more [b] empty gap
      have hturn := readBlockLines_turn hhere hline hb hbreaks hbehind previous bs gapBefore
      simpa using hturn
    · have hkeep := rdropWhile_ne_nil hlast hu
      have hmem : ∀ c ∈ u, isPrintable c = true := fun c hc => hprintable c (by simp [hc])
      have hlength : u.length ≤ turns := by
        simp at hturns
        omega
      obtain ⟨l₂, hl₂, hrest⟩ := ih u.length (by simp; omega) hlast hmem hu (huend hlast) l₁ hlength
        [b] empty rfl
      refine ⟨l₂, by omega, fun gapBefore => ?_⟩
      have hturn := readBlockLines_turn hhere hline hb hbreaks hrest previous bs gapBefore
      have hsplit : here ++ b :: (empty ++ u) = here ++ b :: empty ++ u := by simp
      rw [lineSpots_line hhere hinline hb, hturn, hsplit, rdropWhile_append_of_ne hkeep,
        rtakeWhile_append_of_ne hkeep]
      simp

def headerOf (indented ended followed : Bool) : BlockHeader where
  literal := true
  indent := if indented then some 2 else none
  chomp := if !ended then .strip else if followed then .keep else .clip

theorem readHeader_of (indented ended followed : Bool) (u : Text) :
    readHeader true (spotsFrom l col ((if indented then ['2'] else []) ++
      (if !ended then ['-'] else if followed then ['+'] else []) ++ '\n' :: u)) =
        .ok (headerOf indented ended followed, spotsFrom (l + 1) 0 u) := by
  cases indented <;> cases ended <;> cases followed <;> rfl

def header (t : Text) : BlockHeader :=
  headerOf (t.head?.any fun c => c == ' ' || isBreak c) (t.getLast?.any isBreak)
    (t.dropLast.getLast?.all isBreak)

theorem readHeader_hints (l col : Nat) (t u : Text) :
    readHeader true (spotsFrom l col (blockHints t ++ '\n' :: u)) =
      .ok (header t, spotsFrom (l + 1) 0 u) := by
  rcases t.eq_nil_or_concat with rfl | ⟨t, c, rfl⟩
  · rfl
  · rw [blockHints, header, List.concat_eq_append, List.reverse_concat, List.getLast?_concat,
      List.dropLast_concat, Option.any_some]
    simp only [List.head?_reverse]
    exact readHeader_of _ (isBreak c) _ u

def ended (t : Text) : Text := if t.getLast?.any isBreak then t else t ++ ['\n']

theorem indentLines_ended (margin : Nat) (inside : Bool) (t : Text) :
    indentLines margin inside (t ++ ['\n']) = indentLines margin inside t ++ ['\n'] := by
  induction t generalizing inside with
  | nil => rfl
  | cons c t ih =>
    rw [List.cons_append]
    cases hc : isBreak c with
    | true => rw [indentLines_break hc, indentLines_break hc, ih, List.cons_append]
    | false =>
      cases inside with
      | true => rw [indentLines_inside hc, indentLines_inside hc, ih, List.cons_append]
      | false =>
        rw [indentLines_start hc, indentLines_start hc, ih, List.append_assoc, List.cons_append]

theorem length_le_indentLines (margin : Nat) (inside : Bool) (t : Text) :
    t.length ≤ (indentLines margin inside t).length := by
  induction t generalizing inside with
  | nil => exact Nat.zero_le _
  | cons c t ih =>
    rw [indentLines]
    split
    · exact Nat.succ_le_succ (ih false)
    · split
      · exact Nat.succ_le_succ (ih true)
      · rw [List.length_append]
        exact Nat.le_add_left_of_le (Nat.succ_le_succ (ih true))

def Chomp.tail (chomp : Chomp) (last empty : Text) : Text :=
  match chomp with
  | .strip => []
  | .clip => last
  | .keep => last ++ empty

theorem rdropWhile_append_tail (t : Text) : (ended t).rdropWhile isBreak ++
    (header t).chomp.tail (((ended t).rtakeWhile isBreak).take 1)
      (((ended t).rtakeWhile isBreak).drop 1) = t := by
  cases hend : t.getLast?.any isBreak with
  | false =>
    have hline : ∀ c ∈ ['\n'], isBreak c = true := List.forall_mem_singleton.mpr rfl
    rw [header, hend, ended, hend, if_neg Bool.false_ne_true, rdropWhile_append_all hline,
      rdropWhile_eq_self hend]
    exact List.append_nil t
  | true =>
    rw [header, hend, ended, hend, if_pos rfl]
    cases hfollowed : t.dropLast.getLast?.all isBreak with
    | true =>
      show _ ++ (_ ++ _) = t
      rw [List.take_append_drop, List.rdropWhile_append_rtakeWhile]
    | false =>
      rcases t.eq_nil_or_concat with rfl | ⟨t, c, rfl⟩
      · cases hend
      · rw [List.concat_eq_append, List.dropLast_concat] at hfollowed
        have hc : ∀ d ∈ [c], isBreak d = true := by simpa using hend
        have ht : t.getLast?.any isBreak = false := by
          cases hlast : t.getLast? with
          | none => rfl
          | some d => simpa [hlast] using hfollowed
        rw [List.concat_eq_append, rdropWhile_append_all hc, rtakeWhile_append_all hc,
          rdropWhile_eq_self ht, rtakeWhile_eq_nil ht]
        rfl

theorem exists_readBreaks_first {outer : Nat} (hne : t ≠ [])
    (hprintable : ∀ c ∈ t, isPrintable c = true) (hk : k < outer + 2) (hmore : BeginsWord more)
    (l : Nat) : ∃ n l', l ≤ l' ∧
      readBreaks ((header t).indent.map fun n => (max (outer : Int) 0).toNat + n) (spotsFrom l 0
        (indentLines (outer + 2) false (ended t) ++ (List.replicate k ' ' ++ more))) =
          .ok ((ended t).takeWhile isBreak, n,
            lineSpots (outer + 2) l' k more ((ended t).dropWhile isBreak)) ∧
      ((header t).indent = some 2 ∨ (header t).indent = none ∧ n = outer + 2) := by
  have houter : (max (outer : Int) 0).toNat = outer := by omega
  cases hindented : t.head?.any fun c => c == ' ' || isBreak c with
  | true =>
    have hbreaks : ∀ c ∈ (ended t).takeWhile isBreak, isBreak c = true :=
      fun c hc => List.mem_takeWhile_imp hc
    obtain ⟨n, l', hl, hread⟩ :=
      exists_readBreaks hbreaks (head?_dropWhile_any isBreak (ended t)) hk hmore l
    rw [List.takeWhile_append_dropWhile] at hread
    have hheader : (header t).indent = some 2 := by
      rw [header, hindented, headerOf, if_pos rfl]
    refine ⟨n, l', hl, ?_, .inl hheader⟩
    rw [hheader, Option.map_some, houter, hread]
  | false =>
    obtain ⟨c, t, rfl⟩ := List.exists_cons_of_ne_nil hne
    obtain ⟨w, hw⟩ : ∃ w, ended (c :: t) = c :: w := by
      rw [ended]
      split
      · exact ⟨t, rfl⟩
      · exact ⟨t ++ ['\n'], rfl⟩
    simp only [List.head?_cons, Option.any_some, Bool.or_eq_false_iff, beq_eq_false_iff_ne]
      at hindented
    obtain ⟨hspace, hc⟩ := hindented
    have hheader : (header (c :: t)).indent = none := by
      simp [header, headerOf, hspace, hc]
    have htab := ne_tab (hprintable c List.mem_cons_self)
    refine ⟨outer + 2, l, Nat.le_refl l, ?_, .inr ⟨hheader, rfl⟩⟩
    rw [hheader, Option.map_none, hw, List.takeWhile_cons_of_neg (by simp [hc]),
      List.dropWhile_cons_of_neg (by simp [hc]), indentLines_start hc, List.append_assoc,
      readBreaks_spaces rfl, Nat.zero_add, lineSpots, indentLines_inside hc]
    exact readBreaks_stop (by simpa using hc) (by simp [hspace, htab])

theorem readBlock_eq {outer widest : Nat} {h : BlockHeader} {s₁ s₂ : List Spot} {l₁ : Nat}
    (hheader : readHeader true s = .ok (h, s₁))
    (hbreaks : readBreaks (h.indent.map fun n => (max (outer : Int) 0).toNat + n) s₁ =
      .ok (bs, widest, s₂))
    (hindent : h.indent = some 2 ∨ h.indent = none ∧ widest = outer + 2)
    (hlines : readBlockLines true (outer + 2) [] bs false (s₂.length + 1) s₂ =
      .ok (t, last, empty, spotsFrom l₁ k more)) :
    readBlock true outer s = .ok (t ++ h.chomp.tail last empty, spotsFrom l₁ k more) := by
  have hsome : (max (outer : Int) 0).toNat = outer := by omega
  have hnone : (max ((outer : Int) + 1) 1).toNat = outer + 1 := by omega
  have hmax : max (outer + 2) (outer + 1) = outer + 2 := by omega
  rcases hindent with hindent | ⟨hindent, rfl⟩ <;>
    simp only [hindent, Option.map_some, Option.map_none, hsome] at hbreaks <;>
    simp only [readBlock, hheader, bind, Except.bind, hindent, Option.map_some, Option.map_none,
      hbreaks, hsome, hnone, hmax, hlines] <;>
    rfl

theorem getLast?_ended (t : Text) : (ended t).getLast?.any isBreak = true := by
  rw [ended]
  split
  · assumption
  · simp [isBreak]

theorem mem_ended (hc : c ∈ ended t) : c ∈ t ∨ c = '\n' := by
  rw [ended] at hc
  split at hc
  · exact .inl hc
  · simpa using hc

theorem header_of_breaks (hne : t ≠ []) (h : ∀ c ∈ t, isBreak c = true) :
    ended t = t ∧ (header t).chomp = .keep := by
  have hlast : t.getLast?.any isBreak = true := by
    rw [List.getLast?_eq_some_getLast hne]
    exact h _ (List.getLast_mem hne)
  have hbefore : t.dropLast.getLast?.all isBreak = true := by
    cases hc : t.dropLast.getLast? with
    | none => rfl
    | some c => exact h c ((List.dropLast_sublist t).subset (List.mem_of_getLast? hc))
  refine ⟨if_pos hlast, ?_⟩
  rw [header, hlast, hbefore]
  rfl

theorem length_le_lineSpots (margin l k : Nat) (more w : Text) :
    w.length ≤ (lineSpots margin l k more w).length := by
  cases w with
  | nil => exact Nat.zero_le _
  | cons c w =>
    have hle := length_le_indentLines margin true (c :: w)
    rw [lineSpots, length_spotsFrom, List.length_append]
    omega

theorem exists_readBlock {outer : Nat} (hne : t ≠ []) (hprintable : ∀ c ∈ t, isPrintable c = true)
    (hk : k ≤ outer) (hmore : BeginsWord more) (l col : Nat) : ∃ l', l < l' ∧
      readBlock true outer (spotsFrom l col (blockHints t ++ '\n' ::
        (indentLines (outer + 2) false (ended t) ++ (List.replicate k ' ' ++ more)))) =
          .ok (t, spotsFrom l' k more) := by
  have hk' : k < outer + 2 := by omega
  obtain ⟨n, l₁, hl₁, hbreaks, hindent⟩ :=
    exists_readBreaks_first hne hprintable hk' hmore (l + 1)
  have hheader := readHeader_hints l col t
    (indentLines (outer + 2) false (ended t) ++ (List.replicate k ' ' ++ more))
  have hsplit := List.takeWhile_append_dropWhile (p := isBreak) (l := ended t)
  by_cases hlines : (ended t).dropWhile isBreak = []
  -- A text of breaks is kept as the empty lines that the block begins with.
  · have hall := List.dropWhile_eq_nil_iff.mp hlines
    have hmem : ∀ c ∈ t, isBreak c = true := by
      intro c hc
      refine hall c ?_
      rw [ended]
      split
      · exact hc
      · exact List.mem_append_left _ hc
    obtain ⟨hended, hchomp⟩ := header_of_breaks hne hmem
    rw [hlines, List.append_nil, hended] at hsplit
    rw [hlines, hended, hsplit] at hbreaks
    have hread := readBlockLines_behind (Nat.ne_of_lt hk') l₁ ((spotsFrom l₁ k more).length + 1)
      more [] t false
    refine ⟨l₁, by omega, ?_⟩
    rw [hended] at hheader ⊢
    rw [readBlock_eq hheader hbreaks hindent hread, hchomp]
    rfl
  · have hstart := head?_dropWhile_any isBreak (ended t)
    have hend : ((ended t).dropWhile isBreak).getLast?.any isBreak = true := by
      rw [← List.getLast?_append_of_ne_nil _ hlines, hsplit, getLast?_ended]
    have hmem : ∀ c ∈ (ended t).dropWhile isBreak, isPrintable c = true := by
      intro c hc
      rcases mem_ended ((List.dropWhile_sublist isBreak).subset hc) with hc | rfl
      · exact hprintable c hc
      · rfl
    have hturns := Nat.le_succ_of_le (length_le_lineSpots (outer + 2) l₁ k more
      ((ended t).dropWhile isBreak))
    obtain ⟨l₂, hl₂, hread⟩ := exists_readBlockLines hlines hmem hstart hend hk' hmore l₁ hturns []
      ((ended t).takeWhile isBreak)
    have hkeep := rdropWhile_ne_nil hlines hstart
    have hlast := rtakeWhile_append_of_ne hkeep ((ended t).takeWhile isBreak)
    refine ⟨l₂, by omega, ?_⟩
    rw [readBlock_eq hheader hbreaks hindent (hread false), List.nil_append,
      ← rdropWhile_append_of_ne hkeep, ← hlast, hsplit, rdropWhile_append_tail]

end Refit.Yaml
