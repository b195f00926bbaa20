import Refit.Proofs.Pattern.Literal
import Refit.Proofs.Pattern.Search
import Refit.Proofs.Token.Occurrence

namespace Refit

def Pattern.MatchesAt (p : Pattern) (t : Text) (i j : Nat) : Prop :=
  ∃ m, p.program.search (t.take i).getLast? (t.drop i) = some m ∧ m.start = 0 ∧ i + m.stop = j

namespace Token

open Pattern (Atom CharSet Expr Look Slots Step firstRun lineCode run wholeLine)
open Pattern.Reader (OpenGroup groupRest)

variable {tok : Token} {c? before after : Option Char} {literal more t : Text} {left : List Step}
  {slots : Slots} {index turns groups : Nat} {names : List (Text × Nat)} {g : OpenGroup}

def edge (c? : Option Char) : List Atom :=
  if c?.any bindsAt then [.look (.edge .boundary false)] else []

def edgeText (c? : Option Char) : Text := if c?.any bindsAt then ['\\', 'b'] else []

theorem length_edge (c? : Option Char) : (edge c?).length ≤ (edgeText c?).length := by
  rw [edge, edgeText]
  split <;> simp

def atoms (tok : Token) : List Atom :=
  edge tok.literal.head? ++ (tok.literal.map .literal ++ edge tok.literal.getLast?)

def expr (tok : Token) : Expr := .seqs (tok.atoms.map Atom.expr)

def compiled (tok : Token) : Pattern := ⟨tok.pattern, tok.expr.program, []⟩

theorem pattern_eq (tok : Token) : tok.pattern =
    edgeText tok.literal.head? ++ (escape tok.literal ++ edgeText tok.literal.getLast?) :=
  List.append_assoc _ _ _

theorem groupRest_edge (hmore : c?.any bindsAt = true → more.head? ≠ some '\x7b') :
    groupRest [] g ((edge c?).length + turns) ⟨edgeText c? ++ more, {}, groups, names⟩ =
      groupRest [] (g.read (edge c?)) turns ⟨more, {}, groups, names⟩ := by
  by_cases hc : c?.any bindsAt = true
  · rw [edge, edgeText, if_pos hc, if_pos hc, List.length_singleton, Nat.add_comm]
    exact Pattern.Reader.groupRest_boundary (hmore hc)
  · rw [edge, edgeText, if_neg hc, if_neg hc]
    simp [OpenGroup.read]

theorem length_escape (literal : Text) : literal.length ≤ (escape literal).length := by
  induction literal with
  | nil => exact Nat.le_refl 0
  | cons c literal ih =>
    rw [escape, List.flatMap_cons, List.length_append, List.length_cons, Nat.add_comm]
    refine Nat.add_le_add ?_ ih
    split
    · exact Nat.le_succ 1
    · exact Nat.le_refl 1

theorem head?_escape (hbinds : literal.head?.any bindsAt = true) :
    (escape literal ++ more).head? ≠ some '\x7b' := by
  have hmeta (c : Char) (hc : c ∈ metaCharacters) : bindsAt c = false := by
    fin_cases hc <;> rfl
  rcases literal with - | ⟨c, literal⟩
  · cases hbinds
  · have hc : c ∉ metaCharacters := fun h => by simp_all
    rintro h
    obtain rfl : c = '\x7b' := by simpa [escape, hc] using h
    exact hc (by decide)

theorem read_pattern (tok : Token) :
    Pattern.Reader.whole ⟨tok.pattern, {}, 0, []⟩ =
      .ok (.seqs (tok.atoms.map Atom.part), ⟨[], {}, 0, []⟩) := by
  have hwhole : Pattern.Reader.whole ⟨tok.pattern, {}, 0, []⟩ =
      groupRest [] { index := none, flags := {} } (tok.pattern.length + 1)
        ⟨tok.pattern, {}, 0, []⟩ := rfl
  -- There is a turn for each atom, and one for the end.
  obtain ⟨spare, hspare⟩ : ∃ spare, tok.pattern.length + 1 = (edge tok.literal.head?).length +
      (tok.literal.length + ((edge tok.literal.getLast?).length + (spare + 1))) := by
    have hfirst := length_edge tok.literal.head?
    have hlast := length_edge tok.literal.getLast?
    have hescape := length_escape tok.literal
    refine ⟨tok.pattern.length - (edge tok.literal.head?).length - tok.literal.length -
      (edge tok.literal.getLast?).length, ?_⟩
    rw [pattern_eq, List.length_append, List.length_append]
    omega
  rw [hwhole, hspare, pattern_eq, groupRest_edge head?_escape, Pattern.Reader.groupRest_escape,
    ← List.append_nil (edgeText tok.literal.getLast?), groupRest_edge (by simp),
    OpenGroup.read_read, OpenGroup.read_read]
  exact congrArg (fun p => Except.ok (p, _)) (OpenGroup.content_read _)

theorem parse?_pattern (tok : Token) :
    Pattern.parse? tok.pattern =
      if Pattern.maxWeight < tok.expr.weight then .error .tooLarge else .ok tok.compiled := by
  obtain ⟨hexpr, hdepth⟩ := Pattern.seqs_part tok.atoms
  have hdeep : ¬ Pattern.maxDepth < (Pattern.Part.seqs (tok.atoms.map Atom.part)).depth :=
    Nat.not_lt.mpr (Nat.le_trans hdepth (by decide))
  rw [Pattern.parse?]
  change (Pattern.Reader.whole ⟨tok.pattern, {}, 0, []⟩ >>= _) = _
  rw [read_pattern]
  change (if _ then _ else _) = _
  rw [if_neg hdeep]
  change (if _ then _ else _) = _
  rw [hexpr]
  rfl

theorem contains_single (c d : Char) : (CharSet.single c).contains d = (c == d) := by
  rw [Bool.eq_iff_iff, beq_iff_eq, CharSet.single, CharSet.contains, Bool.and_eq_true,
    decide_eq_true_iff, decide_eq_true_iff]
  exact ⟨fun h => Char.le_antisymm h.1 h.2, fun h => h ▸ ⟨Char.le_refl c, Char.le_refl c⟩⟩

theorem run_edge :
    run ((edge c?).map Atom.step ++ left) index before t slots =
      if !c?.any bindsAt || isWordBoundary before t.head? then run left index before t slots
      else none := by
  by_cases hc : c?.any bindsAt = true
  · rw [edge, if_pos hc, hc]
    rfl
  · rw [edge, if_neg hc, Bool.not_eq_true _ |>.mp hc]
    rfl

theorem run_literal :
    run ((literal.map Atom.literal).map Atom.step ++ left) index before t slots =
      (Text.dropStart? literal t).bind fun behind =>
        run left (index + literal.length) (literal.getLast?.or before) behind slots := by
  induction literal generalizing index before t with
  | nil => rfl
  | cons c literal ih =>
    cases t with
    | nil => rfl
    | cons d t =>
      rw [List.map_cons, List.map_cons, List.cons_append, Atom.step, run, contains_single, ih,
        Text.dropStart?, List.length_cons, Nat.add_right_comm, Nat.add_assoc]
      by_cases hd : c = d
      · simp [hd, Text.getLast?_cons_or]
      · simp [hd]

def ends (tok : Token) (index : Nat) : Slots := [(1, index + tok.literal.length), (0, index)]

theorem run_atoms (tok : Token) (index : Nat) (before : Option Char) (t : Text) :
    run (wholeLine tok.atoms) index before t [] =
      if tok.occursAt before t then some (tok.ends index) else none := by
  rw [wholeLine, run, atoms, List.map_append, List.map_append, List.append_assoc, run_edge,
    List.append_assoc, run_literal, occursAt]
  cases Text.dropStart? tok.literal t with
  | none => simp
  | some behind =>
    -- A boundary is asked for at the end only where the literal has a last character.
    have hlast : (!tok.literal.getLast?.any bindsAt ||
          isWordBoundary (tok.literal.getLast?.or before) behind.head?) =
        (!tok.literal.getLast?.any bindsAt ||
          isWordBoundary tok.literal.getLast? behind.head?) := by
      cases tok.literal.getLast? <;> rfl
    rw [Option.bind_some, run_edge, hlast]
    simp [ite_and, run, ends]

theorem firstRun_atoms (h : firstRun (wholeLine tok.atoms) index before t = some slots) :
    ∃ k, index ≤ k ∧ slots = tok.ends k := by
  induction t generalizing index before with
  | nil =>
    rw [firstRun, run_atoms] at h
    split at h
    · exact ⟨index, Nat.le_refl index, (Option.some.inj h).symm⟩
    · cases h
  | cons c t ih =>
    rw [firstRun, run_atoms] at h
    split at h
    · exact ⟨index, Nat.le_refl index, (Option.some.inj h).symm⟩
    · obtain ⟨k, hk, hslots⟩ := ih h
      exact ⟨k, Nat.le_of_succ_le hk, hslots⟩

theorem ends_inj {k : Nat} (h : tok.ends k = tok.ends index) : k = index := by
  simp only [ends, List.cons.injEq, Prod.mk.injEq] at h
  exact h.2.1.2

theorem firstRun_iff (tok : Token) (index : Nat) (before : Option Char) (t : Text) :
    firstRun (wholeLine tok.atoms) index before t = some (tok.ends index) ↔
      tok.occursAt before t = true := by
  constructor
  · intro h
    by_contra hnot
    cases t with
    | nil =>
      rw [firstRun, run_atoms, if_neg hnot] at h
      cases h
    | cons c t =>
      rw [firstRun, run_atoms, if_neg hnot, Option.none_or] at h
      obtain ⟨k, hk, hends⟩ := firstRun_atoms h
      exact absurd (ends_inj hends) (by omega)
  · intro h
    cases t <;> rw [firstRun, run_atoms, if_pos h]
    rfl

theorem isSome_firstRun (tok : Token) (index : Nat) (before : Option Char) (t : Text) :
    (firstRun (wholeLine tok.atoms) index before t).isSome =
      Text.anyPosition tok.occursAt before t := by
  induction t generalizing index before with
  | nil =>
    rw [firstRun, run_atoms, Text.anyPosition]
    split <;> simp_all
  | cons c t ih =>
    rw [firstRun, run_atoms, Text.anyPosition, ← ih (index + 1)]
    split <;> simp_all

theorem search_compiled (tok : Token) (before : Option Char) (t : Text) :
    (tok.compiled.program.search before t).map (fun m => (m.start, m.stop)) =
      (firstRun (wholeLine tok.atoms) 0 before t).bind fun slots =>
        (slots.get? 0).bind fun start => (slots.get? 1).map (start, ·) := by
  have hprogram : tok.compiled.program =
      ⟨lineCode (wholeLine tok.atoms), (wholeLine tok.atoms).length⟩ :=
    Pattern.program_seqs tok.atoms
  rw [hprogram, Pattern.Program.search, Pattern.search_line]
  cases h : firstRun (wholeLine tok.atoms) 0 before t with
  | none => rfl
  | some slots =>
    obtain ⟨k, -, rfl⟩ := firstRun_atoms h
    rfl

/-- The pattern of a token is found where the token is. -/
theorem occursIn_compiled (tok : Token) (t : Text) : tok.compiled.occursIn t = tok.occursIn t := by
  rw [Pattern.occursIn, occursIn, ← isSome_firstRun tok 0, ← Option.isSome_map, search_compiled]
  cases h : firstRun (wholeLine tok.atoms) 0 none t with
  | none => rfl
  | some slots =>
    obtain ⟨k, -, rfl⟩ := firstRun_atoms h
    rfl

def StandsAt (tok : Token) (allowed : Option Char → Option Char → Prop) (t : Text) (i : Nat) :
    Prop :=
  ∃ behind, t.drop i = tok.literal ++ behind ∧ allowed (t.take i).getLast? behind.head?

/-- Between two characters a token does not begin or end inside a word. -/
def WholeBetween (tok : Token) (before after : Option Char) : Prop :=
  (tok.literal.head?.any isWord = true → before.any isWord = false) ∧
    (tok.literal.getLast?.any isWord = true → after.any isWord = false)

theorem matchesAt_compiled {i j : Nat} : tok.compiled.MatchesAt t i j ↔
    j = i + tok.literal.length ∧ tok.StandsAt (fun b a => tok.fits b a = true) t i := by
  have hsearch := search_compiled tok (t.take i).getLast? (t.drop i)
  rw [StandsAt, ← occursAt_iff, ← firstRun_iff tok 0, Pattern.MatchesAt]
  cases hrun : firstRun (wholeLine tok.atoms) 0 (t.take i).getLast? (t.drop i) with
  | none =>
    rw [hrun, Option.bind_none, Option.map_eq_none_iff] at hsearch
    simp [hsearch]
  | some slots =>
    obtain ⟨k, -, rfl⟩ := firstRun_atoms hrun
    rw [hrun] at hsearch
    obtain ⟨m, hm, hends⟩ := Option.map_eq_some_iff.mp hsearch
    obtain ⟨rfl, hstop⟩ := Prod.mk.inj hends
    rw [hm, Option.some.injEq]
    constructor
    · rintro ⟨m', hm', hstart, rfl⟩
      obtain rfl := Option.some.inj hm'
      rw [hstart] at hstop ⊢
      exact ⟨by omega, rfl⟩
    · rintro ⟨rfl, h⟩
      have hstart := ends_inj h
      exact ⟨m, rfl, hstart, by omega⟩

def IsEnd (tok : Token) (c : Char) : Prop :=
  tok.literal.head? = some c ∨ tok.literal.getLast? = some c

theorem fits_none_iff : tok.fits none none = true ↔
    ∀ c, tok.IsEnd c → bindsAt c = true → isWord c = true := by
  have hend (o : Option Char) : (!o.any bindsAt || o.any isWord) = true ↔
      ∀ c, o = some c → bindsAt c = true → isWord c = true := by
    cases o with
    | none => simp
    | some c =>
      simp only [Option.any_some, Option.some.injEq, forall_eq']
      cases bindsAt c <;> simp
  simp only [fits, isWordBoundary, Option.any_none, Bool.false_bne, Bool.bne_false,
    Bool.and_eq_true, hend, IsEnd, or_imp, forall_and]

theorem fits_iff_wholeBetween (h : ∀ c, tok.IsEnd c → bindsAt c = isWord c) :
    tok.fits before after = true ↔ tok.WholeBetween before after := by
  have hany {o : Option Char} (ho : ∀ c, o = some c → tok.IsEnd c) :
      o.any bindsAt = o.any isWord := by
    cases o with
    | none => rfl
    | some c => exact h c (ho c rfl)
  rw [fits, WholeBetween, Bool.and_eq_true, hany fun c hc => .inl hc, hany fun c hc => .inr hc]
  simp only [isWordBoundary]
  refine and_congr ?_ ?_
  · cases tok.literal.head?.any isWord <;> cases before.any isWord <;> decide
  · cases tok.literal.getLast?.any isWord <;> cases after.any isWord <;> decide

theorem bindsAt_eq_of_fits
    (h : ∀ before after, tok.fits before after = true ↔ tok.WholeBetween before after) :
    ∀ c, tok.IsEnd c → bindsAt c = isWord c := by
  have halone : tok.fits none none = true := (h none none).mpr ⟨fun _ => rfl, fun _ => rfl⟩
  have hletter : isWord 'a' = true := by decide
  obtain ⟨hfirst, hlast⟩ := Bool.and_eq_true_iff.mp halone
  intro c hc
  refine Bool.eq_iff_iff.mpr ⟨fits_none_iff.mp halone c hc, fun hword => ?_⟩
  -- An end that does not bind fits next to a letter, where no word may end.
  by_contra hfree
  rw [Bool.not_eq_true] at hfree
  rcases hc with hc | hc
  · have hfits : tok.fits (some 'a') none = true :=
      Bool.and_eq_true_iff.mpr ⟨by simp [hc, hfree], hlast⟩
    have hnot := ((h _ _).mp hfits).1 (by simp [hc, hword])
    exact absurd (hletter.symm.trans hnot) (by decide)
  · have hfits : tok.fits none (some 'a') = true :=
      Bool.and_eq_true_iff.mpr ⟨hfirst, by simp [hc, hfree]⟩
    have hnot := ((h _ _).mp hfits).2 (by simp [hc, hword])
    exact absurd (hletter.symm.trans hnot) (by decide)

theorem standsAt_between (tok : Token) (allowed : Option Char → Option Char → Prop)
    (before after : Option Char) :
    tok.StandsAt allowed (before.toList ++ (tok.literal ++ after.toList)) before.toList.length ↔
      allowed before after := by
  have hbefore : before.toList.getLast? = before := by cases before <;> rfl
  have hafter : after.toList.head? = after := by cases after <;> rfl
  rw [StandsAt, List.drop_left, List.take_left, hbefore]
  constructor
  · rintro ⟨behind, hbehind, h⟩
    rwa [← List.append_cancel_left hbehind, hafter] at h
  · exact fun h => ⟨after.toList, rfl, by rwa [hafter]⟩

/-- The pattern of a token is refused only where it is too large. It matches where the token stands
between word boundaries, which are asked for next to the ends that bind. These are the places where
the token stands as a whole exactly if its ends bind where they are parts of words, and the pattern
matches the token itself exactly if they bind nowhere else. -/
theorem pattern_matches_whole_iff (tok : Token) :
    Pattern.parse? tok.pattern =
        (if Pattern.maxWeight < tok.expr.weight then .error .tooLarge else .ok tok.compiled) ∧
      (∀ t i j, tok.compiled.MatchesAt t i j ↔
        j = i + tok.literal.length ∧ tok.StandsAt (fun b a => tok.fits b a = true) t i) ∧
      ((∀ t i, tok.compiled.MatchesAt t i (i + tok.literal.length) ↔
          tok.StandsAt tok.WholeBetween t i) ↔
        ∀ c, tok.IsEnd c → bindsAt c = isWord c) ∧
      (tok.compiled.MatchesAt tok.literal 0 tok.literal.length ↔
        ∀ c, tok.IsEnd c → bindsAt c = true → isWord c = true) := by
  have hmatches {t : Text} {i : Nat} : tok.compiled.MatchesAt t i (i + tok.literal.length) ↔
      tok.StandsAt (fun b a => tok.fits b a = true) t i := by
    rw [matchesAt_compiled, and_iff_right rfl]
  refine ⟨parse?_pattern tok, fun t i j => matchesAt_compiled,
    ⟨fun h => bindsAt_eq_of_fits ?_, ?_⟩, ?_⟩
  · intro before after
    have hbetween := h (before.toList ++ (tok.literal ++ after.toList)) before.toList.length
    rwa [hmatches, standsAt_between, standsAt_between] at hbetween
  · intro h t i
    rw [hmatches, StandsAt, StandsAt]
    simp only [fits_iff_wholeBetween h]
  · have halone := tok.standsAt_between (fun b a => tok.fits b a = true) none none
    rw [Option.toList_none, List.append_nil, List.nil_append, List.length_nil] at halone
    rw [← fits_none_iff, ← halone, ← hmatches, Nat.zero_add]

/-- A superscript binds but is no part of a word, so its pattern does not even match itself. -/
theorem pattern_misses_superscript :
    Pattern.parse? (Token.mk ['²']).pattern = .ok (Token.mk ['²']).compiled ∧
      (Token.mk ['²']).StandsAt (Token.mk ['²']).WholeBetween ['²'] 0 ∧
      ¬ (Token.mk ['²']).compiled.MatchesAt ['²'] 0 1 := by
  refine ⟨rfl, ⟨[], rfl, fun _ => rfl, fun _ => rfl⟩, ?_⟩
  have hnone : ((Token.mk ['²']).compiled.program.search none ['²']).isNone = true := by
    decide +kernel
  rintro ⟨m, hm, -, -⟩
  cases hm.symm.trans (Option.isNone_iff_eq_none.mp hnone)

end Token

end Refit
