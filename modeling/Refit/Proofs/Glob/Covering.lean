import Mathlib.Data.List.Induction
import Refit.Glob
import Refit.Proofs.Phrase.Matching

namespace Refit

open Phrase (Matches)

namespace Glob

variable {turns : Nat} {outer : List Branches} {b : Branches} {before : Option Char} {c : Char}
  {stem tail rest source path : Text} {tokens : List Token} {g : Glob} {w : List UInt8}

theorem exists_of_readSet {isFirst : Bool} {s : OpenSet} {t : Text} {ranges : List (Char × Char)}
    (h : readSet isFirst s t = .ok (ranges, rest)) : ∃ u, t = u ++ ']' :: rest := by
  induction t generalizing isFirst s with
  | nil => cases h
  | cons d t ih =>
    have hlater : (∃ u, t = u ++ ']' :: rest) → ∃ u, d :: t = u ++ ']' :: rest := by
      rintro ⟨u, rfl⟩
      exact ⟨d :: u, rfl⟩
    rw [readSet] at h
    split at h
    · next hd =>
      cases h
      exact ⟨[], by simp_all⟩
    · split at h
      · exact hlater (ih h)
      · split at h
        · exact hlater (ih h)
        · cases h

theorem head?_of_twoStars {nested : Bool} (h : (twoStars nested before tokens rest).2 = true) :
    rest = [] ∨ rest.head? = some '/' := by
  unfold twoStars at h
  split at h
  · split at h
    · next hrest => simpa using hrest
    · cases h
  · split at h
    · cases h
    · dsimp only at h
      split at h
      · cases h
      · next hend =>
        right
        by_contra hslash
        simp_all

theorem readFrom_twoStars
    (h : readFrom (turns + 1) outer b before ('*' :: '*' :: rest) = .ok tokens) :
    ∃ b before more, (rest = more ∨ rest = '/' :: more) ∧
      readFrom turns outer b before more = .ok tokens := by
  rw [readFrom] at h
  have hslash := @head?_of_twoStars before rest b.tokens (!outer.isEmpty)
  cases hstars : twoStars (!outer.isEmpty) before b.tokens rest with
  | mk ts slash =>
    rw [hstars] at h hslash
    cases slash with
    | false => exact ⟨_, _, _, .inl rfl, h⟩
    | true =>
      cases rest with
      | nil => exact ⟨_, _, _, .inl rfl, h⟩
      | cons s rest =>
        obtain rfl : s = '/' := by simpa using hslash rfl
        exact ⟨_, _, _, .inr rfl, h⟩

theorem readFrom_set (h : readFrom (turns + 1) outer b before ('[' :: rest) = .ok tokens) :
    ∃ b before u more, rest = u ++ ']' :: more ∧
      readFrom turns outer b before more = .ok tokens := by
  rw [readFrom] at h
  dsimp only at h
  generalize hset : readSet true _ _ = set at h
  obtain e | ⟨ranges, more⟩ := set
  · cases h
  · dsimp only [Bind.bind, Except.bind] at h
    split at h
    · cases h
    · obtain ⟨u, hu⟩ := exists_of_readSet hset
      split at hu
      · refine ⟨_, _, rest.take 1 ++ u, more, ?_, h⟩
        rw [List.append_assoc, ← hu, List.take_append_drop]
      · exact ⟨_, _, u, more, hu, h⟩

def Ordinary (c : Char) : Prop := c ∉ ['?', '*', '[', ']', '\x7b', '\x7d', ',', '\\']

instance (c : Char) : Decidable (Ordinary c) := inferInstanceAs (Decidable (c ∉ _))

theorem readFrom_ordinary (hc : Ordinary c) :
    readFrom (turns + 1) outer b before (c :: tail) =
      readFrom turns outer (b.push (.literal c)) (some c) tail := by
  simp only [Ordinary, List.mem_cons, List.not_mem_nil, or_false, not_or] at hc
  rw [readFrom.eq_def]
  split <;> simp_all

def Kept (stem : Text) (c : Char) : Prop := c = '/' → stem.getLast? ≠ some '*'

instance (stem : Text) (c : Char) : Decidable (Kept stem c) :=
  inferInstanceAs (Decidable (c = '/' → _))

theorem Kept.of_append {u : Text} (h : Kept (u ++ stem) c) : Kept stem c := by
  intro hc hstem
  exact h hc (by simp [List.getLast?_append, hstem])

theorem Kept.of_cons {d : Char} (h : Kept (d :: stem) c) : Kept stem c :=
  Kept.of_append (u := [d]) h

theorem exists_of_append_eq {d : Char} {u more : Text} (h : stem ++ tail = u ++ d :: more)
    (hd : d ∉ tail) : ∃ v, stem = u ++ d :: v ∧ more = v ++ tail := by
  obtain ⟨v, rfl, rfl⟩ | ⟨v, rfl, hv⟩ := List.append_eq_append_iff.mp h
  · exact absurd (by simp) hd
  · cases v with
    | nil => exact absurd (by simp at hv; simp [← hv]) hd
    | cons e v =>
      obtain ⟨rfl, rfl⟩ := List.cons.inj hv
      exact ⟨v, rfl, rfl⟩

theorem readFrom_stars (hstem : Kept ('*' :: '*' :: stem) c)
    (h : readFrom (turns + 1) outer b before ('*' :: '*' :: (stem ++ c :: tail)) = .ok tokens) :
    ∃ stem b before, Kept stem c ∧
      readFrom turns outer b before (stem ++ c :: tail) = .ok tokens := by
  obtain ⟨b, before, more, rfl | hslash, h⟩ := readFrom_twoStars h
  · exact ⟨stem, b, before, hstem.of_cons.of_cons, h⟩
  · cases stem with
    | nil =>
      obtain ⟨rfl, -⟩ := List.cons.inj hslash
      exact absurd rfl (hstem rfl)
    | cons e stem =>
      obtain ⟨rfl, rfl⟩ := List.cons.inj hslash
      exact ⟨stem, b, before, hstem.of_cons.of_cons.of_cons, h⟩

theorem readFrom_turn {d : Char} (hc : Ordinary c) (hstem : Kept (d :: stem) c)
    (htail : ']' ∉ tail)
    (h : readFrom (turns + 1) outer b before (d :: (stem ++ c :: tail)) = .ok tokens) :
    (∃ stem outer b before, Kept stem c ∧
      readFrom turns outer b before (stem ++ c :: tail) = .ok tokens) ∨
    ∃ outer, ∃ b : Branches,
      readFrom turns outer (b.push (.literal c)) (some c) tail = .ok tokens := by
  have hlater := hstem.of_cons
  by_cases hd : Ordinary d
  · rw [readFrom_ordinary hd] at h
    exact .inl ⟨_, _, _, _, hlater, h⟩
  · simp only [Ordinary, not_not, List.mem_cons, List.not_mem_nil, or_false] at hd
    rcases hd with rfl | rfl | rfl | rfl | rfl | rfl | rfl | rfl
    · rw [readFrom] at h
      exact .inl ⟨_, _, _, _, hlater, h⟩
    · by_cases hstar : ∃ stem', stem = '*' :: stem'
      · obtain ⟨stem, rfl⟩ := hstar
        obtain ⟨stem, b, before, hkept, h⟩ := readFrom_stars hstem h
        exact .inl ⟨stem, _, b, before, hkept, h⟩
      · rw [readFrom] at h
        · exact .inl ⟨_, _, _, _, hlater, h⟩
        · intro rest hrest
          cases stem with
          | nil => simp_all [Ordinary]
          | cons e stem => exact hstar ⟨stem, by simp_all⟩
    · -- A set may hold any character, but it is closed before `c`.
      have hclosed : ']' ∉ c :: tail := by
        rw [List.mem_cons]
        rintro (rfl | hmem)
        · simp [Ordinary] at hc
        · exact htail hmem
      obtain ⟨b, before, u, more, hmore, h⟩ := readFrom_set h
      obtain ⟨v, rfl, rfl⟩ := exists_of_append_eq hmore hclosed
      exact .inl ⟨v, _, b, before, hlater.of_append.of_cons, h⟩
    · rw [readFrom] at h
      · exact .inl ⟨_, _, _, _, hlater, h⟩
      all_goals simp
    · rw [readFrom] at h
      exact .inl ⟨_, _, _, _, hlater, h⟩
    · cases outer with
      | nil => cases h
      | cons around outer =>
        rw [readFrom] at h
        exact .inl ⟨_, _, _, _, hlater, h⟩
    · rw [readFrom] at h
      split at h <;> exact .inl ⟨_, _, _, _, hlater, h⟩
    · cases stem with
      | nil =>
        rw [List.nil_append, readFrom] at h
        exact .inr ⟨_, _, h⟩
      | cons e stem =>
        rw [List.cons_append, readFrom] at h
        exact .inl ⟨_, _, _, _, hlater.of_cons, h⟩

theorem readFrom_append (hc : Ordinary c) (hstem : Kept stem c) (htail : ']' ∉ tail)
    (h : readFrom turns outer b before (stem ++ c :: tail) = .ok tokens) :
    ∃ turns outer, ∃ b : Branches,
      readFrom turns outer (b.push (.literal c)) (some c) tail = .ok tokens := by
  induction turns generalizing stem outer b before with
  | zero => cases h
  | succ turns ih =>
    cases stem with
    | nil =>
      rw [List.nil_append, readFrom_ordinary hc] at h
      exact ⟨_, _, _, h⟩
    | cons d stem =>
      obtain ⟨stem, outer, b, before, hstem, h⟩ | ⟨outer, b, h⟩ := readFrom_turn hc hstem htail h
      · exact ih hstem h
      · exact ⟨_, _, _, h⟩

theorem readFrom_nil (h : readFrom turns outer b before [] = .ok tokens) :
    outer = [] ∧ b.tokens.reverse = tokens := by
  cases turns with
  | zero => cases h
  | succ turns =>
    cases outer with
    | nil => exact ⟨rfl, Except.ok.inj h⟩
    | cons around outer => cases h

inductive Plain : Text → Prop
  | name {stem : Text} {c : Char} : Ordinary c → c ≠ '_' → Kept stem c → Plain (stem ++ [c])
  | start {stem : Text} {c : Char} : Ordinary c → c ≠ '_' → Kept stem c → Plain (stem ++ [c, '*'])
  | folder {stem : Text} : Kept stem '/' → Plain (stem ++ ['/', '*', '*'])

theorem exists_of_readFrom_name (hc : Ordinary c) (hstem : Kept stem c)
    (h : readFrom turns [] {} none (stem ++ [c]) = .ok tokens) :
    ∃ ts, tokens = ts ++ [.literal c] := by
  obtain ⟨turns, outer, b, h⟩ := readFrom_append hc hstem (by simp) h
  obtain ⟨-, rfl⟩ := readFrom_nil h
  exact ⟨b.tokens.reverse, by simp [Branches.push]⟩

theorem exists_of_readFrom_start (hc : Ordinary c) (hstem : Kept stem c)
    (h : readFrom turns [] {} none (stem ++ [c, '*']) = .ok tokens) :
    ∃ ts, tokens = ts ++ [.literal c, .many] := by
  obtain ⟨turns, outer, b, h⟩ := readFrom_append hc hstem (by simp) h
  cases turns with
  | zero => cases h
  | succ turns =>
    rw [readFrom] at h
    · obtain ⟨-, rfl⟩ := readFrom_nil h
      exact ⟨b.tokens.reverse, by simp [Branches.push]⟩
    · simp

theorem exists_of_readFrom_folder (hstem : Kept stem '/')
    (h : readFrom turns [] {} none (stem ++ ['/', '*', '*']) = .ok tokens) :
    ∃ ts, tokens = ts ++ [.trailingFolders] := by
  obtain ⟨turns, outer, b, h⟩ := readFrom_append (by decide) hstem (by simp) h
  cases turns with
  | zero => cases h
  | succ turns =>
    have hstars : twoStars (!outer.isEmpty) (some '/') (b.push (.literal '/')).tokens [] =
        (.trailingFolders :: b.tokens, false) := rfl
    rw [readFrom, hstars] at h
    obtain ⟨-, rfl⟩ := readFrom_nil h
    exact ⟨b.tokens.reverse, by simp⟩

theorem getLast?_utf8EncodeChar (h : (String.utf8EncodeChar c).getLast? = some 95) : c = '_' := by
  have hlater (n : Nat) : UInt8.ofNat (n % 64 + 128) ≠ 95 := by
    intro hn
    have := congrArg UInt8.toNat hn
    simp at this
    omega
  unfold String.utf8EncodeChar at h
  dsimp only at h
  split at h
  · next hsmall =>
    have hv : (UInt8.ofNat c.val.toNat).toNat = 95 := congrArg UInt8.toNat (Option.some.inj h)
    rw [UInt8.toNat_ofNat', Nat.mod_eq_of_lt (by omega)] at hv
    exact Char.ext (UInt32.toNat.inj hv)
  · split at h
    · exact absurd (Option.some.inj h) (hlater _)
    · split at h
      · exact absurd (Option.some.inj h) (hlater _)
      · exact absurd (Option.some.inj h) (hlater _)

theorem bytes_append (p q : Text) : bytes (p ++ q) = bytes p ++ bytes q := List.flatMap_append

@[simp] theorem matches_anything : Matches ByteSet.contains anything w := by
  induction w with
  | nil => exact .done
  | cons x w ih => exact .more (u := [x]) (.one rfl) ih

theorem contains_single {x y : UInt8} : (ByteSet.single x).contains y = true ↔ y = x := by
  simp only [ByteSet.contains, ByteSet.single, List.any_cons, List.any_nil, Bool.or_false,
    bne_iff_ne, ne_eq, Bool.false_eq, Bool.not_eq_false, Bool.and_eq_true, decide_eq_true_eq]
  exact ⟨fun h => UInt8.le_antisymm h.2 h.1, fun h => by simp [h]⟩

@[simp] theorem matches_fixed {t : Text} : Matches ByteSet.contains (fixed t) w ↔ w = bytes t := by
  rw [fixed]
  induction bytes t using List.reverseRecOn generalizing w with
  | nil => exact Phrase.matches_empty
  | append_singleton bs x ih =>
    rw [List.map_append, List.map_singleton, Phrase.matches_all_concat]
    simp only [ih, Phrase.matches_one, contains_single]
    constructor
    · rintro ⟨u, v, rfl, rfl, y, rfl, rfl⟩
      rfl
    · rintro rfl
      exact ⟨bs, [x], rfl, rfl, x, rfl, rfl⟩

theorem exists_of_parse? (h : parse? source = .ok g) : ∃ tokens,
    readFrom (source.length + 1) [] {} none source = .ok tokens ∧
      (tokens = [.leadingFolders] ∨ g.phrase = (phraseOf? tokens).getD .empty) := by
  rw [parse?] at h
  cases hread : readFrom (source.length + 1) [] {} none source with
  | error e => rw [hread] at h; cases h
  | ok tokens =>
    refine ⟨tokens, rfl, ?_⟩
    rw [hread] at h
    dsimp only [Bind.bind, Except.bind] at h
    split at h
    · exact .inl rfl
    · right
      cases h
      rfl

theorem phraseOf?_concat {t : Token} {p : BytePhrase} {ts : List Token} (ht : t.phrase? = some p) :
    phraseOf? (ts ++ [t]) = some (.all (ts.filterMap Token.phrase? ++ [p])) := by
  have hparts : (ts ++ [t]).filterMap Token.phrase? = ts.filterMap Token.phrase? ++ [p] := by
    simp [ht]
  rw [phraseOf?, hparts]
  split <;> simp_all

theorem accepts_iff_of_concat {t : Token} {p : BytePhrase} {ts : List Token}
    (hg : g.phrase = (phraseOf? (ts ++ [t])).getD .empty) (ht : t.phrase? = some p) :
    g.accepts path = true ↔ ∃ u v, bytes path = u ++ v ∧
      Matches ByteSet.contains (.all (ts.filterMap Token.phrase?)) u ∧
      Matches ByteSet.contains p v := by
  rw [accepts, hg, phraseOf?_concat ht, Option.getD_some, Phrase.matchesAll_iff,
    Phrase.matches_all_concat]

/-- Whether a glob accepts all that lies below a folder wherever it accepts the name `_` in it. -/
def Covers (g : Glob) : Prop :=
  ∀ folder rest : Text, g.accepts (folder ++ ['_']) = true → g.accepts (folder ++ rest) = true

theorem bytes_underscore_ne {folder : Text} {u : List UInt8} (hc : c ≠ '_') :
    bytes (folder ++ ['_']) ≠ u ++ bytes [c] := by
  intro h
  have hlast := congrArg List.getLast? h
  rw [bytes_append, List.getLast?_append, List.getLast?_append] at hlast
  cases hc' : (bytes [c]).getLast? with
  | none =>
    have hlength : (String.utf8EncodeChar c).length = 0 := by
      simpa [bytes] using congrArg List.length (List.getLast?_eq_none_iff.mp hc')
    rw [String.length_utf8EncodeChar] at hlength
    exact absurd hlength (Nat.ne_of_gt c.utf8Size_pos)
  | some x =>
    rw [hc'] at hlast
    obtain rfl : 95 = x := Option.some.inj hlast
    exact hc (getLast?_utf8EncodeChar (by simpa [bytes] using hc'))

theorem covers_of_name (hc : c ≠ '_')
    (h : ∀ path, g.accepts path = true → ∃ u, bytes path = u ++ bytes [c]) : g.Covers := by
  intro folder rest hfolder
  obtain ⟨u, hu⟩ := h _ hfolder
  exact absurd hu (bytes_underscore_ne hc)

theorem covers_of_start {p : BytePhrase} (hc : c ≠ '_')
    (h : ∀ path, g.accepts path = true ↔
      ∃ u v, bytes path = u ++ bytes [c] ++ v ∧ Matches ByteSet.contains p u) : g.Covers := by
  intro folder rest hfolder
  obtain ⟨u, v, hv, hu⟩ := (h _).mp hfolder
  rcases v.eq_nil_or_concat with rfl | ⟨v, x, rfl⟩
  · rw [List.append_nil] at hv
    exact absurd hv (bytes_underscore_ne hc)
  · have hfolder : bytes folder = u ++ bytes [c] ++ v := by
      rw [bytes_append, List.concat_eq_append, ← List.append_assoc] at hv
      exact (List.append_inj' hv rfl).1
    refine (h _).mpr ⟨u, v ++ bytes rest, ?_, hu⟩
    rw [bytes_append, hfolder, List.append_assoc]

theorem Plain.covers (hplain : Plain source) (h : parse? source = .ok g) : g.Covers := by
  obtain ⟨tokens, hread, hg⟩ := exists_of_parse? h
  cases hplain with
  | name hc hne hstem =>
    obtain ⟨ts, rfl⟩ := exists_of_readFrom_name hc hstem hread
    have hg := hg.resolve_left (by simp [List.append_eq_cons_iff])
    refine covers_of_name hne fun path hpath => ?_
    obtain ⟨u, v, huv, -, hv⟩ := (accepts_iff_of_concat hg rfl).mp hpath
    exact ⟨u, by rw [huv, matches_fixed.mp hv]⟩
  | @start stem c hc hne hstem =>
    obtain ⟨ts, rfl⟩ := exists_of_readFrom_start hc hstem hread
    rw [List.append_cons] at hg
    have hg := hg.resolve_left (by simp [List.append_eq_cons_iff])
    refine covers_of_start (p := .all (ts.filterMap Token.phrase?)) hne fun path => ?_
    have hparts : (ts ++ [Token.literal c]).filterMap Token.phrase? =
        ts.filterMap Token.phrase? ++ [fixed [c]] := by
      simp [Token.phrase?]
    rw [accepts_iff_of_concat hg rfl, hparts]
    simp only [Phrase.matches_all_concat, matches_fixed, matches_anything, and_true]
    constructor
    · rintro ⟨_, v, hv, u, _, rfl, hu, rfl⟩
      exact ⟨u, v, hv, hu⟩
    · rintro ⟨u, v, hv, hu⟩
      exact ⟨_, v, hv, u, _, rfl, hu, rfl⟩
  | folder hstem =>
    obtain ⟨ts, rfl⟩ := exists_of_readFrom_folder hstem hread
    have hg := hg.resolve_left (by simp [List.append_eq_cons_iff])
    refine covers_of_start (c := '/') (p := .all (ts.filterMap Token.phrase?)) (by decide)
      fun path => ?_
    rw [accepts_iff_of_concat hg rfl]
    simp only [Phrase.matches_seq, matches_fixed, matches_anything, and_true]
    constructor
    · rintro ⟨u, v, hv, hu, s, rest, rfl, rfl⟩
      exact ⟨u, rest, by rw [hv, List.append_assoc], hu⟩
    · rintro ⟨u, rest, hrest, hu⟩
      exact ⟨u, _, by rw [hrest, List.append_assoc], hu, _, rest, rfl, rfl⟩

end Glob

end Refit
