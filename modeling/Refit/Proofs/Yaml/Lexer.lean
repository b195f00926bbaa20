import Refit.Proofs.Results
import Refit.Proofs.Yaml.Spot
import Refit.Yaml.Token

/-! A run is followed backwards: the tokens that the lexer yields before a token are those that it
yields behind it. What stands before a token is passed over by the step that reads the token, so two
lexers that stand at different characters before the same token go on alike. -/

namespace Refit.Yaml.Lexer

variable {x y z : Lexer} {out ts : List Token} {s s' : List Spot} {t rest : Text} {c : Char}
  {l col k n : Nat} {i o : Int} {is : List Int} {ka : Bool} {keys : List (Option KeyPlace)}
  {place : Option KeyPlace}

def settle (x : Lexer) : Except Malformed Lexer := do
  let (spots, keyAllowed) := skip x.inFlow x.keyAllowed false x.spots
  let x ← { x with spots, keyAllowed }.forgetKeys
  return x.unroll (column x.spots)

theorem next_congr (h : x.settle = y.settle) : x.next = y.next := by
  simp only [settle, bind, Except.bind, pure, Except.pure] at h
  simp only [next, bind, Except.bind, pure, Except.pure]
  generalize ({ x with spots := _, keyAllowed := _ } : Lexer).forgetKeys = fx at h ⊢
  generalize ({ y with spots := _, keyAllowed := _ } : Lexer).forgetKeys = fy at h ⊢
  cases fx with
  | error e =>
    cases fy with
    | error f => cases h; rfl
    | ok y => cases h
  | ok x =>
    cases fy with
    | error f => cases h
    | ok y =>
      have h := Except.ok.inj h
      simp only [h]

theorem all_succ (n : Nat) (x : Lexer) : all (n + 1) x =
    match x.next with
    | .error e => .error e
    | .ok (y, true) => all n y
    | .ok (y, false) => .ok y.tokens.toList := by
  rw [all]
  cases x.next with
  | error e => rfl
  | ok p =>
    obtain ⟨y, more⟩ := p
    cases more <;> rfl

theorem all_mono (h : all n x = .ok out) (k : Nat) : all (n + k) x = .ok out := by
  induction n generalizing x with
  | zero => cases h
  | succ n ih =>
    rw [Nat.add_right_comm, all_succ]
    rw [all_succ] at h
    cases hnext : x.next with
    | error e => simp [hnext] at h
    | ok p =>
      obtain ⟨y, more⟩ := p
      rw [hnext] at h
      cases more with
      | false => exact h
      | true => exact ih h

/-- The lexer reads its text to the end, and these are the tokens. -/
def Yields (x : Lexer) (out : List Token) : Prop := all (x.spots.length + 1) x = .ok out

theorem Yields.step (hz : z.Yields out) (h : x.next = .ok (y, true)) (hsettle : y.settle = z.settle)
    (hlength : z.spots.length < x.spots.length) : x.Yields out := by
  obtain ⟨k, hk⟩ := Nat.exists_eq_add_of_lt hlength
  rw [Yields, all_succ, h, hk, Nat.add_right_comm]
  refine (all_mono ?_ k : all (z.spots.length + 1 + k) y = .ok out)
  rwa [all_succ, next_congr hsettle, ← all_succ]

theorem Yields.congr (hy : y.Yields out) (h : x.settle = y.settle)
    (hlength : y.spots.length ≤ x.spots.length) : x.Yields out := by
  obtain ⟨k, hk⟩ := Nat.exists_eq_add_of_le hlength
  rw [Yields, all_succ, next_congr h, ← all_succ, hk, Nat.add_right_comm]
  exact all_mono hy k

def state (s : List Spot) (ts : List Token) (i : Int) (is : List Int)
    (keys : List (Option KeyPlace)) (ka : Bool) : Lexer :=
  ⟨s, ts.toArray, i, is, keys, ka⟩

def ready (s : List Spot) (ts : List Token) (i : Int) (is : List Int) : Lexer :=
  state s ts i is [none] true

theorem skip_word (ht : BeginsWord t) (flow ka : Bool) :
    skip flow ka false (spotsFrom l col t) = (spotsFrom l col t, ka) := by
  cases t with
  | nil => simp [spotsFrom, skip, isBreak, endMark]
  | cons c t =>
    obtain ⟨hwhite, -, hsign, hmark⟩ := ht c rfl
    have hbreak := isBreak_of_isWhite hwhite
    have hgap : c ≠ ' ' ∧ c ≠ '\t' := by
      simpa [isWhite, hbreak, isGap] using hwhite
    rw [spotsFrom_cons hbreak, skip]
    simp [hbreak, hgap, hsign, hmark]

theorem skip_spaces (flow ka : Bool) (k : Nat) (t : Text) :
    skip flow ka false (spotsFrom l col (List.replicate k ' ' ++ t)) =
      skip flow ka false (spotsFrom l (col + k) t) := by
  induction k generalizing col with
  | zero => rfl
  | succ k ih =>
    rw [List.replicate_succ, List.cons_append, spotsFrom_cons rfl, skip]
    rw [if_neg (show ¬isBreak ' ' = true by decide), if_neg (by simp), if_pos (by simp), ih,
      Nat.add_right_comm, Nat.add_assoc]

theorem skip_break (ka : Bool) (t : Text) :
    skip false ka false (spotsFrom l col ('\n' :: t)) =
      skip false true false (spotsFrom (l + 1) 0 t) := by
  rw [spotsFrom_break rfl, skip]
  simp [isBreak]

def Stale (keys : List (Option KeyPlace)) (l : Nat) : Prop :=
  keys = [none] ∨ ∃ k, keys = [some k] ∧ k.required = false ∧ k.line < l

theorem Stale.length_eq (h : Stale keys l) : keys.length = 1 := by
  rcases h with rfl | ⟨k, rfl, -, -⟩ <;> rfl

theorem Stale.forgetKeys_eq (h : Stale keys (line s)) (ka : Bool) :
    (state s ts i is keys ka).forgetKeys = .ok (state s ts i is [none] ka) := by
  rcases h with rfl | ⟨k, rfl, hrequired, hline⟩
  · rfl
  · simp [forgetKeys, state, hline, hrequired]
    rfl

theorem settle_eq {ka' : Bool} (hskip : skip false ka false s = (s', ka'))
    (hkeys : Stale keys (line s')) :
    (state s ts i is keys ka).settle = .ok ((state s' ts i is [none] ka').unroll (column s')) := by
  have hflow : (state s ts i is keys ka).inFlow = false := by
    simp [inFlow, state, hkeys.length_eq]
  have hforget : (state s' ts i is keys ka').forgetKeys = .ok (state s' ts i is [none] ka') :=
    hkeys.forgetKeys_eq ka'
  rw [settle, hflow]
  simp only [state] at hskip hforget ⊢
  rw [hskip]
  simp only [hforget]
  rfl

theorem settle_spaces (hkeys : Stale keys l) (ht : BeginsWord t) (k : Nat) :
    (state (spotsFrom l col (List.replicate k ' ' ++ t)) ts i is keys ka).settle =
      .ok ((state (spotsFrom l (col + k) t) ts i is [none] ka).unroll ↑(col + k)) := by
  have hskip : skip false ka false (spotsFrom l col (List.replicate k ' ' ++ t)) =
      (spotsFrom l (col + k) t, ka) := by
    rw [skip_spaces, skip_word ht]
  rw [settle_eq hskip (by rwa [line_spotsFrom]), column_spotsFrom]

theorem settle_word (hkeys : Stale keys l) (ht : BeginsWord t) (k : Nat) :
    (state (spotsFrom l (col + k) t) ts i is keys ka).settle =
      (state (spotsFrom l col (List.replicate k ' ' ++ t)) ts i is [none] ka).settle := by
  rw [settle_spaces (.inl rfl) ht]
  exact settle_spaces hkeys ht 0

theorem settle_break (hkeys : Stale keys (l + 1)) (ht : BeginsWord t) (k : Nat) :
    (state (spotsFrom l col ('\n' :: (List.replicate k ' ' ++ t))) ts i is keys ka).settle =
      (ready (spotsFrom (l + 1) 0 (List.replicate k ' ' ++ t)) ts i is).settle := by
  have hskip : skip false ka false (spotsFrom l col ('\n' :: (List.replicate k ' ' ++ t))) =
      (spotsFrom (l + 1) (0 + k) t, true) := by
    rw [skip_break, skip_spaces, skip_word ht]
  rw [settle_eq hskip (by rwa [line_spotsFrom]), ready, settle_spaces (.inl rfl) ht,
    column_spotsFrom]

theorem unroll_of_le (h : i ≤ n) (place : Option KeyPlace) (ka : Bool) :
    (state s ts i is [place] ka).unroll n = state s ts i is [place] ka := by
  cases is with
  | nil => rfl
  | cons o is => simp [unroll, state, inFlow, endBlocks, Int.not_lt.mpr h]

theorem unroll_of_lt (h : (n : Int) < i) (ka : Bool) :
    (state s ts i (o :: is) [none] ka).unroll n =
      (state s (ts ++ [.blockEnd]) o is [none] ka).unroll n := by
  simp [unroll, state, inFlow, endBlocks, h]

theorem Yields.blockEnd (h : (ready (spotsFrom l 0 rest) (ts ++ [.blockEnd]) o is).Yields out)
    (hrest : Resumes n rest) (hi : (n : Int) < i) :
    (ready (spotsFrom l 0 rest) ts i (o :: is)).Yields out := by
  obtain ⟨k, more, rfl, hk, hmore⟩ := hrest
  refine h.congr ?_ (Nat.le_refl _)
  rw [ready, ready, settle_spaces (.inl rfl) hmore, settle_spaces (.inl rfl) hmore,
    unroll_of_lt (by omega)]

theorem settle_congr {ka' : Bool} (h : skip false ka false s = skip false ka' false s') :
    (state s ts i is [none] ka).settle = (state s' ts i is [none] ka').settle := by
  simp only [settle, state, inFlow, List.length_singleton, Nat.lt_irrefl, decide_false, h]

theorem Yields.spaces (h : (state (spotsFrom l (col + k) t) ts i is [none] ka).Yields out) :
    (state (spotsFrom l col (List.replicate k ' ' ++ t)) ts i is [none] ka).Yields out :=
  h.congr (settle_congr (skip_spaces false ka k t)) (by simp [state])

theorem Yields.break (h : (ready (spotsFrom (l + 1) 0 rest) ts i is).Yields out) (ka : Bool) :
    (state (spotsFrom l col ('\n' :: rest)) ts i is [none] ka).Yields out :=
  h.congr (settle_congr (skip_break ka rest)) (by simp [ready, state])

structure Settled (x : Lexer) : Prop where
  skip_eq : skip x.inFlow x.keyAllowed false x.spots = (x.spots, x.keyAllowed)
  forgetKeys_eq : x.forgetKeys = .ok x
  unroll_eq : x.unroll (column x.spots) = x

theorem isMarker_of_first_ne {d : Char} (h : first s = c) (hne : d ≠ c) : isMarker d s = false := by
  cases s with
  | nil => simp [isMarker]
  | cons p s =>
    have hp : p.char = c := h
    simp [isMarker, hp, hne.symm]

def readSign (x : Lexer) : Char → Except Malformed Lexer
  | '[' => x.openFlow .flowSeqStart
  | ']' => x.closeFlow .flowSeqEnd
  | '\x7b' => x.openFlow .flowMapStart
  | '\x7d' => x.closeFlow .flowMapEnd
  | '\'' => x.quoted '\''
  | '"' => x.quoted '"'
  | _ => .error .badToken

namespace Settled

variable (h : x.Settled)
include h

theorem next_entry (hc : first x.spots = '-') (hend : isWhiteOrEnd (second x.spots) = true)
    (hmarker : isMarker '-' x.spots = false) (hy : x.entry = .ok y) : x.next = .ok (y, true) := by
  have hdot : isMarker '.' x.spots = false := isMarker_of_first_ne hc (by decide)
  simp only [next, h.skip_eq, h.forgetKeys_eq, bind, Except.bind, h.unroll_eq]
  simp [hc, hmarker, hdot, endMark, hend, hy]
  rfl

theorem next_value (hc : first x.spots = ':') (hend : isWhiteOrEnd (second x.spots) = true)
    (hy : x.value = .ok y) : x.next = .ok (y, true) := by
  have hdash : isMarker '-' x.spots = false := isMarker_of_first_ne hc (by decide)
  have hdot : isMarker '.' x.spots = false := isMarker_of_first_ne hc (by decide)
  simp only [next, h.skip_eq, h.forgetKeys_eq, bind, Except.bind, h.unroll_eq]
  simp [hc, hdash, hdot, endMark, hend, hy]
  rfl

theorem next_block (hc : first x.spots = '|') (hflow : x.inFlow = false)
    (hy : x.block true = .ok y) : x.next = .ok (y, true) := by
  have hdash : isMarker '-' x.spots = false := isMarker_of_first_ne hc (by decide)
  have hdot : isMarker '.' x.spots = false := isMarker_of_first_ne hc (by decide)
  simp only [next, h.skip_eq, h.forgetKeys_eq, bind, Except.bind, h.unroll_eq]
  simp [hc, hdash, hdot, endMark, hflow, hy]
  rfl

theorem next_sign (hy : x.readSign (first x.spots) = .ok y) : x.next = .ok (y, true) := by
  simp only [next, h.skip_eq, h.forgetKeys_eq, bind, Except.bind, h.unroll_eq]
  generalize hc : first x.spots = c at hy
  unfold readSign at hy
  split at hy
  case h_7 => cases hy
  all_goals
    have hdash : isMarker '-' x.spots = false := isMarker_of_first_ne hc (by decide)
    have hdot : isMarker '.' x.spots = false := isMarker_of_first_ne hc (by decide)
    simp [hdash, hdot, endMark, hy]
    rfl

theorem next_plain (hflow : x.inFlow = false) (hend : first x.spots ≠ endMark)
    (hwhite : isWhite (first x.spots) = false)
    (hsign : leadingSigns.contains (first x.spots) = false)
    (hword : ['?', ':', '-'].contains (first x.spots) = true →
      isWhiteOrEnd (second x.spots) = false)
    (hdash : isMarker '-' x.spots = false) (hdot : isMarker '.' x.spots = false)
    (hy : x.plain = .ok y) : x.next = .ok (y, true) := by
  simp only [next, h.skip_eq, h.forgetKeys_eq, bind, Except.bind, h.unroll_eq]
  generalize first x.spots = c at *
  simp only [leadingSigns, List.contains_cons, List.contains_nil, Bool.or_false,
    Bool.or_eq_false_iff, Bool.or_eq_true, beq_eq_false_iff_ne, beq_iff_eq] at hsign hword
  simp only [hdash, hdot, hflow, hend, hsign, if_false, decide_false, Bool.false_and, Bool.false_or,
    Bool.false_eq_true, Bool.not_false, Bool.true_and, Bool.or_self]
  by_cases hc : c = '?' ∨ c = ':' ∨ c = '-'
  · have hended := hword hc
    have hgap : isGap (second x.spots) = false := by
      rw [isWhiteOrEnd, isWhite, Bool.or_assoc, Bool.or_eq_false_iff] at hended
      exact hended.1
    rcases hc with rfl | rfl | rfl
    all_goals
      simp [hended, hgap, hy]
      rfl
  · rw [not_or, not_or] at hc
    have hsigns : signs.contains c = false := by
      simp [signs, hsign, hc]
    simp only [hc, decide_false, Bool.false_and, Bool.false_eq_true, if_false, hwhite, hsigns, hy]
    rfl

end Settled

def Kept (place : Option KeyPlace) (l col : Nat) : Prop :=
  ∀ p ∈ place, l ≤ p.line ∧ col ≤ p.column + maxKeySize

theorem forgetKeys_eq (h : ∀ place ∈ keys, Kept place (line s) (column s)) :
    (state s ts i is keys ka).forgetKeys = .ok (state s ts i is keys ka) := by
  simp only [forgetKeys, state]
  rw [mapM_eq_ok_iff.mpr (List.forall₂_same.mpr fun place hmem => ?_)]
  · rfl
  · cases place with
    | none => rfl
    | some p =>
      obtain ⟨hline, hcol⟩ := h _ hmem p rfl
      simp only [Nat.not_lt.mpr hline, Nat.not_lt.mpr hcol, decide_false, Bool.or_false,
        Bool.false_eq_true, if_false]
      rfl

theorem kept_none : Kept none l col := fun _ h => nomatch h

theorem settled (ht : BeginsWord t) (hi : i ≤ col) (hplace : Kept place l col) (ts : List Token)
    (is : List Int) (ka : Bool) :
    (state (spotsFrom l col t) ts i is [place] ka).Settled where
  skip_eq := skip_word ht _ _
  forgetKeys_eq := forgetKeys_eq (by simpa using hplace)
  unroll_eq := unroll_of_le (by rwa [state, column_spotsFrom]) place ka

theorem settled_flow (ht : BeginsWord t) (hplace : Kept place l col) :
    (state (spotsFrom l col t) ts i is [none, place] ka).Settled where
  skip_eq := skip_word ht _ _
  forgetKeys_eq := forgetKeys_eq (by simpa [Kept] using hplace)
  unroll_eq := rfl

def begun (ka : Bool) (l col : Nat) (ts : List Token) (i : Int) : Option KeyPlace :=
  if ka then some ⟨ts.length, l, col, i == col⟩ else none

theorem saveKey_eq : (state (spotsFrom l col t) ts i is [none] ka).saveKey =
    .ok (state (spotsFrom l col t) ts i is [begun ka l col ts i] ka) := by
  cases ka
  · rfl
  · simp [saveKey, state, begun, removeKey, inFlow, bind, Except.bind]
    rfl

theorem kept_begun (h : n ≤ maxKeySize) : Kept (begun ka l col ts i) l (col + n) := by
  intro p hp
  cases ka with
  | false => cases hp
  | true =>
    cases hp
    exact ⟨Nat.le_refl l, Nat.add_le_add_left h col⟩

theorem stale_begun (hi : i < col) (hl : l < n) : Stale [begun ka l col ts i] n := by
  cases ka with
  | false => exact .inl rfl
  | true => exact .inr ⟨_, rfl, by simp; omega, hl⟩

end Refit.Yaml.Lexer
