import Refit.Proofs.Yaml.Block
import Refit.Proofs.Yaml.Lexer
import Refit.Proofs.Yaml.Plain
import Refit.Proofs.Yaml.Quoted

namespace Refit.Yaml.Lexer

variable {x : Lexer} {out ts : List Token} {s : List Spot} {t u rest more : Text} {c : Char}
  {l col k n m : Nat} {i : Int} {is : List Int} {ka broken : Bool} {keys : List (Option KeyPlace)}
  {place : Option KeyPlace}

theorem next_plain (h : IsPlain t) (hi : i ≤ col)
    (hmarker : col = 0 → t.head? ≠ some '-' ∧ t.head? ≠ some '.')
    (hread : readPlain false (i + 1) {} (spotsFrom l (col + t.length) u) = .ok ([], broken, s))
    (ts : List Token) (is : List Int) (ka : Bool) :
    (state (spotsFrom l col (t ++ u)) ts i is [none] ka).next =
      .ok (state s (ts ++ [.scalar t true]) i is [begun ka l col ts i] broken, true) := by
  have hsettled := settled (l := l) (h.beginsWord u) hi kept_none ts is ka
  have hplain : readPlain false (i + 1) {} (spotsFrom l col (t ++ u)) =
      .ok (Gap.text {} ++ t ++ [], broken, s) :=
    readPlain_append h.ne_nil h.inline h.last h.holds rfl (by omega) (by simp [Gap.isEmpty]) hread
  rw [List.append_nil] at hplain
  obtain ⟨c, t, rfl⟩ := List.exists_cons_of_ne_nil h.ne_nil
  obtain ⟨hprintable, hcbreak⟩ := h.inline c List.mem_cons_self
  obtain ⟨hsign, hword⟩ := h.leading
  -- Three dashes or points mark a document, but only where a line begins.
  have hmark (d : Char) (hd : d = '-' ∨ d = '.') :
      isMarker d (spotsFrom l col (c :: t ++ u)) = false := by
    by_cases hcol : col = 0
    · obtain ⟨hdash, hdot⟩ := hmarker hcol
      refine isMarker_of_first_ne first_spotsFrom ?_
      rcases hd with rfl | rfl
      · simpa [eq_comm] using hdash
      · simpa [eq_comm] using hdot
    · exact isMarker_eq_false hcol d _
  refine hsettled.next_plain rfl ?_ ?_ ?_ ?_ (hmark '-' (.inl rfl)) (hmark '.' (.inr rfl)) ?_
  · exact first_spotsFrom.trans_ne (ne_endMark hprintable)
  · exact (congrArg isWhite first_spotsFrom).trans h.head
  · exact (congrArg leadingSigns.contains first_spotsFrom).trans hsign
  · intro hc
    have hends := hword (by simpa [state] using hc)
    show isWhiteOrEnd (second (spotsFrom l col (c :: (t ++ u)))) = false
    rw [second_spotsFrom hcbreak]
    cases t with
    | nil => cases hends
    | cons d t => exact hends
  · simp only [plain, saveKey_eq, bind, Except.bind]
    simp only [state, inFlow, List.length_singleton, Nat.lt_irrefl, decide_false]
    rw [hplain]
    simp [Gap.text, emit, pure, Except.pure]

theorem next_quoted {q : Char} (hq : q = '\'' ∨ q = '"') (hi : i ≤ col)
    (hread : readQuoted q {} 0 (spotsFrom l (col + 1) u) = .ok (t, s)) (ts : List Token)
    (is : List Int) (ka : Bool) :
    (state (spotsFrom l col (q :: u)) ts i is [none] ka).next =
      .ok (state s (ts ++ [.scalar t false]) i is [begun ka l col ts i] false, true) := by
  have hbegins : BeginsWord (q :: u) :=
    beginsWord_cons (by rcases hq with rfl | rfl <;> decide) u
  have hbreak := isBreak_of_isWhite (hbegins q rfl).1
  refine (settled hbegins hi kept_none ts is ka).next_sign ?_
  have hquoted : (state (spotsFrom l col (q :: u)) ts i is [none] ka).quoted q =
      .ok (state s (ts ++ [.scalar t false]) i is [begun ka l col ts i] false) := by
    simp only [quoted, saveKey_eq, bind, Except.bind]
    simp only [state, spotsFrom_cons hbreak, List.drop_one, List.tail_cons]
    rw [hread]
    simp [emit, pure, Except.pure]
  rcases hq with rfl | rfl <;> simpa [readSign, state] using hquoted

theorem next_block (hi : i ≤ col)
    (hread : readBlock true i (spotsFrom l (col + 1) u) = .ok (t, s)) (ts : List Token)
    (is : List Int) (ka : Bool) :
    (state (spotsFrom l col ('|' :: u)) ts i is [none] ka).next =
      .ok (ready s (ts ++ [.scalar t false]) i is, true) := by
  have hbegins := beginsWord_cons (c := '|') (by decide) u
  refine (settled hbegins hi kept_none ts is ka).next_block ?_ rfl ?_
  · exact first_spotsFrom
  · simp only [block, removeKey, state, bind, Except.bind, spotsFrom_cons (c := '|') rfl,
      List.drop_one, List.tail_cons]
    rw [hread]
    simp [emit, pure, Except.pure, ready, state]

theorem Yields.step_word
    (h : (ready (spotsFrom l 0 (List.replicate k ' ' ++ more)) ts i is).Yields out)
    (hnext : x.next = .ok (state (spotsFrom l k more) ts i is keys true, true))
    (hkeys : Stale keys l) (hmore : BeginsWord more)
    (hlength : (List.replicate k ' ' ++ more).length + 1 < x.spots.length) : x.Yields out := by
  have hword : (state (spotsFrom l (0 + k) more) ts i is keys true).settle =
      (state (spotsFrom l 0 (List.replicate k ' ' ++ more)) ts i is [none] true).settle :=
    settle_word hkeys hmore k
  rw [Nat.zero_add] at hword
  exact h.step hnext hword (by rwa [ready, state, length_spotsFrom])

theorem Yields.step_break (h : (ready (spotsFrom (l + 1) 0 rest) ts i is).Yields out)
    (hnext : x.next = .ok (state (spotsFrom l col ('\n' :: rest)) ts i is keys ka, true))
    (hkeys : Stale keys (l + 1)) (hrest : Resumes n rest)
    (hlength : rest.length + 1 < x.spots.length) : x.Yields out := by
  obtain ⟨k, more, rfl, -, hmore⟩ := hrest
  exact h.step hnext (settle_break hkeys hmore k) (by rwa [ready, state, length_spotsFrom])

section Lines

variable (hrest : Resumes m rest) (hcol : m < col)
include hrest hcol

theorem Yields.plain (ht : IsPlain t)
    (h : ∀ l, (ready (spotsFrom l 0 rest) (ts ++ [.scalar t true]) m is).Yields out) :
    (state (spotsFrom l col (t ++ '\n' :: rest)) ts m is [none] ka).Yields out := by
  have hi : (m : Int) < col := Int.ofNat_lt.mpr hcol
  obtain ⟨k, more, rfl, hk, hmore⟩ := hrest
  have hread := readPlain_break hk hmore l (col + t.length)
  have hnext := next_plain ht (Int.le_of_lt hi) (by omega) hread ts is ka
  refine (h (l + 1)).step_word hnext (stale_begun hi (Nat.lt_succ_self l)) hmore ?_
  simp only [state, length_spotsFrom, List.length_append, List.length_cons]
  omega

theorem Yields.singleQuoted (hline : '\n' ∉ t) (hquotes : Style.allowsSingleQuotes t = true)
    (h : ∀ l, (ready (spotsFrom l 0 rest) (ts ++ [.scalar t false]) m is).Yields out) :
    (state (spotsFrom l col (singleQuoted (m + 2) t ++ '\n' :: rest)) ts m is [none]
      ka).Yields out := by
  have hi : (m : Int) < col := Int.ofNat_lt.mpr hcol
  simp only [Style.allowsSingleQuotes, Bool.and_eq_true, List.all_eq_true,
    Bool.not_eq_true'] at hquotes
  obtain ⟨⟨hprintable, hspace⟩, hbreak⟩ := hquotes
  have hsingle : ReadsSingle (m + 2) ('\n' :: rest) t :=
    readsSingle (Nat.succ_ne_zero (m + 1)) hprintable hline hspace hbreak (by simp)
  obtain ⟨l', col', hl, hread⟩ := hsingle {} l (col + 1) (Gap.before_empty t) fun _ =>
    Nat.succ_ne_zero col
  have hnext := next_quoted (.inl rfl) (Int.le_of_lt hi) hread ts is ka
  refine (h (l' + 1)).step_break hnext (stale_begun hi (Nat.lt_succ_of_le hl)) hrest ?_
  simp only [state, length_spotsFrom, List.length_append, List.length_cons]
  omega

theorem Yields.doubleQuoted
    (h : ∀ l, (ready (spotsFrom l 0 rest) (ts ++ [.scalar t false]) m is).Yields out) :
    (state (spotsFrom l col (doubleQuoted t ++ '\n' :: rest)) ts m is [none] ka).Yields out := by
  have hi : (m : Int) < col := Int.ofNat_lt.mpr hcol
  have hread : readQuoted '"' {} 0
      (spotsFrom l (col + 1) (t.flatMap escape ++ '"' :: '\n' :: rest)) =
        .ok (t, spotsFrom l (col + 1 + (t.flatMap escape).length + 1) ('\n' :: rest)) :=
    readQuoted_double rfl (Nat.succ_ne_zero col) t ('\n' :: rest)
  have hnext := next_quoted (.inr rfl) (Int.le_of_lt hi) hread ts is ka
  have hline : Yaml.doubleQuoted t ++ '\n' :: rest =
      '"' :: (t.flatMap escape ++ '"' :: '\n' :: rest) := by
    simp [Yaml.doubleQuoted]
  rw [hline]
  refine (h (l + 1)).step_break hnext (stale_begun hi (Nat.lt_succ_self l)) hrest ?_
  simp only [state, length_spotsFrom, List.length_append, List.length_cons]
  omega

theorem Yields.literal (hne : t ≠ []) (hprintable : ∀ c ∈ t, isPrintable c = true)
    (h : ∀ l, (ready (spotsFrom l 0 rest) (ts ++ [.scalar t false]) m is).Yields out) :
    (state (spotsFrom l col ('|' :: (blockHints t ++ '\n' ::
      (indentLines (m + 2) false (ended t) ++ rest)))) ts m is [none] ka).Yields out := by
  have hi : (m : Int) < col := Int.ofNat_lt.mpr hcol
  obtain ⟨k, more, rfl, hk, hmore⟩ := hrest
  obtain ⟨l', hl, hread⟩ := exists_readBlock hne hprintable hk hmore l (col + 1)
  have hnext := next_block (Int.le_of_lt hi) hread ts is ka
  refine (h l').step_word hnext (.inl rfl) hmore ?_
  simp only [state, length_spotsFrom, List.length_append, List.length_cons]
  omega

theorem Yields.scalar (h : ∀ l, (ready (spotsFrom l 0 rest)
      (ts ++ [.scalar t (Style.ofText t = .plain)]) m is).Yields out) :
    (state (spotsFrom l col (scalarLine (m + 2) t ++ rest)) ts m is [none] ka).Yields out := by
  unfold scalarLine
  cases hstyle : Style.ofText t with
  | plain =>
    simp only [hstyle, decide_true] at h
    rw [List.append_assoc]
    exact Yields.plain hrest hcol (isPlain_of_style hstyle) h
  | singleQuoted =>
    obtain ⟨hline, hquotes⟩ := Style.suits_of_eq hstyle
    simp only [hstyle, reduceCtorEq, decide_false] at h
    rw [List.append_assoc]
    exact Yields.singleQuoted hrest hcol hline hquotes h
  | doubleQuoted =>
    simp only [hstyle, reduceCtorEq, decide_false] at h
    rw [List.append_assoc]
    exact Yields.doubleQuoted hrest hcol h
  | literal =>
    obtain ⟨hne, hprintable⟩ := literal_of_style hstyle
    have hlines : '|' :: blockHints t ++ '\n' :: indentLines (m + 2) false t ++
        (if t.getLast?.any isBreak then [] else ['\n']) ++ rest =
          '|' :: (blockHints t ++ '\n' :: (indentLines (m + 2) false (ended t) ++ rest)) := by
      rw [ended]
      split <;> simp [indentLines_ended]
    simp only [hstyle, reduceCtorEq, decide_false] at h
    rw [hlines]
    exact Yields.literal hrest hcol hne hprintable h

end Lines

theorem Yields.brackets {a b : Char} {start stop : Token}
    (h : (ready (spotsFrom (l + 1) 0 rest) (ts ++ [start, stop]) m is).Yields out)
    (ha : BeginsWord (a :: b :: '\n' :: rest)) (hb : BeginsWord (b :: '\n' :: rest))
    (hopen : ∀ x : Lexer, x.readSign a = x.openFlow start)
    (hclose : ∀ x : Lexer, x.readSign b = x.closeFlow stop) (hrest : Resumes m rest)
    (hcol : m < col) :
    (state (spotsFrom l col (a :: b :: '\n' :: rest)) ts m is [none] ka).Yields out := by
  have hi : (m : Int) < col := Int.ofNat_lt.mpr hcol
  have habreak := isBreak_of_isWhite (ha a rfl).1
  have hbbreak := isBreak_of_isWhite (hb b rfl).1
  have hnext : (state (spotsFrom l col (a :: b :: '\n' :: rest)) ts m is [none] ka).next =
      .ok (state (spotsFrom l (col + 1) (b :: '\n' :: rest)) (ts ++ [start]) m is
        [none, begun ka l col ts m] true, true) := by
    refine (settled ha (Int.le_of_lt hi) kept_none ts is ka).next_sign ?_
    rw [state, first_spotsFrom, ← state]
    refine (hopen _).trans ?_
    simp only [openFlow, saveKey_eq, bind, Except.bind]
    simp [state, drop, emit, spotsFrom_cons habreak, pure, Except.pure]
  have hnext' : (state (spotsFrom l (col + 1) (b :: '\n' :: rest)) (ts ++ [start]) m is
      [none, begun ka l col ts m] true).next =
      .ok (state (spotsFrom l (col + 2) ('\n' :: rest)) (ts ++ [start, stop]) m is
        [begun ka l col ts m] false, true) := by
    refine (settled_flow hb (kept_begun (by decide))).next_sign ?_
    rw [state, first_spotsFrom, ← state]
    refine (hclose _).trans ?_
    simp [closeFlow, removeKey, inFlow, bind, Except.bind, state, drop, emit,
      spotsFrom_cons hbbreak, pure, Except.pure]
  have hstop := h.step_break hnext' (stale_begun hi (Nat.lt_succ_self l)) hrest (by simp [state])
  exact hstop.step hnext rfl (by simp [state])

def opened (start : Token) (m : Nat) (i : Int) (ts : List Token) : List Token :=
  if i < m then ts ++ [start] else ts

def around (m : Nat) (i : Int) (is : List Int) : List Int := if i < m then i :: is else is

@[simp] theorem opened_self (start : Token) : opened start m m ts = ts :=
  if_neg (Int.lt_irrefl m)

@[simp] theorem around_self : around m m is = is := if_neg (Int.lt_irrefl m)

theorem roll_eq (hi : i ≤ m) (start : Token) (u : List Token) :
    (state s (ts ++ u) i is [place] ka).roll m ts.length start =
      state s (opened start m i ts ++ u) m (around m i is) [place] ka := by
  rcases Int.lt_or_eq_of_le hi with h | rfl
  · simp [roll, state, inFlow, opened, around, h, Int.not_le.mpr h, insert]
  · simp [roll, state, inFlow]

theorem entry_eq (hi : i ≤ column s) (ts : List Token) (is : List Int) : (ready s ts i is).entry =
    .ok (ready (s.drop 1) (opened .seqStart (column s) i ts ++ [.entry]) (column s)
      (around (column s) i is)) := by
  have hroll : (state s (ts ++ []) i is [none] true).roll (column s) ts.length .seqStart =
      state s (opened .seqStart (column s) i ts ++ []) (column s) (around (column s) i is) [none]
        true :=
    roll_eq hi .seqStart []
  rw [List.append_nil, List.append_nil] at hroll
  have hsize : (ready s ts i is).tokens.size = ts.length := List.size_toArray
  rw [Lexer.entry, blockSign, hsize, ready]
  simp only [state] at hroll
  simp [state, inFlow, removeKey, bind, Except.bind, drop, emit, pure, Except.pure, ready, hroll]

theorem value_eq (hi : i ≤ m) (s : List Spot) (ts u : List Token) (is : List Int) (l : Nat)
    (required ka : Bool) :
    (state s (ts ++ u) i is [some ⟨ts.length, l, m, required⟩] ka).value =
      .ok (state (s.drop 1) (opened .mapStart m i ts ++ .key :: u ++ [.value]) m (around m i is)
        [none] false) := by
  have hinsert : (state s (ts ++ u) i is [some ⟨ts.length, l, m, required⟩] ka).insert ts.length
      .key = state s (ts ++ .key :: u) i is [some ⟨ts.length, l, m, required⟩] ka := by
    simp [insert, state]
  have hroll : (state s (ts ++ .key :: u) i is [some ⟨ts.length, l, m, required⟩] ka).roll m
      ts.length .mapStart = state s (opened .mapStart m i ts ++ .key :: u) m (around m i is)
        [some ⟨ts.length, l, m, required⟩] ka :=
    roll_eq hi .mapStart (.key :: u)
  simp only [state] at hinsert hroll
  simp [value, state, hinsert, hroll, drop, emit, pure, Except.pure]

theorem Yields.entry
    (h : (ready (spotsFrom l (m + 1) (c :: t)) (opened .seqStart m i ts ++ [.entry]) m
      (around m i is)).Yields out)
    (hc : isWhite c = true) (hi : i ≤ m) :
    (ready (spotsFrom l m ('-' :: c :: t)) ts i is).Yields out := by
  have hbegins := beginsWord_cons (c := '-') (by decide) (c :: t)
  have hended : isWhiteOrEnd (second (spotsFrom l m ('-' :: c :: t))) = true := by
    rw [second_spotsFrom rfl]
    exact isWhiteOrEnd_of_isWhite hc
  have hmark : isMarker '-' (spotsFrom l m ('-' :: c :: t)) = false := by
    have hne : c ≠ '-' := by
      rintro rfl
      cases hc
    rw [spotsFrom_cons rfl, spotsFrom]
    simp [isMarker, hne]
  have hcol : column (spotsFrom l m ('-' :: c :: t)) = m := column_spotsFrom
  have hentry := entry_eq (hcol ▸ hi) ts is
  rw [drop_one_spotsFrom rfl, hcol] at hentry
  have hsettled := settled (l := l) hbegins hi kept_none ts is true
  have hnext := hsettled.next_entry first_spotsFrom hended hmark hentry
  exact h.step hnext rfl (by simp [ready, state])

theorem Yields.key
    (h : (state (spotsFrom l (m + t.length + 1) (c :: u))
      (opened .mapStart m i ts ++ [.key, .scalar t true, .value]) m (around m i is) [none]
      false).Yields out)
    (ht : IsPlain t) (hmarker : t.head? ≠ some '-' ∧ t.head? ≠ some '.')
    (hlength : t.length ≤ maxKeySize) (hc : isWhite c = true) (hi : i ≤ m) :
    (ready (spotsFrom l m (t ++ ':' :: c :: u)) ts i is).Yields out := by
  have hword := next_plain (l := l) ht hi (fun _ => hmarker) (readPlain_colon hc u) ts is true
  have hbegins := beginsWord_cons (c := ':') (by decide) (c :: u)
  have hended : isWhiteOrEnd (second (spotsFrom l (m + t.length) (':' :: c :: u))) = true := by
    rw [second_spotsFrom rfl]
    exact isWhiteOrEnd_of_isWhite hc
  have hvalue := value_eq hi (spotsFrom l (m + t.length) (':' :: c :: u)) ts [.scalar t true] is l
    (i == m) false
  rw [drop_one_spotsFrom rfl, List.append_assoc] at hvalue
  have hkept : Kept (begun true l m ts i) l (m + t.length) := kept_begun hlength
  have hsettled := settled hbegins (show i ≤ ↑(m + t.length) by omega) hkept
    (ts ++ [.scalar t true]) is false
  have hcolon := hsettled.next_value first_spotsFrom hended hvalue
  refine Yields.step (h.step hcolon rfl ?_) hword rfl ?_
  · simp [state]
  · have hpos := List.length_pos_iff.mpr ht.ne_nil
    simp only [ready, state, length_spotsFrom, List.length_append]
    omega

theorem yields_end (l : Nat) (ts : List Token) :
    (ready (spotsFrom l 0 []) ts 0 [-1]).Yields (ts ++ [.blockEnd]) := by
  simp [Yields, ready, state, spotsFrom, all, next, skip, endMark, isBreak, inFlow, forgetKeys,
    bind, Except.bind, pure, Except.pure, unroll, endBlocks, column, first, removeKey]

end Refit.Yaml.Lexer
