import Refit.Proofs.Call.Recognition

namespace Refit.Call

open Text (behind_or_before behind_or_within here_or_later)

variable {m : Token} {before : Option Char} {t u v w x y args rest inner : Text} {call : Call}
  {c : Char} {n : Nat}

structure Bare (u : Text) : Prop where
  opens : '(' ∉ u
  closes : ')' ∉ u

namespace Bare

theorem nil : Bare [] := ⟨List.not_mem_nil, List.not_mem_nil⟩

theorem append (hu : Bare u) (hv : Bare v) : Bare (u ++ v) :=
  ⟨List.not_mem_append hu.opens hv.opens, List.not_mem_append hu.closes hv.closes⟩

theorem of_append (h : Bare (u ++ v)) : Bare u ∧ Bare v := by
  obtain ⟨ho, hc⟩ := h
  simp only [List.mem_append, not_or] at ho hc
  exact ⟨⟨ho.1, hc.1⟩, ho.2, hc.2⟩

theorem of_blank (h : ∀ c ∈ u, isBlank c = true) : Bare u := by
  constructor
  · intro hc
    exact absurd (h _ hc) (by decide)
  · intro hc
    exact absurd (h _ hc) (by decide)

end Bare

theorem bare_or_exists (t : Text) :
    Bare t ∨ ∃ u c rest, Bare u ∧ t = u ++ c :: rest ∧ (c = '(' ∨ c = ')') := by
  induction t with
  | nil => exact .inl .nil
  | cons d t ih =>
    by_cases hd : d = '(' ∨ d = ')'
    · exact .inr ⟨[], d, t, .nil, rfl, hd⟩
    · have hbare : Bare [d] := by
        rw [not_or] at hd
        exact ⟨by simpa using Ne.symm hd.1, by simpa using Ne.symm hd.2⟩
      rcases ih with h | ⟨u, c, rest, hu, rfl, hc⟩
      · exact .inl (hbare.append h)
      · exact .inr ⟨d :: u, c, rest, hbare.append hu, rfl, hc⟩

theorem nestedArguments?_bare (hu : Bare u) (inside : Bool) (t : Text) :
    nestedArguments? inside (u ++ t) = (nestedArguments? inside t).map (u ++ ·) := by
  induction u with
  | nil => simp
  | cons c u ih =>
    have hbare : Bare [c] ∧ Bare u := hu.of_append
    have ho : c ≠ '(' := by simpa [eq_comm] using hbare.1.opens
    have hc : c ≠ ')' := by simpa [eq_comm] using hbare.1.closes
    rw [List.cons_append, nestedArguments?, if_neg hc, if_neg ho, ih hbare.2, Option.map_map]
    rfl

@[simp] theorem nestedArguments?_eq_none_of_bare (hu : Bare u) (inside : Bool) :
    nestedArguments? inside u = none := by
  simpa [nestedArguments?] using nestedArguments?_bare hu inside []

/-- Arguments with parentheses at most one deep: groups without further parentheses, and bare texts
between them. -/
inductive OneDeep : Text → Prop
  | bare {u : Text} : Bare u → OneDeep u
  | group {u v args : Text} :
      Bare u → Bare v → OneDeep args → OneDeep (u ++ '(' :: (v ++ ')' :: args))

theorem OneDeep.read (h : OneDeep args) (rest : Text) :
    nestedArguments? false (args ++ ')' :: rest) = some args := by
  induction h with
  | bare hu => simp [nestedArguments?_bare hu, nestedArguments?]
  | group hu hv _ ih =>
    simp [nestedArguments?_bare hu, nestedArguments?, nestedArguments?_bare hv, ih]

theorem oneDeep_of_read (h : nestedArguments? false t = some args) : OneDeep args := by
  induction hn : t.length using Nat.strongRecOn generalizing t args with
  | ind n ih =>
    rcases bare_or_exists t with hbare | ⟨u, c, rest, hu, rfl, hc⟩
    · simp [hbare] at h
    · rw [nestedArguments?_bare hu] at h
      rcases hc with rfl | rfl
      · rcases bare_or_exists rest with hbare | ⟨v, d, rest, hv, rfl, hd⟩
        · simp [nestedArguments?, hbare] at h
        · rcases hd with rfl | rfl
          · simp [nestedArguments?, nestedArguments?_bare hv] at h
          · obtain ⟨args', hread, rfl⟩ : ∃ a, nestedArguments? false rest = some a ∧
                u ++ '(' :: (v ++ ')' :: a) = args := by
              simpa [nestedArguments?, nestedArguments?_bare hv] using h
            exact .group hu hv (ih rest.length (by simp at hn; omega) hread rfl)
      · obtain rfl : u = args := by simpa [nestedArguments?] using h
        exact .bare hu

theorem nestedArguments?_eq_some_iff :
    nestedArguments? false t = some args ↔ OneDeep args ∧ ∃ rest, t = args ++ ')' :: rest := by
  constructor
  · intro h
    exact ⟨oneDeep_of_read h, exists_of_nestedArguments? h⟩
  · rintro ⟨h, rest, rfl⟩
    exact h.read rest

namespace OneDeep

theorem of_append_bare (h : OneDeep (args ++ v)) (hv : Bare v) : OneDeep args := by
  generalize ht : args ++ v = t at h
  induction h generalizing args with
  | bare ht' =>
    subst ht
    exact .bare ht'.of_append.1
  | @group u w args' hu hw _ ih =>
    have hparts : args ++ v ++ [] = (u ++ '(' :: w) ++ ')' :: args' := by simpa using ht
    rcases behind_or_before hv.closes hparts with ⟨r, -, hr⟩ | ⟨r, rfl, hr⟩
    · simp at hr
    · simpa using OneDeep.group hu hw (ih (by simpa using hr.symm))

theorem of_bare_append (h : OneDeep (u ++ args)) (hu : Bare u) : OneDeep args := by
  generalize ht : u ++ args = t at h
  cases h with
  | bare ht' =>
    subst ht
    exact .bare ht'.of_append.2
  | @group v w args' hv hw hargs =>
    rcases behind_or_before (x := []) hu.opens ht with ⟨r, rfl, rfl⟩ | ⟨r, hr, -⟩
    · exact .group hv.of_append.2 hw hargs
    · simp at hr

theorem not_read_inside (h : OneDeep args) (ho : '(' ∈ args) (rest : Text) :
    nestedArguments? true (args ++ rest) = none := by
  cases h with
  | bare hu => exact absurd ho hu.opens
  | group hu hv _ => simp [nestedArguments?_bare hu, nestedArguments?]

theorem bare_of_not_mem (h : OneDeep args) (ho : '(' ∉ args) : Bare args := by
  cases h with
  | bare hu => exact hu
  | group => exact absurd (by simp) ho

end OneDeep

theorem read_inside (hu : Bare u) (rest : Text) : nestedArguments? true (u ++ ')' :: rest) =
    (nestedArguments? false rest).map (u ++ ')' :: ·) := by
  rw [nestedArguments?_bare hu]
  simp [nestedArguments?, Function.comp_def]

theorem isSome_nestedArguments?_cons {inside : Bool} (c : Char)
    (h : ∀ inside, (nestedArguments? inside u).isSome → (nestedArguments? inside t).isSome) :
    (nestedArguments? inside (c :: u)).isSome → (nestedArguments? inside (c :: t)).isSome := by
  simp only [nestedArguments?]
  split
  · split
    · simpa using h false
    · exact id
  · split
    · split
      · exact id
      · simpa using h true
    · simpa using h inside

def Closed (t : Text) : Prop := ∀ x inner, t = x ++ '(' :: inner →
  ∃ args, nestedArguments? false inner = some args

theorem nestedArguments?_append (h : nestedArguments? false t = some args) (rest : Text) :
    nestedArguments? false (t ++ rest) = some args := by
  obtain ⟨hargs, behind, rfl⟩ := nestedArguments?_eq_some_iff.mp h
  exact nestedArguments?_eq_some_iff.mpr ⟨hargs, behind ++ rest, by simp⟩

namespace Closed

theorem of_append (h : Closed (u ++ v)) : Closed v := by
  rintro x inner rfl
  exact h (u ++ x) inner (by simp)

theorem of_oneDeep (h : OneDeep args) : Closed args := by
  induction h with
  | bare hu =>
    rintro x inner rfl
    exact absurd (by simp) hu.opens
  | @group u v args hu hv _ ih =>
    intro x inner ht
    rcases here_or_later hu.opens ht with ⟨-, rfl⟩ | ⟨r, -, hr⟩
    · exact ⟨v, (OneDeep.bare hv).read args⟩
    · have hclose : '(' ∉ v ++ [')'] := by simpa using hv.opens
      have hparts : [] ++ (v ++ [')']) ++ args = r ++ '(' :: inner := by simpa using hr
      rcases behind_or_before hclose hparts with ⟨s, -, hs⟩ | ⟨s, hs, -⟩
      · exact ih s inner hs
      · simp at hs

theorem of_group (hu : Bare u) (h : OneDeep args) (hv : Bare v) :
    Closed (u ++ '(' :: (args ++ ')' :: v)) := by
  intro x inner ht
  rcases here_or_later hu.opens ht with ⟨-, rfl⟩ | ⟨r, -, hr⟩
  · exact ⟨args, h.read v⟩
  · have hclose : '(' ∉ ')' :: v := by simpa using hv.opens
    have hparts : args ++ ')' :: v ++ [] = r ++ '(' :: inner := by simpa using hr
    rcases behind_or_before hclose hparts with ⟨s, -, hs⟩ | ⟨s, rfl, rfl⟩
    · simp at hs
    · obtain ⟨found, hread⟩ := of_oneDeep h r s rfl
      exact ⟨found, by simpa using nestedArguments?_append hread (')' :: v)⟩

end Closed

structure IsNested (m : Token) (blanks : Text) (call : Call) : Prop extends
    Opens m blanks call where
  oneDeep : OneDeep call.arguments

theorem nested_eq_some_iff : nested m before t = some (n, call) ↔
    n = call.text.length ∧ ∃ blanks rest, IsNested m blanks call ∧ t = call.text ++ rest ∧
      m.fits before (blanks ++ ['(']).head? = true := by
  rw [nested, finder_eq_some_iff]
  constructor
  · rintro ⟨hn, blanks, inner, hopens, rfl, hargs, hfit⟩
    obtain ⟨hdeep, rest, rfl⟩ := nestedArguments?_eq_some_iff.mp hargs
    exact ⟨hn, blanks, rest, ⟨hopens, hdeep⟩, by simp [text], hfit⟩
  · rintro ⟨hn, blanks, rest, h, rfl, hfit⟩
    exact ⟨hn, blanks, call.arguments ++ ')' :: rest, h.toOpens, by simp [text],
      h.oneDeep.read rest, hfit⟩

theorem nested_congr {before' : Option Char} (h : before.any isWord = before'.any isWord)
    (t : Text) : nested m before t = nested m before' t := by
  apply Option.ext
  rintro ⟨n, call⟩
  rw [nested_eq_some_iff, nested_eq_some_iff]
  simp only [Token.fits_congr h rfl]

section Finding

variable (hm : Bare m.literal)
include hm

theorem Opens.bare {blanks : Text} (h : Opens m blanks call) : Bare (m.literal ++ blanks) :=
  hm.append (.of_blank h.blank)

theorem Opens.isSome_read {blanks : Text} (h : Opens m blanks call) (inside : Bool) (rest : Text) :
    (nestedArguments? inside (call.head ++ rest)).isSome ↔
      inside = false ∧ (nestedArguments? true rest).isSome := by
  rw [h.head_eq, List.append_assoc, nestedArguments?_bare (h.bare hm), Option.isSome_map]
  cases inside <;> simp [nestedArguments?]

theorem Opens.eq_head {blanks blanks' : Text} {call' : Call} (h : Opens m blanks call)
    (h' : Opens m blanks' call') (hk : u <:+ call'.head) (hne : u ≠ [])
    (ht : call.head ++ rest = u ++ inner) : u = call.head ∧ inner = rest := by
  obtain ⟨z, hz⟩ := hk
  obtain ⟨k, rfl⟩ : ∃ k, u = k ++ ['('] := by
    have hlast : call'.head.getLast? = some '(' := by simp [h'.head_eq]
    rw [← hz, List.getLast?_append_of_ne_nil z hne] at hlast
    exact List.getLast?_eq_some_iff.mp hlast
  have hbare : Bare (z ++ k) := by
    have hz : (z ++ k) ++ ['('] = (m.literal ++ blanks') ++ ['('] := by
      simpa [h'.head_eq] using hz
    rw [(List.append_inj' hz rfl).1]
    exact h'.bare hm
  have hparts : (m.literal ++ blanks) ++ '(' :: rest = k ++ '(' :: inner := by
    simpa [h.head_eq] using ht
  rcases here_or_later (h.bare hm).opens hparts with ⟨hk, hinner⟩ | ⟨r, rfl, -⟩
  · exact ⟨by simp [h.head_eq, hk], hinner⟩
  · exact absurd (by simp) hbare.opens

theorem nested_append_close (h : Closed t) (rest : Text) :
    nested m before (t ++ ')' :: rest) = nested m before t := by
  apply Option.ext
  rintro ⟨n, call⟩
  rw [nested, finder_eq_some_iff, finder_eq_some_iff]
  refine and_congr_right fun _ => exists_congr fun blanks => ?_
  constructor
  · rintro ⟨inner, hopens, ht, hargs, hfit⟩
    have hclose : ')' ∉ call.head := by
      rw [hopens.head_eq]
      exact List.not_mem_append (hopens.bare hm).closes (by decide)
    rcases behind_or_within ht.symm with ⟨r, rfl, rfl⟩ | ⟨r, hr, hhead, hrest⟩
    · obtain ⟨found, hfound⟩ := h (m.literal ++ blanks) r (by simp [hopens.head_eq])
      rw [nestedArguments?_append hfound] at hargs
      exact ⟨r, hopens, rfl, hfound.trans hargs, hfit⟩
    · obtain ⟨d, r, rfl⟩ := List.exists_cons_of_ne_nil hr
      simp only [List.cons_append, List.cons.injEq] at hrest
      obtain ⟨rfl, -⟩ := hrest
      exact absurd (by simp [hhead]) hclose
  · rintro ⟨inner, hopens, rfl, hargs, hfit⟩
    exact ⟨inner ++ ')' :: rest, hopens, by simp, nestedArguments?_append hargs _, hfit⟩

theorem nested_close (before : Option Char) (rest : Text) :
    nested m before (')' :: rest) = none := by
  have hclosed : Closed [] := by
    intro x inner h
    simp at h
  refine (nested_append_close hm hclosed rest).trans ?_
  rw [Option.eq_none_iff_forall_ne_some]
  rintro ⟨n, call⟩ h
  obtain ⟨-, -, rest, -, ht, -⟩ := nested_eq_some_iff.mp h
  simp [text] at ht

theorem pieces_append_close (h : Closed t) (rest : Text) :
    Text.piecesFrom (nested m) before 0 (t ++ ')' :: rest) =
      Text.piecesFrom (nested m) before 0 t ++
        .gap ')' :: Text.piecesFrom (nested m) (some ')') 0 rest := by
  have hlocal : ∀ b x c y, t = x ++ c :: y →
      nested m b (c :: y ++ ')' :: rest) = nested m b (c :: y) := by
    rintro b x c y rfl
    exact nested_append_close hm h.of_append rest
  rw [Text.piecesFrom_append (nested_spells m) hlocal]
  refine congrArg _ ?_
  rw [Text.piecesFrom, nested_close hm]

end Finding

end Refit.Call
