import Refit.Call
import Refit.Proofs.Text.Trim
import Refit.Proofs.Token.Occurrence

namespace Refit.Call

variable {m : Token} {before : Option Char} {t rest args blanks : Text} {n : Nat} {call : Call}
  {inside : Bool} {arguments? : Text → Option Text}

theorem flatArguments?_eq_some_iff : flatArguments? t = some args ↔
    ∃ rest, t = args ++ ')' :: rest ∧ '(' ∉ args ∧ ')' ∉ args := by
  induction t generalizing args with
  | nil => simp [flatArguments?]
  | cons c t ih =>
    rw [flatArguments?]
    split
    · next hc =>
      subst hc
      constructor
      · intro h
        cases h
        exact ⟨t, rfl, by simp, by simp⟩
      · rintro ⟨rest, h, -, hclose⟩
        cases args with
        | nil => rfl
        | cons d args => simp_all
    · next hc =>
      split
      · next ho =>
        subst ho
        simp only [reduceCtorEq, false_iff, not_exists, not_and]
        intro rest h hopen
        cases args <;> simp_all
      · next ho =>
        rw [Option.map_eq_some_iff]
        constructor
        · rintro ⟨args, h, rfl⟩
          obtain ⟨rest, rfl, hopen, hclose⟩ := ih.mp h
          exact ⟨rest, rfl, by simp [Ne.symm ho, hopen], by simp [Ne.symm hc, hclose]⟩
        · rintro ⟨rest, h, hopen, hclose⟩
          cases args with
          | nil => simp_all
          | cons d args =>
            simp only [List.cons_append, List.cons.injEq] at h
            obtain ⟨rfl, rfl⟩ := h
            simp only [List.mem_cons, not_or] at hopen hclose
            exact ⟨args, ih.mpr ⟨rest, rfl, hopen.2, hclose.2⟩, rfl⟩

theorem exists_of_nestedArguments? (h : nestedArguments? inside t = some args) :
    ∃ rest, t = args ++ ')' :: rest := by
  induction t generalizing inside args with
  | nil => simp [nestedArguments?] at h
  | cons c t ih =>
    have hmap : ∀ i, (nestedArguments? i t).map (c :: ·) = some args →
        ∃ rest, c :: t = args ++ ')' :: rest := by
      intro i hi
      obtain ⟨inner, hinner, rfl⟩ := Option.map_eq_some_iff.mp hi
      obtain ⟨rest, rfl⟩ := ih hinner
      exact ⟨rest, rfl⟩
    rw [nestedArguments?] at h
    split at h
    · next hc =>
      split at h
      · exact hmap _ h
      · cases h
        exact ⟨t, congrArg (· :: t) hc⟩
    · split at h
      · split at h
        · cases h
        · exact hmap _ h
      · exact hmap _ h

structure Opens (m : Token) (blanks : Text) (call : Call) : Prop where
  head_eq : call.head = m.literal ++ blanks ++ ['(']
  blank : ∀ c ∈ blanks, isBlank c = true

theorem finder_eq_some_iff : finder m arguments? before t = some (n, call) ↔
    n = call.text.length ∧ ∃ blanks inner, Opens m blanks call ∧ t = call.head ++ inner ∧
      arguments? inner = some call.arguments ∧ m.fits before (blanks ++ ['(']).head? = true := by
  rw [finder]
  constructor
  · intro h
    split at h
    · next hm =>
      obtain ⟨behind, rfl, hfit⟩ := Token.occursAt_iff.mp hm
      simp only [List.drop_left] at h
      split at h
      · next inner htrim =>
        obtain ⟨args, hargs, hcall⟩ := Option.map_eq_some_iff.mp h
        simp only [Prod.mk.injEq] at hcall
        obtain ⟨rfl, rfl⟩ := hcall
        have hbehind : behind = Text.leadingBlanks behind ++ '(' :: inner := by
          rw [← htrim]
          exact (List.takeWhile_append_dropWhile).symm
        have hhead : behind.head? = (Text.leadingBlanks behind ++ ['(']).head? := by
          nth_rewrite 1 [hbehind]
          cases Text.leadingBlanks behind <;> rfl
        refine ⟨by simp [text]; omega, Text.leadingBlanks behind, inner, ⟨rfl, ?_⟩, ?_, hargs, ?_⟩
        · exact List.all_eq_true.mp List.all_takeWhile
        · simpa using hbehind
        · rwa [← hhead]
      · cases h
    · cases h
  · rintro ⟨rfl, blanks, inner, ⟨hhead, hblank⟩, rfl, hargs, hfit⟩
    have htrim : Text.trimStart (blanks ++ '(' :: inner) = '(' :: inner := by
      rw [Text.trimStart_append hblank]
      rfl
    have hlead : Text.leadingBlanks (blanks ++ '(' :: inner) = blanks := by
      rw [Text.leadingBlanks_append hblank]
      simpa using show Text.leadingBlanks ('(' :: inner) = [] from rfl
    have ht : call.head ++ inner = m.literal ++ (blanks ++ '(' :: inner) := by simp [hhead]
    have hm : m.occursAt before (call.head ++ inner) = true := by
      refine Token.occursAt_iff.mpr ⟨_, ht, ?_⟩
      cases blanks <;> exact hfit
    rw [if_pos hm, ht]
    simp only [List.drop_left, htrim, hlead, hargs, Option.map_some, Option.some.injEq,
      Prod.mk.injEq]
    obtain ⟨head, arguments⟩ := call
    obtain rfl : head = m.literal ++ blanks ++ ['('] := hhead
    exact ⟨by simp [text]; omega, rfl⟩

theorem finder_eq_none_of_heads {t' : Text} (h : finder m arguments? before t = none)
    (hheads : ∀ blanks call inner, Opens m blanks call → t' = call.head ++ inner →
      (arguments? inner).isSome → ∃ inner', t = call.head ++ inner' ∧ (arguments? inner').isSome) :
    finder m arguments? before t' = none := by
  by_contra hsome
  obtain ⟨⟨n, call⟩, hcall⟩ := Option.ne_none_iff_exists'.mp hsome
  obtain ⟨-, blanks, inner, hopens, hs, hargs, hfit⟩ := finder_eq_some_iff.mp hcall
  obtain ⟨inner', rfl, hinner⟩ := hheads blanks call inner hopens hs (by simp [hargs])
  obtain ⟨args, hargs⟩ := Option.isSome_iff_exists.mp hinner
  have hopens' : Opens m blanks ⟨call.head, args⟩ := ⟨hopens.head_eq, hopens.blank⟩
  have hfound : finder m arguments? before (call.head ++ inner') = some _ :=
    finder_eq_some_iff.mpr ⟨rfl, blanks, inner', hopens', rfl, hargs, hfit⟩
  rw [h] at hfound
  cases hfound

theorem finder_spells (h : ∀ t args, arguments? t = some args → ∃ rest, t = args ++ ')' :: rest) :
    (finder m arguments?).Spells text := by
  intro before t n call hf
  obtain ⟨rfl, blanks, inner, -, rfl, hargs, -⟩ := finder_eq_some_iff.mp hf
  obtain ⟨rest, rfl⟩ := h _ _ hargs
  exact ⟨by simp [text], rfl, rest, by simp [text]⟩

theorem flat_spells (m : Token) : (flat m).Spells text := by
  apply finder_spells
  intro t args h
  obtain ⟨rest, ht, -⟩ := flatArguments?_eq_some_iff.mp h
  exact ⟨rest, ht⟩

theorem nested_spells (m : Token) : (nested m).Spells text :=
  finder_spells fun _ _ => exists_of_nestedArguments?

end Refit.Call
