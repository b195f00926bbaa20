import Refit.Proofs.Call.Nesting
import Refit.Proofs.Call.Taking
import Refit.Proofs.Text.Split

namespace Refit

namespace Text

variable {u v : Text}

@[simp] theorem size_nil : size [] = 0 := rfl

@[simp] theorem size_cons (c : Char) (u : Text) : size (c :: u) = c.utf8Size + size u := rfl

@[simp] theorem size_append (u v : Text) : size (u ++ v) = size u + size v := by
  induction u with
  | nil => simp
  | cons c u ih => simp [ih, Nat.add_assoc]

def takeSize? : Nat → Text → Option Text
  | 0, _ => some []
  | _ + 1, [] => none
  | n + 1, c :: rest =>
    if c.utf8Size ≤ n + 1 then (takeSize? (n + 1 - c.utf8Size) rest).map (c :: ·) else none

theorem takeSize?_append (u v : Text) : takeSize? u.size (u ++ v) = some u := by
  induction u with
  | nil => cases v <;> rfl
  | cons c u ih =>
    obtain ⟨n, hn⟩ : ∃ n, size (c :: u) = n + 1 :=
      ⟨_, (Nat.sub_add_cancel (Nat.le_add_right_of_le c.utf8Size_pos)).symm⟩
    have hsize : n + 1 = c.utf8Size + size u := hn.symm
    rw [hn, List.cons_append, takeSize?, if_pos (by omega), hsize, Nat.add_sub_cancel_left, ih]
    rfl

end Text

def Token.Stands (tok : Token) (o : Option Char) (t : Text) (_ : Unit) : Prop :=
  ∃ behind, t = tok.literal ++ behind ∧ tok.fits o behind.head? = true

theorem Token.finder_finds (tok : Token) :
    tok.finder.Finds (fun _ => tok.literal) tok.Stands := by
  intro o t n a
  rw [Token.finder]
  by_cases h : tok.occursAt o t = true
  · have hstands : tok.Stands o t a := Token.occursAt_iff.mp h
    simp [h, hstands, eq_comm]
  · have hstands : ¬ tok.Stands o t a := fun hstands => h (Token.occursAt_iff.mpr hstands)
    simp [h, hstands]

namespace Call

variable {m : Token} {o : Option Char} {t : Text} {call : Call}

/-- A call whose arguments hold no parentheses stands at the beginning of a text. -/
def StandsFlat (m : Token) (o : Option Char) (t : Text) (call : Call) : Prop :=
  ∃ blanks rest, IsFlat m blanks call ∧ t = call.text ++ rest ∧
    m.fits o (blanks ++ ['(']).head? = true

def StandsNested (m : Token) (o : Option Char) (t : Text) (call : Call) : Prop :=
  ∃ blanks rest, IsNested m blanks call ∧ t = call.text ++ rest ∧
    m.fits o (blanks ++ ['(']).head? = true

theorem flat_finds (m : Token) : (flat m).Finds text (StandsFlat m) := fun _ _ _ _ =>
  flat_eq_some_iff

theorem nested_finds (m : Token) : (nested m).Finds text (StandsNested m) := fun _ _ _ _ =>
  nested_eq_some_iff

/-- What stands before the arguments of a call, reckoned from the sizes of the call and of its
arguments. -/
def headOf? (whole arguments : Text) : Option Text :=
  if arguments.size + 1 ≤ whole.size then
    Text.takeSize? (whole.size - arguments.size - 1) whole
  else none

theorem headOf?_text (call : Call) : headOf? call.text call.arguments = some call.head := by
  have hsize : call.text.size = call.head.size + (call.arguments.size + 1) := by
    simp [text]
    rfl
  have hhead : call.text.size - call.arguments.size - 1 = call.head.size := by omega
  rw [headOf?, if_pos (by omega), hhead, text, List.append_assoc, Text.takeSize?_append]

end Call

end Refit
