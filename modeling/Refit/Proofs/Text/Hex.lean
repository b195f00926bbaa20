import Mathlib.Data.List.Basic
import Refit.Text.Basic

namespace Refit

variable {f : Char → Char} {u : Text} {width n : Nat}

def KeepsDigits (f : Char → Char) : Prop := ∀ d < 16, hexDigit? (f d.digitChar) = some d

instance : Decidable (KeepsDigits f) := inferInstanceAs (Decidable (∀ d < 16, _))

theorem keepsDigits_id : KeepsDigits id := by decide

theorem keepsDigits_toUpper : KeepsDigits Char.toUpper := by decide

theorem ofHex?_concat (u : Text) (c : Char) :
    ofHex? (u ++ [c]) = (ofHex? u).bind fun n => (hexDigit? c).map fun d => n * 16 + d := by
  rw [ofHex?, List.foldlM_append]
  simp [ofHex?]

theorem ofHex?_toDigits (hf : KeepsDigits f) (n : Nat) :
    ofHex? ((Nat.toDigits 16 n).map f) = some n := by
  induction n using Nat.strongRecOn with
  | ind n ih =>
    rw [Nat.toDigits_eq_if (by decide)]
    split
    · next hn => simp [ofHex?, hf n hn]
    · rw [List.map_append, List.map_singleton, ofHex?_concat, ih (n / 16) (by omega),
        hf (n % 16) (Nat.mod_lt n (by decide))]
      exact congrArg some (Nat.div_add_mod' n 16)

theorem ofHex?_replicate_append (hf : KeepsDigits f) (k : Nat) (u : Text) :
    ofHex? ((List.replicate k '0').map f ++ u) = ofHex? u := by
  have hzero : hexDigit? (f '0') = some 0 := hf 0 (by decide)
  induction k with
  | zero => rfl
  | succ k ih =>
    rw [← ih, List.replicate_succ, List.map_cons, List.cons_append, ofHex?, List.foldlM_cons, hzero]
    rfl

theorem ofHex?_ofHex (hf : KeepsDigits f) (width n : Nat) :
    ofHex? ((Text.ofHex width n).map f) = some n := by
  rw [Text.ofHex, List.map_append, ofHex?_replicate_append hf, ofHex?_toDigits hf]

theorem length_ofHex (hwidth : 0 < width) (hn : n < Nat.pow 16 width) :
    (Text.ofHex width n).length = width := by
  have hle := (Nat.length_toDigits_le_iff (by decide) hwidth).mpr hn
  rw [Text.ofHex, List.length_append, List.length_replicate]
  omega

theorem exists_digit_of_mem_toDigits {n : Nat} {c : Char} (h : c ∈ Nat.toDigits 16 n) :
    ∃ d < 16, c = d.digitChar := by
  induction n using Nat.strongRecOn with
  | ind n ih =>
    rw [Nat.toDigits_eq_if (by decide)] at h
    split at h
    · next hn => exact ⟨n, hn, List.mem_singleton.mp h⟩
    · rcases List.mem_append.mp h with h | h
      · exact ih (n / 16) (by omega) h
      · exact ⟨n % 16, Nat.mod_lt n (by decide), List.mem_singleton.mp h⟩

theorem exists_digit_of_mem_ofHex {width n : Nat} {c : Char} (h : c ∈ Text.ofHex width n) :
    ∃ d < 16, c = d.digitChar := by
  rcases List.mem_append.mp h with h | h
  · exact ⟨0, by decide, List.eq_of_mem_replicate h⟩
  · exact exists_digit_of_mem_toDigits h

theorem charOfCode?_toNat (c : Char) : charOfCode? c.toNat = some c := by
  exact (if_pos c.valid).trans (congrArg some (Char.ofNat_toNat c))

end Refit
