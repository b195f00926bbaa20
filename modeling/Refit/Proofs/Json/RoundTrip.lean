import Refit.Json
import Refit.Json.Reader
import Refit.Proofs.Text.Hex

namespace Refit.Json

variable {j item : Json} {items : List Json} {fields : List (Option Text × Json)} {c e : Char}
  {t u ws rest : Text} {level outer n : Nat}

theorem readCodes_escaped (h : escaped? e = some c) (t : Text) : readCodes ('\\' :: e :: t) =
    (readCodes t).map fun (codes, behind) => (c.toNat :: codes, behind) := by
  have hu : e ≠ 'u' := by
    rintro rfl
    cases h
  rw [readCodes, h]
  · cases readCodes t <;> rfl
  · exact fun _ _ _ _ _ he => absurd he hu

theorem readCodes_plain (hquote : c ≠ '"') (hbackslash : c ≠ '\\') (hlow : ¬ c.toNat < 0x20)
    (t : Text) : readCodes (c :: t) =
      (readCodes t).map fun (codes, behind) => (c.toNat :: codes, behind) := by
  rw [readCodes, if_neg (by simp [hlow, hbackslash])]
  · cases readCodes t <;> rfl
  · exact fun h => absurd h hquote
  · exact fun _ _ _ _ _ h => absurd h hbackslash
  · exact fun _ _ h => absurd h hbackslash

theorem readCodes_coded (h : c.toNat < 0x20) (t : Text) :
    readCodes (['\\', 'u'] ++ Text.ofHex 4 c.toNat ++ t) =
      (readCodes t).map fun (codes, behind) => (c.toNat :: codes, behind) := by
  have hlen : (Text.ofHex 4 c.toNat).length = 4 :=
    length_ofHex (by decide) (Nat.lt_trans h (by decide))
  have hcode := ofHex?_ofHex keepsDigits_id 4 c.toNat
  rw [List.map_id] at hcode
  obtain ⟨a₁, a₂, a₃, a₄, hdigits⟩ := List.length_eq_four.mp hlen
  rw [hdigits] at hcode ⊢
  simp only [List.cons_append, List.nil_append, readCodes, hcode]
  cases readCodes t <;> rfl

theorem readCodes_escape (c : Char) (t : Text) : readCodes (escape c ++ t) =
    (readCodes t).map fun (codes, behind) => (c.toNat :: codes, behind) := by
  unfold escape
  split
  case h_8 hquote hbackslash _ _ _ _ _ =>
    split
    · next hlow => exact readCodes_coded hlow t
    · next hlow => exact readCodes_plain hquote hbackslash hlow t
  all_goals exact readCodes_escaped rfl t

theorem readCodes_quote (t rest : Text) :
    readCodes (t.flatMap escape ++ '"' :: rest) = some (t.map Char.toNat, rest) := by
  induction t with
  | nil => rfl
  | cons c t ih =>
    rw [List.flatMap_cons, List.append_assoc, readCodes_escape, ih]
    rfl

theorem decode?_map_toNat (t : Text) : decode? (t.map Char.toNat) = some t := by
  induction t with
  | nil => rfl
  | cons c t ih =>
    cases t with
    | nil => simp [decode?, charOfCode?_toNat]
    | cons d t =>
      -- No character is half of a pair.
      have hhalf : ¬ (0xD800 ≤ c.toNat ∧ c.toNat < 0xDC00) := by
        have hvalid : c.toNat < 0xD800 ∨ 0xDFFF < c.toNat ∧ c.toNat < 0x110000 := c.valid
        omega
      rw [List.map_cons, List.map_cons, decode?, if_neg (by simp; omega), ← List.map_cons, ih,
        charOfCode?_toNat]
      rfl

theorem readText_quote (t rest : Text) :
    readText (t.flatMap escape ++ '"' :: rest) = some (some t, rest) := by
  rw [readText, readCodes_quote]
  exact congrArg (fun t => some (t, rest)) (decode?_map_toNat t)

inductive Textual : Json → Prop
  | null : Textual null
  | bool (b : Bool) : Textual (bool b)
  | text (t : Text) : Textual (text t)
  | list {items : List Json} : (∀ item ∈ items, Textual item) → Textual (list items)
  | record {fields : List (Option Text × Json)} : (∀ f ∈ fields, f.1.isSome = true) →
      (∀ f ∈ fields, Textual f.2) → Textual (record fields)

def Spaces (t : Text) : Prop := ∀ c ∈ t, isSpace c = true

theorem spaces_indentation (level : Nat) : Spaces (indentation level) := by
  intro c hc
  rcases List.mem_cons.mp hc with rfl | hc
  · rfl
  · rw [(List.mem_replicate.mp hc).2]
    rfl

theorem skip_append (hws : Spaces ws) (hc : isSpace c = false) (t : Text) :
    skip (ws ++ c :: t) = c :: t := by
  rw [skip, List.dropWhile_append_of_pos hws, List.dropWhile_cons_of_neg (by simp [hc])]

theorem skip_indentation (hc : isSpace c = false) (level : Nat) (t : Text) :
    skip (indentation level ++ c :: t) = c :: t :=
  skip_append (spaces_indentation level) hc t

def ReadsBack (j : Json) : Prop := ∀ level ws rest n, Spaces ws →
  2 * (ws ++ j.print level ++ rest).length ≤ n →
  readValue n (ws ++ j.print level ++ rest) = some (j, rest)

theorem exists_print (h : j.Textual) (level : Nat) : ∃ c t, j.print level = c :: t ∧
    isSpace c = false ∧ c ≠ ']' := by
  cases h with
  | null => exact ⟨_, _, rfl, rfl, by decide⟩
  | bool b => cases b <;> exact ⟨_, _, rfl, rfl, by decide⟩
  | text t => exact ⟨_, _, rfl, rfl, by decide⟩
  | @list items _ => cases items <;> exact ⟨_, _, rfl, rfl, by decide⟩
  | @record fields _ _ => cases fields <;> exact ⟨_, _, rfl, rfl, by decide⟩

def closing (level : Nat) (c : Char) (rest : Text) : Text := indentation level ++ c :: rest

section Steps

variable {v w x : Text} {value : Json} {key : Option Text}

theorem readItems_more (hitem : readValue n t = some (item, u)) (hu : skip u = ',' :: rest) :
    readItems (n + 1) t =
      (readItems n rest).map fun (items, behind) => (item :: items, behind) := by
  simp only [readItems, hitem, Option.bind_eq_bind, Option.bind_some, hu]
  cases readItems n rest <;> rfl

theorem readItems_last (hitem : readValue n t = some (item, u)) (hu : skip u = ']' :: rest) :
    readItems (n + 1) t = some ([item], rest) := by
  simp only [readItems, hitem, Option.bind_eq_bind, Option.bind_some, hu]
  rfl

theorem readFields_more (ht : skip t = '"' :: u) (hkey : readText u = some (key, v))
    (hv : skip v = ':' :: w) (hvalue : readValue n w = some (value, x))
    (hx : skip x = ',' :: rest) : readFields (n + 1) t =
      (readFields n rest).map fun (fields, behind) => ((key, value) :: fields, behind) := by
  simp only [readFields, ht, hkey, hv, hvalue, hx, Option.bind_eq_bind, Option.bind_some]
  cases readFields n rest <;> rfl

theorem readFields_last (ht : skip t = '"' :: u) (hkey : readText u = some (key, v))
    (hv : skip v = ':' :: w) (hvalue : readValue n w = some (value, x))
    (hx : skip x = '\x7d' :: rest) : readFields (n + 1) t = some ([(key, value)], rest) := by
  simp only [readFields, ht, hkey, hv, hvalue, hx, Option.bind_eq_bind, Option.bind_some]
  rfl

end Steps

theorem readItems_print (h : ∀ j ∈ item :: items, j.ReadsBack) (hws : Spaces ws)
    (hn : 2 * (ws ++ item.print level ++ (printItems level items ++ closing outer ']' rest)).length
      < n) :
    readItems n (ws ++ item.print level ++ (printItems level items ++ closing outer ']' rest)) =
      some (item :: items, rest) := by
  induction items generalizing item ws n with
  | nil =>
    cases n with
    | zero => cases hn
    | succ n =>
      have hitem := h item List.mem_cons_self level ws _ n hws (Nat.le_of_lt_succ hn)
      exact readItems_last hitem (skip_indentation rfl outer rest)
  | cons next items ih =>
    cases n with
    | zero => cases hn
    | succ n =>
      have hitem := h item List.mem_cons_self level ws _ n hws (Nat.le_of_lt_succ hn)
      have hnext := ih (fun j hj => h j (List.mem_cons_of_mem item hj)) (n := n)
        (spaces_indentation level) (by
          simp only [printItems, List.length_append, List.length_cons] at hn ⊢
          omega)
      have hcomma : skip (printItems level (next :: items) ++ closing outer ']' rest) =
          ',' :: (indentation level ++ next.print level ++
            (printItems level items ++ closing outer ']' rest)) := by
        simp [printItems, skip, isSpace]
      rw [readItems_more hitem hcomma, hnext]
      rfl

theorem skip_quote (hws : Spaces ws) (key t : Text) :
    skip (ws ++ quote key ++ t) = '"' :: (key.flatMap escape ++ '"' :: t) := by
  rw [quote, List.append_assoc, List.cons_append, List.cons_append, skip_append hws rfl,
    List.append_assoc, List.singleton_append]

theorem readFields_print {key : Text} {value : Json} (h : value.ReadsBack)
    (hfields : ∀ f ∈ fields, f.1.isSome = true ∧ f.2.ReadsBack) (hws : Spaces ws)
    (hn : 2 * (ws ++ quote key ++ ([':', ' '] ++ value.print level ++
      (printFields level fields ++ closing outer '\x7d' rest))).length < n) :
    readFields n (ws ++ quote key ++ ([':', ' '] ++ value.print level ++
      (printFields level fields ++ closing outer '\x7d' rest))) =
      some ((some key, value) :: fields, rest) := by
  induction fields generalizing key value ws n with
  | nil =>
    cases n with
    | zero => cases hn
    | succ n =>
      have hvalue := h level [' '] (printFields level [] ++ closing outer '\x7d' rest) n
        (List.forall_mem_singleton.mpr rfl) (by
          simp only [List.length_append, List.length_cons] at hn ⊢
          omega)
      exact readFields_last (skip_quote hws key _) (readText_quote key _) rfl hvalue
        (skip_indentation rfl outer rest)
  | cons f fields ih =>
    obtain ⟨⟨hkey, hnext⟩, htail⟩ := List.forall_mem_cons.mp hfields
    obtain ⟨k, next⟩ := f
    obtain ⟨k, rfl⟩ := Option.isSome_iff_exists.mp hkey
    cases n with
    | zero => cases hn
    | succ n =>
      have hvalue := h level [' '] (printFields level ((some k, next) :: fields) ++
        closing outer '\x7d' rest) n (List.forall_mem_singleton.mpr rfl) (by
          simp only [List.length_append, List.length_cons] at hn ⊢
          omega)
      have hmore : readFields n (indentation level ++ quote k ++ ([':', ' '] ++ next.print level ++
          (printFields level fields ++ closing outer '\x7d' rest))) =
            some ((some k, next) :: fields, rest) := by
        refine ih hnext htail (spaces_indentation level) ?_
        simp only [printFields, List.length_append, List.length_cons, Option.getD_some] at hn ⊢
        omega
      have hcomma : skip (printFields level ((some k, next) :: fields) ++
          closing outer '\x7d' rest) = ',' :: (indentation level ++ quote k ++
            ([':', ' '] ++ next.print level ++
              (printFields level fields ++ closing outer '\x7d' rest))) := by
        simp [printFields, skip, isSpace]
      rw [readFields_more (skip_quote hws key _) (readText_quote key _) rfl hvalue hcomma, hmore]
      rfl

theorem readValue_list (ht : skip t = '[' :: u) (hu : skip u = c :: v) (hc : c ≠ ']')
    (h : readItems n u = some (items, rest)) : readValue (n + 1) t = some (list items, rest) := by
  simp only [readValue, ht, hu, h]
  split
  · next heq => exact absurd (List.cons.inj heq).1 hc
  · rfl

theorem readValue_record (ht : skip t = '\x7b' :: u) (hu : skip u = c :: v) (hc : c ≠ '\x7d')
    (h : readFields n u = some (fields, rest)) :
    readValue (n + 1) t = some (record fields, rest) := by
  simp only [readValue, ht, hu, h]
  split
  · next heq => exact absurd (List.cons.inj heq).1 hc
  · rfl

theorem skip_print (h : j.Textual) (hws : Spaces ws) :
    skip (ws ++ j.print level ++ rest) = j.print level ++ rest := by
  obtain ⟨c, t, hprint, hc, -⟩ := exists_print h level
  rw [hprint, List.append_assoc, List.cons_append, skip_append hws hc]

theorem readsBack_of_skip (hj : j.Textual) (h : ∀ level rest n t, skip t = j.print level ++ rest →
    2 * (j.print level ++ rest).length ≤ n + 1 → readValue (n + 1) t = some (j, rest)) :
    j.ReadsBack := by
  intro level ws rest n hws hn
  obtain ⟨c, t, hprint, -, -⟩ := exists_print hj level
  cases n with
  | zero => simp [hprint] at hn
  | succ n =>
    refine h level rest n _ (skip_print hj hws) ?_
    simp only [List.length_append] at hn ⊢
    omega

theorem readValue_text {s : Text} (ht : skip t = quote s ++ rest) :
    readValue (n + 1) t = some (text s, rest) := by
  have hquote : quote s ++ rest = '"' :: (s.flatMap escape ++ '"' :: rest) := by simp [quote]
  simp only [readValue, ht, hquote, readText_quote]
  rfl

theorem readsBack_list (h : ∀ j ∈ item :: items, j.Textual)
    (ih : ∀ j ∈ item :: items, j.ReadsBack) : (list (item :: items)).ReadsBack := by
  refine readsBack_of_skip (.list h) fun level rest n t ht hn => ?_
  obtain ⟨c, u, hprint, hc, hbracket⟩ := exists_print (h item List.mem_cons_self) (level + 1)
  have hopen : (list (item :: items)).print level ++ rest =
      '[' :: (indentation (level + 1) ++ item.print (level + 1) ++
        (printItems (level + 1) items ++ closing level ']' rest)) := by
    simp [print, closing]
  rw [hopen] at ht hn
  have hitem : skip (indentation (level + 1) ++ item.print (level + 1) ++
      (printItems (level + 1) items ++ closing level ']' rest)) =
      c :: (u ++ (printItems (level + 1) items ++ closing level ']' rest)) := by
    rw [hprint, List.append_assoc, List.cons_append, skip_indentation hc]
  exact readValue_list ht hitem hbracket
    (readItems_print ih (spaces_indentation (level + 1)) (by
      simp only [List.length_cons] at hn ⊢
      omega))

theorem readsBack_record {key : Text} {value : Json} (hvalue : value.Textual)
    (hfields : ∀ f ∈ fields, f.1.isSome = true) (h : ∀ f ∈ fields, f.2.Textual)
    (ihvalue : value.ReadsBack) (ih : ∀ f ∈ fields, f.2.ReadsBack) :
    (record ((some key, value) :: fields)).ReadsBack := by
  have hrecord : (record ((some key, value) :: fields)).Textual :=
    .record (List.forall_mem_cons.mpr ⟨rfl, hfields⟩) (List.forall_mem_cons.mpr ⟨hvalue, h⟩)
  refine readsBack_of_skip hrecord fun level rest n t ht hn => ?_
  have hopen : (record ((some key, value) :: fields)).print level ++ rest =
      '\x7b' :: (indentation (level + 1) ++ quote key ++ ([':', ' '] ++ value.print (level + 1) ++
        (printFields (level + 1) fields ++ closing level '\x7d' rest))) := by
    simp [print, closing]
  rw [hopen] at ht hn
  exact readValue_record ht (skip_quote (spaces_indentation (level + 1)) key _) (by decide)
    (readFields_print ihvalue (fun f hf => ⟨hfields f hf, ih f hf⟩)
      (spaces_indentation (level + 1)) (by
        simp only [List.length_cons] at hn ⊢
        omega))

theorem readsBack (h : j.Textual) : j.ReadsBack := by
  induction h with
  | null =>
    refine readsBack_of_skip .null fun level rest n t ht hn => ?_
    simp only [readValue, ht]
    rfl
  | bool b =>
    refine readsBack_of_skip (.bool b) fun level rest n t ht hn => ?_
    cases b <;> simp only [readValue, ht] <;> rfl
  | text s => exact readsBack_of_skip (.text s) fun level rest n t ht hn => readValue_text ht
  | @list items h ih =>
    cases items with
    | nil =>
      refine readsBack_of_skip (.list h) fun level rest n t ht hn => ?_
      simp only [readValue, ht]
      rfl
    | cons item items => exact readsBack_list h ih
  | @record fields hkeys h ih =>
    cases fields with
    | nil =>
      refine readsBack_of_skip (.record hkeys h) fun level rest n t ht hn => ?_
      simp only [readValue, ht]
      rfl
    | cons f fields =>
      obtain ⟨hkey, hfurther⟩ := List.forall_mem_cons.mp hkeys
      obtain ⟨key, hsome⟩ := Option.isSome_iff_exists.mp hkey
      obtain ⟨hvalue, hvalues⟩ := List.forall_mem_cons.mp h
      obtain ⟨ihvalue, ihvalues⟩ := List.forall_mem_cons.mp ih
      rw [← Prod.eta f, hsome]
      exact readsBack_record hvalue hfurther hvalues ihvalue ihvalues

/-- Every value of texts, truth values, lists and records is read back from its print. -/
theorem parse?_print (h : j.Textual) : parse? (j.print 0) = some j := by
  have hread := readsBack h 0 [] [] (2 * (j.print 0).length + 2) (by simp [Spaces]) (by simp)
  rw [List.nil_append, List.append_nil] at hread
  rw [parse?, hread]
  rfl

end Refit.Json
