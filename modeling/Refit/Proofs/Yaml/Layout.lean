import Refit.Proofs.Yaml.Token
import Refit.Yaml.Printer

namespace Refit.Yaml.Layout

open Lexer

variable {v item : Layout} {items : List Layout} {fields : List (Text × Layout)} {key rest : Text}
  {out ts : List Token} {i : Int} {is : List Int} {m : Nat}

/-- A text that can be the key of a field: a short one that may be written plain and begins with no
sign that could mark the start or the end of a document. -/
structure IsKey (t : Text) : Prop where
  ne_nil : t ≠ []
  allowed : Style.allowsPlain t = true
  marker : t.head? ≠ some '-' ∧ t.head? ≠ some '.'
  length_le : t.length ≤ maxKeySize

instance (t : Text) : Decidable (IsKey t) :=
  decidable_of_iff (t ≠ [] ∧ Style.allowsPlain t = true ∧
      (t.head? ≠ some '-' ∧ t.head? ≠ some '.') ∧ t.length ≤ maxKeySize)
    ⟨fun ⟨hne, hallowed, hmarker, hlength⟩ => ⟨hne, hallowed, hmarker, hlength⟩,
      fun ⟨hne, hallowed, hmarker, hlength⟩ => ⟨hne, hallowed, hmarker, hlength⟩⟩

theorem IsKey.plain (h : IsKey key) : IsPlain key := isPlain h.ne_nil h.allowed

inductive Keyed : Layout → Prop
  | scalar (t : Text) : Keyed (scalar t)
  | list {items : List Layout} : (∀ v ∈ items, Keyed v) → Keyed (list items)
  | record {fields : List (Text × Layout)} : (∀ f ∈ fields, IsKey f.1) → (∀ f ∈ fields, Keyed f.2) →
      Keyed (record fields)

mutual

def tokens (inRecord : Bool) : Layout → List Token
  | scalar t => [.scalar t (Style.ofText t = .plain)]
  | list [] => [.flowSeqStart, .flowSeqEnd]
  | list items =>
    if inRecord then tokensOfItems items else .seqStart :: tokensOfItems items ++ [.blockEnd]
  | record [] => [.flowMapStart, .flowMapEnd]
  | record fields => .mapStart :: tokensOfFields fields ++ [.blockEnd]

def tokensOfItems : List Layout → List Token
  | [] => []
  | item :: items => .entry :: tokens false item ++ tokensOfItems items

def tokensOfFields : List (Text × Layout) → List Token
  | [] => []
  | (key, value) :: fields =>
    [.key, .scalar key true, .value] ++ tokens true value ++ tokensOfFields fields

end

structure Lexed (v : Layout) : Prop where
  item : ∀ {m rest out ts is}, Resumes m rest →
    (∀ l, (ready (spotsFrom l 0 rest) (ts ++ v.tokens false) m is).Yields out) →
    ∀ l, (ready (spotsFrom l (m + 1) (v.printItem m ++ rest)) ts m is).Yields out
  value : ∀ {m rest out ts is}, Resumes m rest →
    (∀ l, (ready (spotsFrom l 0 rest) (ts ++ v.tokens true) m is).Yields out) →
    ∀ {l col}, m < col →
      (state (spotsFrom l col (v.printValue m ++ rest)) ts m is [none] false).Yields out

theorem exists_printItem (v : Layout) (m : Nat) : ∃ t, v.printItem m = ' ' :: t := by
  rcases v with t | (_ | ⟨_, _⟩) | (_ | ⟨_, _⟩) <;> exact ⟨_, rfl⟩

theorem exists_printValue (v : Layout) (m : Nat) :
    ∃ c t, v.printValue m = c :: t ∧ isWhite c = true := by
  rcases v with t | (_ | ⟨_, _⟩) | (_ | ⟨_, _⟩) <;> exact ⟨_, _, rfl, rfl⟩

def printRest (m : Nat) (item : Layout) (items : List Layout) : Text :=
  '-' :: (item.printItem m ++ printItems m false items)

theorem printItems_false (m : Nat) (item : Layout) (items : List Layout) :
    printItems m false (item :: items) = List.replicate m ' ' ++ printRest m item items := by
  simp [printItems, printRest]

theorem resumes_printItems (hrest : Resumes m rest) (items : List Layout) :
    Resumes m (printItems m false items ++ rest) := by
  cases items with
  | nil => exact hrest
  | cons item items =>
    refine ⟨m, printRest m item items ++ rest, ?_, Nat.le_refl m, beginsWord_cons (by decide) _⟩
    rw [printItems_false, List.append_assoc]

theorem yields_item (h : Lexed item) (hrest : Resumes m rest) (hi : i ≤ m)
    (hy : ∀ l, (ready (spotsFrom l 0 rest)
      (opened .seqStart m i ts ++ .entry :: item.tokens false) m (around m i is)).Yields out)
    (l : Nat) : (ready (spotsFrom l m ('-' :: (item.printItem m ++ rest))) ts i is).Yields out := by
  have hitem : (ready (spotsFrom l (m + 1) (item.printItem m ++ rest))
      (opened .seqStart m i ts ++ [.entry]) m (around m i is)).Yields out :=
    h.item hrest (by simpa using hy) l
  obtain ⟨t, ht⟩ := exists_printItem item m
  rw [ht, List.cons_append] at hitem ⊢
  exact hitem.entry rfl hi

theorem yields_items (h : ∀ v ∈ items, Lexed v) (hrest : Resumes m rest)
    (hy : ∀ l, (ready (spotsFrom l 0 rest) (ts ++ tokensOfItems items) m is).Yields out) (l : Nat) :
    (ready (spotsFrom l 0 (printItems m false items ++ rest)) ts m is).Yields out := by
  induction items generalizing ts l with
  | nil => simpa [tokensOfItems, printItems] using hy l
  | cons item items ih =>
    obtain ⟨hitem, hitems⟩ := List.forall_mem_cons.mp h
    rw [printItems_false, printRest, List.append_assoc, List.cons_append, List.append_assoc]
    refine Yields.spaces ?_
    rw [Nat.zero_add]
    -- The list is open at this margin already, so the item adds no start.
    refine yields_item hitem (resumes_printItems hrest items) (Int.le_refl m) (fun l => ?_) l
    rw [opened_self, around_self]
    exact ih hitems (by simpa [tokensOfItems] using hy) l

theorem yields_list (h : ∀ v ∈ item :: items, Lexed v) (hrest : Resumes m rest) (hi : i < m)
    (hy : ∀ l, (ready (spotsFrom l 0 rest)
      (ts ++ .seqStart :: tokensOfItems (item :: items)) m (i :: is)).Yields out)
    (l : Nat) : (ready (spotsFrom l m (printRest m item items ++ rest)) ts i is).Yields out := by
  obtain ⟨hitem, hitems⟩ := List.forall_mem_cons.mp h
  rw [printRest, List.cons_append, List.append_assoc]
  refine yields_item hitem (resumes_printItems hrest items) (Int.le_of_lt hi) (fun l => ?_) l
  rw [opened, if_pos hi, around, if_pos hi]
  exact yields_items hitems hrest (by simpa [tokensOfItems] using hy) l

def printRestFields (m : Nat) (key : Text) (value : Layout) (fields : List (Text × Layout)) :
    Text :=
  key ++ ':' :: (value.printValue m ++ printFields m false fields)

theorem printFields_true (m : Nat) (key : Text) (value : Layout) (fields : List (Text × Layout)) :
    printFields m true ((key, value) :: fields) = printRestFields m key value fields := by
  simp [printFields, printRestFields]

theorem printFields_false (m : Nat) (key : Text) (value : Layout) (fields : List (Text × Layout)) :
    printFields m false ((key, value) :: fields) =
      List.replicate m ' ' ++ printRestFields m key value fields := by
  simp [printFields, printRestFields]

theorem resumes_printFields (h : ∀ f ∈ fields, IsKey f.1) (hrest : Resumes m rest) :
    Resumes m (printFields m false fields ++ rest) := by
  cases fields with
  | nil => exact hrest
  | cons f fields =>
    obtain ⟨key, value⟩ := f
    refine ⟨m, printRestFields m key value fields ++ rest, ?_, Nat.le_refl m, ?_⟩
    · rw [printFields_false, List.append_assoc]
    · rw [printRestFields, List.append_assoc]
      exact (h _ List.mem_cons_self).plain.beginsWord _

theorem yields_field (hkey : IsKey key) (h : Lexed v) (hrest : Resumes m rest) (hi : i ≤ m)
    (hy : ∀ l, (ready (spotsFrom l 0 rest)
      (opened .mapStart m i ts ++ ([.key, .scalar key true, .value] ++ v.tokens true)) m
        (around m i is)).Yields out)
    (l : Nat) :
    (ready (spotsFrom l m (key ++ ':' :: (v.printValue m ++ rest))) ts i is).Yields out := by
  have hvalue : (state (spotsFrom l (m + key.length + 1) (v.printValue m ++ rest))
      (opened .mapStart m i ts ++ [.key, .scalar key true, .value]) m (around m i is) [none]
      false).Yields out :=
    h.value hrest (by simpa using hy) (by omega)
  obtain ⟨c, t, ht, hc⟩ := exists_printValue v m
  rw [ht, List.cons_append] at hvalue ⊢
  exact hvalue.key hkey.plain hkey.marker hkey.length_le hc hi

theorem yields_fields (hkeys : ∀ f ∈ fields, IsKey f.1) (h : ∀ f ∈ fields, Lexed f.2)
    (hrest : Resumes m rest)
    (hy : ∀ l, (ready (spotsFrom l 0 rest) (ts ++ tokensOfFields fields) m is).Yields out)
    (l : Nat) :
    (ready (spotsFrom l 0 (printFields m false fields ++ rest)) ts m is).Yields out := by
  induction fields generalizing ts l with
  | nil => simpa [tokensOfFields, printFields] using hy l
  | cons f fields ih =>
    obtain ⟨key, value⟩ := f
    obtain ⟨hkey, hkeys⟩ := List.forall_mem_cons.mp hkeys
    obtain ⟨hvalue, hvalues⟩ := List.forall_mem_cons.mp h
    rw [printFields_false, printRestFields, List.append_assoc, List.append_assoc, List.cons_append,
      List.append_assoc]
    refine Yields.spaces ?_
    rw [Nat.zero_add]
    have hnext := resumes_printFields hkeys hrest
    refine yields_field hkey hvalue hnext (Int.le_refl m) (fun l => ?_) l
    rw [opened_self, around_self]
    exact ih hkeys hvalues (by simpa [tokensOfFields] using hy) l

theorem yields_record (hkeys : ∀ f ∈ (key, v) :: fields, IsKey f.1)
    (h : ∀ f ∈ (key, v) :: fields, Lexed f.2) (hrest : Resumes m rest) (hi : i < m)
    (hy : ∀ l, (ready (spotsFrom l 0 rest)
      (ts ++ .mapStart :: tokensOfFields ((key, v) :: fields)) m (i :: is)).Yields out)
    (l : Nat) :
    (ready (spotsFrom l m (printRestFields m key v fields ++ rest)) ts i is).Yields out := by
  obtain ⟨hkey, hkeys⟩ := List.forall_mem_cons.mp hkeys
  obtain ⟨hvalue, hvalues⟩ := List.forall_mem_cons.mp h
  rw [printRestFields, List.append_assoc, List.cons_append, List.append_assoc]
  have hnext := resumes_printFields hkeys hrest
  refine yields_field hkey hvalue hnext (Int.le_of_lt hi) (fun l => ?_) l
  rw [opened, if_pos hi, around, if_pos hi]
  exact yields_fields hkeys hvalues hrest (by simpa [tokensOfFields] using hy) l

theorem Lexed.of_scalar (t : Text) : Lexed (scalar t) where
  item hrest hy l := Yields.spaces (k := 1) (Yields.scalar hrest (by omega) hy)
  value hrest hy l col hcol := Yields.spaces (k := 1) (Yields.scalar hrest (by omega) hy)

theorem yields_empty {l col : Nat} {ka : Bool} (hv : v = list [] ∨ v = record [])
    (hrest : Resumes m rest) (hcol : m < col)
    (hy : ∀ l, (ready (spotsFrom l 0 rest) (ts ++ v.tokens false) m is).Yields out) :
    (state (spotsFrom l col (v.printItem m ++ rest)) ts m is [none] ka).Yields out := by
  have hnext : m < col + 1 := Nat.lt_succ_of_lt hcol
  rcases hv with rfl | rfl <;>
    exact Yields.spaces (k := 1) (Yields.brackets (hy (l + 1)) (beginsWord_cons (by decide) _)
      (beginsWord_cons (by decide) _) (fun _ => rfl) (fun _ => rfl) hrest hnext)

theorem Lexed.of_empty (hv : v = list [] ∨ v = record []) : Lexed v where
  item {m rest out ts is} hrest hy l := yields_empty hv hrest (Nat.lt_succ_self m) hy
  value {m rest out ts is} hrest hy l col hcol := by
    have hprint : v.printValue m = v.printItem m := by rcases hv with rfl | rfl <;> rfl
    have htokens : v.tokens true = v.tokens false := by rcases hv with rfl | rfl <;> rfl
    rw [hprint]
    exact yields_empty hv hrest hcol (by rwa [htokens] at hy)

theorem Lexed.of_list (h : ∀ v ∈ item :: items, Lexed v) : Lexed (list (item :: items)) where
  item {m rest out ts is} hrest hy l := by
    -- The sign of the item, two characters wide, is the margin of the inner list.
    have hlt : (m : Int) < ↑(m + 2) := by omega
    refine Yields.spaces (k := 1) ?_
    refine yields_list h (hrest.mono (by omega)) hlt (fun l => ?_) l
    exact Yields.blockEnd (by simpa [tokens] using hy l) hrest hlt
  -- The items of a list in a record stand at the margin of its keys.
  value hrest hy l col hcol :=
    Yields.break (yields_items h hrest (by simpa [tokens] using hy) (l + 1)) false

theorem Lexed.of_record (hkeys : ∀ f ∈ (key, v) :: fields, IsKey f.1)
    (h : ∀ f ∈ (key, v) :: fields, Lexed f.2) : Lexed (record ((key, v) :: fields)) where
  item {m rest out ts is} hrest hy l := by
    have hlt : (m : Int) < ↑(m + 2) := by omega
    have hprint : printItem m (record ((key, v) :: fields)) =
        ' ' :: printRestFields (m + 2) key v fields :=
      congrArg (' ' :: ·) (printFields_true (m + 2) key v fields)
    rw [hprint]
    refine Yields.spaces (k := 1) ?_
    refine yields_record hkeys h (hrest.mono (by omega)) hlt (fun l => ?_) l
    exact Yields.blockEnd (by simpa [tokens] using hy l) hrest hlt
  value {m rest out ts is} hrest hy l col hcol := by
    have hlt : (m : Int) < ↑(m + 2) := by omega
    have hprint : printValue m (record ((key, v) :: fields)) =
        '\n' :: (List.replicate (m + 2) ' ' ++ printRestFields (m + 2) key v fields) :=
      congrArg ('\n' :: ·) (printFields_false (m + 2) key v fields)
    rw [hprint, List.cons_append, List.append_assoc]
    refine Yields.break (Yields.spaces ?_) false
    rw [Nat.zero_add]
    refine yields_record hkeys h (hrest.mono (by omega)) hlt (fun l => ?_) (l + 1)
    exact Yields.blockEnd (by simpa [tokens] using hy l) hrest hlt

theorem Keyed.lexed (h : v.Keyed) : v.Lexed := by
  induction h with
  | scalar t => exact .of_scalar t
  | @list items _ ih =>
    cases items with
    | nil => exact .of_empty (.inl rfl)
    | cons item items => exact .of_list ih
  | @record fields hkeys _ ih =>
    cases fields with
    | nil => exact .of_empty (.inr rfl)
    | cons f fields => exact .of_record hkeys ih

theorem all_indentLines {t : Text} (h : t.all isPrintable = true) (margin : Nat) (inside : Bool) :
    (indentLines margin inside t).all isPrintable = true := by
  induction t generalizing inside with
  | nil => rfl
  | cons c t ih =>
    obtain ⟨hc, ht⟩ := (Bool.and_eq_true _ _).mp (List.all_cons ▸ h)
    have hspace : isPrintable ' ' = true := rfl
    unfold indentLines
    split
    · simp [hc, ih ht]
    · split <;> simp [hc, hspace, ih ht]

theorem all_blockHints (t : Text) : (blockHints t).all isPrintable = true := by
  unfold blockHints
  simp only [List.all_append, Bool.and_eq_true]
  constructor
  · split <;> rfl
  · split
    · rfl
    · split
      · rfl
      · split <;> rfl

theorem all_scalarLine (margin : Nat) (t : Text) :
    (scalarLine margin t).all isPrintable = true := by
  have hline : isPrintable '\n' = true := rfl
  have hquote : isPrintable '\'' = true := rfl
  have hquotes : isPrintable '"' = true := rfl
  unfold scalarLine
  cases hstyle : Style.ofText t with
  | plain =>
    have hinline := (isPlain_of_style hstyle).inline
    simpa [hline] using fun c hc => (hinline c hc).1
  | singleQuoted =>
    have hprintable := (Style.suits_of_eq hstyle).2
    simp only [Style.allowsSingleQuotes, Bool.and_eq_true, List.all_eq_true] at hprintable
    have hdoubled : (t.flatMap doubled ++ ['\'']).all isPrintable = true := by
      simp only [List.all_append, List.all_flatMap, Bool.and_eq_true, List.all_eq_true (l := t)]
      refine ⟨fun c hc => ?_, rfl⟩
      rw [doubled]
      split
      · rfl
      · simpa using hprintable.1.1 c hc
    simp [hline, singleQuoted_eq, hquote, all_indentLines hdoubled]
  | doubleQuoted =>
    have hescape : (t.flatMap escape).all isPrintable = true := by
      simp only [List.all_flatMap, List.all_eq_true]
      exact fun c _ d hd => ((escaped_escape c).inline d hd).1
    simp [hline, doubleQuoted, hquotes, hescape]
  | literal =>
    have hprintable : t.all isPrintable = true :=
      List.all_eq_true.mpr (literal_of_style hstyle).2
    have hlines := all_indentLines hprintable margin false
    have hbar : isPrintable '|' = true := rfl
    dsimp only
    split <;> simp [hline, hbar, all_blockHints, hlines]

structure Shown (v : Layout) : Prop where
  item (m : Nat) : (v.printItem m).all isPrintable = true
  value (m : Nat) : (v.printValue m).all isPrintable = true

theorem all_margin (inside : Bool) (m : Nat) (t : Text) (h : t.all isPrintable = true) :
    (if inside then t else List.replicate m ' ').all isPrintable = true := by
  have hspace : isPrintable ' ' = true := rfl
  split
  · exact h
  · simp [hspace]

theorem all_printItems (h : ∀ v ∈ items, Shown v) (m : Nat) (inside : Bool) :
    (printItems m inside items).all isPrintable = true := by
  induction items generalizing inside with
  | nil => rfl
  | cons item items ih =>
    obtain ⟨hitem, hitems⟩ := List.forall_mem_cons.mp h
    have hsign : isPrintable '-' = true := rfl
    rw [printItems]
    simp only [List.all_append, List.all_cons, all_margin inside m [' '] rfl, hsign, hitem.item m,
      ih hitems, Bool.and_self]

theorem all_printFields (hkeys : ∀ f ∈ fields, IsKey f.1) (h : ∀ f ∈ fields, Shown f.2) (m : Nat)
    (inside : Bool) : (printFields m inside fields).all isPrintable = true := by
  induction fields generalizing inside with
  | nil => rfl
  | cons f fields ih =>
    obtain ⟨key, value⟩ := f
    obtain ⟨hkey, hkeys⟩ := List.forall_mem_cons.mp hkeys
    obtain ⟨hvalue, hvalues⟩ := List.forall_mem_cons.mp h
    have hsign : isPrintable ':' = true := rfl
    have hkey : key.all isPrintable = true :=
      List.all_eq_true.mpr fun c hc => (hkey.plain.inline c hc).1
    rw [printFields]
    simp only [List.all_append, List.all_cons, all_margin inside m [] rfl, hsign, hkey,
      hvalue.value m, ih hkeys hvalues, Bool.and_self]

theorem Keyed.shown (h : v.Keyed) : v.Shown := by
  have hline : isPrintable '\n' = true := rfl
  have hspace : isPrintable ' ' = true := rfl
  induction h with
  | scalar t =>
    constructor
    · intro m
      simp [printItem, hspace, all_scalarLine]
    · intro m
      simp [printValue, hspace, all_scalarLine]
  | @list items _ ih =>
    cases items with
    | nil => exact ⟨fun _ => rfl, fun _ => rfl⟩
    | cons item items =>
      constructor
      · intro m
        exact all_printItems ih (m + 2) true
      · intro m
        simp [printValue, hline, all_printItems ih]
  | @record fields hkeys _ ih =>
    cases fields with
    | nil => exact ⟨fun _ => rfl, fun _ => rfl⟩
    | cons f fields =>
      constructor
      · intro m
        simp [printItem, hspace, all_printFields hkeys ih]
      · intro m
        simp [printValue, hline, all_printFields hkeys ih]

theorem ofText_print (hne : fields ≠ []) (h : Keyed (record fields)) :
    Token.ofText (print fields) = .ok (tokens false (record fields)) := by
  cases h with
  | record hkeys hvalues =>
    have hprintable : ∀ c ∈ print fields, isPrintable c = true :=
      List.all_eq_true.mp (all_printFields hkeys (fun f hf => (hvalues f hf).shown) 0 false)
    have hallowed : (print fields).all isAllowed = true :=
      List.all_eq_true.mpr fun c hc => isAllowed_of_isPrintable (hprintable c hc)
    rw [Token.ofText, if_pos hallowed, spots, unifyBreaks_eq hprintable]
    obtain ⟨⟨key, value⟩, fields, rfl⟩ := List.exists_cons_of_ne_nil hne
    have hyields : (ready (spotsFrom 0 0 (printRestFields 0 key value fields ++ [])) [] (-1)
        []).Yields (tokens false (record ((key, value) :: fields))) :=
      yields_record hkeys (fun f hf => (hvalues f hf).lexed) ⟨0, [], rfl, Nat.le_refl 0, nofun⟩
        (by decide) (fun l => yields_end l _) 0
    rw [List.append_nil] at hyields
    have hprint : print ((key, value) :: fields) = printRestFields 0 key value fields :=
      printFields_false 0 key value fields
    rw [hprint]
    exact hyields

end Refit.Yaml.Layout
