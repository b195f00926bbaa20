import Refit.Proofs.Yaml.Layout
import Refit.Yaml.Node

namespace Refit.Yaml.Layout

open Node

variable {v item : Layout} {items : List Layout} {fields : List (Text × Layout)} {key : Text}
  {rest stops : List Token} {n : Nat}

mutual

def node : Layout → Node
  | scalar t => .scalar t (Style.ofText t = .plain)
  | list items => .sequence (nodesOfItems items)
  | record fields => .mapping (nodesOfFields fields)

def nodesOfItems : List Layout → List Node
  | [] => []
  | item :: items => item.node :: nodesOfItems items

def nodesOfFields : List (Text × Layout) → List (Node × Node)
  | [] => []
  | (key, value) :: fields => (.scalar key true, value.node) :: nodesOfFields fields

end

theorem nodesOfItems_eq (items : List Layout) : nodesOfItems items = items.map node := by
  induction items with
  | nil => rfl
  | cons item items ih => rw [nodesOfItems, ih, List.map_cons]

theorem nodesOfFields_eq (fields : List (Text × Layout)) :
    nodesOfFields fields = fields.map fun f => (.scalar f.1 true, f.2.node) := by
  induction fields with
  | nil => rfl
  | cons f fields ih => rw [nodesOfFields, ih, List.map_cons]

theorem nextIn_tokens (v : Layout) (rest : List Token) :
    nextIn [.entry, .blockEnd] (v.tokens false ++ rest) = false ∧
      nextIn (.entry :: fieldStops) (v.tokens false ++ rest) = false ∧
        nextIn fieldStops (v.tokens true ++ rest) = false := by
  rcases v with t | (_ | ⟨_, _⟩) | (_ | ⟨_, _⟩) <;> exact ⟨rfl, rfl, rfl⟩

/-- A layout that is put together again from its tokens, as an item and as the value of a field. No
token takes more than four steps, and the places around it take two. -/
structure Rebuilt (v : Layout) : Prop where
  item : ∀ {n rest}, 4 * (v.tokens false).length + 2 ≤ n →
    read n .item (v.tokens false ++ rest) = .ok (v.node, rest)
  value : ∀ {n rest}, nextIn [.entry] rest = false → 4 * (v.tokens true).length + 2 ≤ n →
    read n .field (v.tokens true ++ rest) = .ok (v.node, rest)

section Steps

variable {ts us : List Token} {x key value : Node} {xs : List Node} {fs : List (Node × Node)}

theorem readUnless_eq (h : nextIn stops ts = false) (n : Nat) (place : Place) :
    readUnless (n + 1) place stops ts = read n place ts := by
  rw [readUnless, if_neg (by simp [h])]

theorem readItems_cons (hstop : nextIn [.entry, .blockEnd] ts = false)
    (hitem : read n .item ts = .ok (x, us)) (hitems : readItems (n + 1) us = .ok (xs, rest)) :
    readItems (n + 2) (.entry :: ts) = .ok (x :: xs, rest) := by
  rw [readItems, readUnless_eq hstop, hitem]
  simp only [bind, Except.bind, hitems]
  rfl

theorem readLooseItems_cons (hstop : nextIn (.entry :: fieldStops) ts = false)
    (hitem : read n .item ts = .ok (x, us)) (hitems : readLooseItems (n + 1) us = .ok (xs, rest)) :
    readLooseItems (n + 2) (.entry :: ts) = .ok (x :: xs, rest) := by
  rw [readLooseItems, readUnless_eq hstop, hitem]
  simp only [bind, Except.bind, hitems]
  rfl

theorem readFields_cons (t : Text) (hstop : nextIn fieldStops ts = false)
    (hvalue : read n .field ts = .ok (value, us))
    (hfields : readFields (n + 2) us = .ok (fs, rest)) :
    readFields (n + 3) (.key :: .scalar t true :: .value :: ts) =
      .ok ((.scalar t true, value) :: fs, rest) := by
  have hkey : readUnless (n + 2) .field fieldStops (.scalar t true :: .value :: ts) =
      .ok (.scalar t true, .value :: ts) := rfl
  rw [readFields, hkey]
  simp only [bind, Except.bind, readValue, readUnless_eq hstop, hvalue, hfields]
  rfl

end Steps

theorem readItems_tokens (h : ∀ v ∈ items, Rebuilt v)
    (hn : 4 * (tokensOfItems items).length < n) (rest : List Token) :
    readItems n (tokensOfItems items ++ .blockEnd :: rest) = .ok (nodesOfItems items, rest) := by
  induction items generalizing n with
  | nil =>
    obtain ⟨n, rfl⟩ := Nat.exists_eq_add_of_lt hn
    rfl
  | cons item items ih =>
    obtain ⟨hitem, hitems⟩ := List.forall_mem_cons.mp h
    simp only [tokensOfItems, List.length_append, List.length_cons] at hn
    obtain ⟨n, rfl⟩ : ∃ k, n = k + 2 := ⟨n - 2, by omega⟩
    rw [tokensOfItems, List.cons_append, List.cons_append, List.append_assoc]
    exact readItems_cons (nextIn_tokens item _).1 (hitem.item (by omega)) (ih hitems (by omega))

theorem readLooseItems_tokens (h : ∀ v ∈ items, Rebuilt v) (hrest : nextIn [.entry] rest = false)
    (hn : 4 * (tokensOfItems items).length < n) :
    readLooseItems n (tokensOfItems items ++ rest) = .ok (nodesOfItems items, rest) := by
  induction items generalizing n with
  | nil =>
    obtain ⟨n, rfl⟩ := Nat.exists_eq_add_of_lt hn
    rw [tokensOfItems, List.nil_append, nodesOfItems]
    rw [readLooseItems]
    rintro ts rfl
    cases hrest
  | cons item items ih =>
    obtain ⟨hitem, hitems⟩ := List.forall_mem_cons.mp h
    simp only [tokensOfItems, List.length_append, List.length_cons] at hn
    obtain ⟨n, rfl⟩ : ∃ k, n = k + 2 := ⟨n - 2, by omega⟩
    rw [tokensOfItems, List.cons_append, List.cons_append, List.append_assoc]
    exact readLooseItems_cons (nextIn_tokens item _).2.1 (hitem.item (by omega))
      (ih hitems (by omega))

theorem readFields_tokens (h : ∀ f ∈ fields, Rebuilt f.2)
    (hn : 4 * (tokensOfFields fields).length < n) (rest : List Token) :
    readFields n (tokensOfFields fields ++ .blockEnd :: rest) =
      .ok (nodesOfFields fields, rest) := by
  induction fields generalizing n with
  | nil =>
    obtain ⟨n, rfl⟩ := Nat.exists_eq_add_of_lt hn
    rfl
  | cons f fields ih =>
    obtain ⟨key, value⟩ := f
    obtain ⟨hvalue, hvalues⟩ := List.forall_mem_cons.mp h
    dsimp only at hvalue
    have hnext : nextIn [.entry] (tokensOfFields fields ++ .blockEnd :: rest) = false := by
      cases fields <;> rfl
    simp only [tokensOfFields, List.length_append, List.length_cons, List.length_nil] at hn
    obtain ⟨n, rfl⟩ : ∃ k, n = k + 3 := ⟨n - 3, by omega⟩
    rw [tokensOfFields, List.append_assoc, List.append_assoc]
    exact readFields_cons key (nextIn_tokens value _).2.2 (hvalue.value hnext (by omega))
      (ih hvalues (by omega))

theorem Rebuilt.of_scalar (t : Text) : Rebuilt (scalar t) where
  item {n rest} hn := by
    obtain ⟨n, rfl⟩ := Nat.exists_eq_add_of_lt hn
    rfl
  value {n rest} _ hn := by
    obtain ⟨n, rfl⟩ := Nat.exists_eq_add_of_lt hn
    rfl

theorem Rebuilt.of_empty (hv : v = list [] ∨ v = record []) : Rebuilt v where
  item {n rest} hn := by
    obtain ⟨n, rfl⟩ : ∃ k, n = k + 2 := ⟨n - 2, by omega⟩
    rcases hv with rfl | rfl <;> rfl
  value {n rest} _ hn := by
    obtain ⟨n, rfl⟩ : ∃ k, n = k + 2 := ⟨n - 2, by omega⟩
    rcases hv with rfl | rfl <;> rfl

theorem Rebuilt.of_list (h : ∀ v ∈ item :: items, Rebuilt v) : Rebuilt (list (item :: items)) where
  item {n rest} hn := by
    simp only [tokens, Bool.false_eq_true, if_false, List.length_append, List.length_cons] at hn
    obtain ⟨n, rfl⟩ : ∃ k, n = k + 1 := ⟨n - 1, by omega⟩
    have hitems := readItems_tokens h (show _ < n by omega) rest
    simp only [tokens, Bool.false_eq_true, if_false, List.cons_append, List.append_assoc,
      List.nil_append, Node.read, hitems, bind, Except.bind]
    rfl
  value {n rest} hrest hn := by
    simp only [tokens, if_true] at hn
    obtain ⟨n, rfl⟩ : ∃ k, n = k + 1 := ⟨n - 1, by omega⟩
    have hitems := readLooseItems_tokens h hrest (show _ < n by omega)
    simp only [tokensOfItems, List.cons_append] at hitems
    simp only [tokens, if_true, tokensOfItems, List.cons_append, Node.read, hitems, bind,
      Except.bind]
    rfl

theorem read_record {f : Text × Layout} {place : Place} (h : ∀ g ∈ f :: fields, Rebuilt g.2)
    (hplace : place ≠ .flow) (hn : 4 * ((record (f :: fields)).tokens true).length + 2 ≤ n) :
    read n place ((record (f :: fields)).tokens true ++ rest) =
      .ok ((record (f :: fields)).node, rest) := by
  simp only [tokens, List.length_append, List.length_cons] at hn
  obtain ⟨n, rfl⟩ : ∃ k, n = k + 1 := ⟨n - 1, by omega⟩
  have hfields := readFields_tokens h (show _ < n by omega) rest
  simp only [tokens, List.cons_append, List.append_assoc, List.nil_append, Node.read, if_neg hplace,
    hfields, bind, Except.bind]
  rfl

theorem Rebuilt.of_record {f : Text × Layout} (h : ∀ g ∈ f :: fields, Rebuilt g.2) :
    Rebuilt (record (f :: fields)) where
  item hn := read_record h nofun hn
  value _ hn := read_record h nofun hn

theorem Keyed.rebuilt (h : v.Keyed) : v.Rebuilt := by
  induction h with
  | scalar t => exact .of_scalar t
  | @list items _ ih =>
    cases items with
    | nil => exact .of_empty (.inl rfl)
    | cons item items => exact .of_list ih
  | @record fields _ _ ih =>
    cases fields with
    | nil => exact .of_empty (.inr rfl)
    | cons f fields => exact .of_record ih

/-- A record is read back from its print. -/
theorem node_print (hne : fields ≠ []) (h : Keyed (record fields)) :
    Node.ofText (print fields) = .ok (record fields).node := by
  have hread : read (4 * (tokens false (record fields)).length + 4) .item
      (tokens false (record fields) ++ []) = .ok ((record fields).node, []) :=
    h.rebuilt.item (Nat.add_le_add_left (by decide) _)
  obtain ⟨f, fields, rfl⟩ := List.exists_cons_of_ne_nil hne
  have hopen : openDocument (tokens false (record (f :: fields))) =
      .ok (false, tokens false (record (f :: fields))) := rfl
  rw [List.append_nil] at hread
  rw [Node.ofText, ofText_print hne h]
  simp only [bind, Except.bind, ofTokens, hopen, Bool.false_and, Bool.false_eq_true, if_false,
    hread]
  rfl

end Refit.Yaml.Layout
