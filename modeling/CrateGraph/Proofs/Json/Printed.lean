import CrateGraph.Proofs.Json.Number
import CrateGraph.Proofs.Json.Strings

/-!
# The tokens of a printed tree

A tree is printed as its tokens with blanks between some of them. Each token ends by itself or
where the next one or a blank starts, so the text is cut into the same tokens again.

## Main results

* `Value.Writable` — the trees that a text can hold.
* `tokens_indented` — a printed tree is cut into the tokens of the tree.
-/

namespace CrateGraph

namespace Value

mutual

/-- Whether a text can hold a tree, with so many lists and tables inside of each other: its
integers fit into 64 bits, and its doubles are those that their decimals are read as. -/
def Writable : Nat → Value → Prop
  | _, .int n => -(wordLimit : Int) ≤ 2 * n ∧ n < wordLimit
  | _, .real x =>
    Json.readNumber (Text.toBytes (Decimal.Layout.scientific.render x)) = .ok (.real x, [])
  | room, .list items => 0 < room ∧ WritableItems (room - 1) items
  | room, .table entries => 0 < room ∧ WritableEntries (room - 1) entries
  | _, _ => True

/-- Whether a text can hold the items of a list. -/
def WritableItems : Nat → List Value → Prop
  | _, [] => True
  | room, v :: items => Writable room v ∧ WritableItems room items

/-- Whether a text can hold the entries of a table. -/
def WritableEntries : Nat → List (String × Value) → Prop
  | _, [] => True
  | room, (_, v) :: entries => Writable room v ∧ WritableEntries room entries

end

theorem writableItems_iff (room : Nat) (items : List Value) :
    WritableItems room items ↔ ∀ v ∈ items, v.Writable room := by
  induction items with
  | nil => simp [WritableItems]
  | cons v items ih => rw [WritableItems, ih, List.forall_mem_cons]

theorem writableEntries_iff (room : Nat) (entries : List (String × Value)) :
    WritableEntries room entries ↔ ∀ e ∈ entries, e.2.Writable room := by
  induction entries with
  | nil => simp [WritableEntries]
  | cons e entries ih => rw [WritableEntries, ih, List.forall_mem_cons]

variable {α : Type} {room : Nat}

theorem writable_list (items : List Value) :
    (Value.list items).Writable (room + 1) ↔ ∀ v ∈ items, v.Writable room := by
  rw [Writable, writableItems_iff]
  simp

theorem writable_table (entries : List (String × Value)) :
    (Value.table entries).Writable (room + 1) ↔ ∀ e ∈ entries, e.2.Writable room := by
  rw [Writable, writableEntries_iff]
  simp

theorem writable_text (s : String) : (Value.text s).Writable room := trivial

theorem writable_ofTexts (l : List String) : (ofTexts l).Writable (room + 1) := by
  rw [ofTexts, writable_list, List.forall_mem_map]
  exact fun s _ => writable_text s

theorem writable_ofTable {encode : α → Value} {t : Table α}
    (h : ∀ a ∈ t.values, (encode a).Writable room) : (ofTable encode t).Writable (room + 1) := by
  rw [ofTable, writable_table, List.forall_mem_map]
  exact fun e he => h e.2 (List.mem_map_of_mem he)

theorem writable_ofOption {encode : α → Value} (h : ∀ a, (encode a).Writable room)
    (a : Option α) : (ofOption encode a).Writable room := by
  cases a with
  | none => trivial
  | some a => exact h a

theorem forall_mem_entryIf {present : Bool} {key : String} {v : Value} (h : v.Writable room) :
    ∀ e ∈ entryIf present key v, e.2.Writable room := by
  cases present <;> simp [entryIf, h]

end Value

namespace Json

/-! ## Tokens of a tree -/

mutual

/-- The tokens that a tree is printed as. -/
def tokensOf : Value → List Token
  | .text s => [.text s]
  | .list [] => [.openList, .closeList]
  | .list (v :: items) => .openList :: tokensOf v ++ tokensOfItems items ++ [.closeList]
  | .table [] => [.openTable, .closeTable]
  | .table ((k, v) :: entries) =>
    .openTable :: .text k :: .colon :: tokensOf v ++ tokensOfEntries entries ++ [.closeTable]
  | v => [.scalar v]

/-- The tokens of the items of a list after the first. -/
def tokensOfItems : List Value → List Token
  | [] => []
  | v :: items => .comma :: tokensOf v ++ tokensOfItems items

/-- The tokens of the entries of a table after the first. -/
def tokensOfEntries : List (String × Value) → List Token
  | [] => []
  | (k, v) :: entries => .comma :: .text k :: .colon :: tokensOf v ++ tokensOfEntries entries

end

/-! ## One token -/

theorem tokens_of_blank {b : UInt8} (h : isBlank b = true) (bs : Bytes) :
    tokens (b :: bs) = tokens bs := by
  rw [tokens, if_pos h]

theorem tokens_of_readToken {b : UInt8} {bs rest : Bytes} {t : Token} (hb : isBlank b = false)
    (h : readToken b bs = .ok (t, rest)) : tokens (b :: bs) = t :: tokens rest := by
  rw [tokens, if_neg (by simp [hb])]
  split
  · rename_i r hr
    rw [h] at hr
    cases hr
    rfl
  · rename_i e he
    rw [h] at he
    cases he

theorem tokens_of_punctuation {b : UInt8} {t : Token} (h : punctuation? b = some t)
    (hb : isBlank b = false) (bs : Bytes) : tokens (b :: bs) = t :: tokens bs := by
  refine tokens_of_readToken hb ?_
  rw [readToken, h]

theorem tokens_string (s : String) (rest : Bytes) :
    tokens (Text.toBytes (string s) ++ rest) = .text s :: tokens rest := by
  have hread : readToken 0x22 ((s.toList.flatMap escaped).flatMap String.utf8EncodeChar ++
      0x22 :: rest) = .ok (.text s, rest) := by
    show Except.map _ (readString _) = _
    rw [readString_string]
    rfl
  rw [toBytes_string, List.cons_append, List.append_assoc, List.singleton_append]
  exact tokens_of_readToken (by decide) hread

theorem first_of_number : ∀ b : UInt8, (b = 0x2d ∨ (digit? b).isSome) →
    punctuation? b = none ∧ named? b = none ∧ b ≠ 0x22 ∧ isBlank b = false := by
  decide +kernel

/-- A number is a token of its own if what follows ends it. -/
theorem tokens_number {bs rest : Bytes} {v : Value} (h : readNumber bs = .ok (v, []))
    (hrest : Ends rest) : tokens (bs ++ rest) = .scalar v :: tokens rest := by
  obtain ⟨b, t, rfl, hb⟩ := exists_cons_of_readNumber h
  obtain ⟨hpunctuation, hnamed, hquote, hblank⟩ := first_of_number b hb
  have hnumber : (decide (b = 0x2d) || (digit? b).isSome) = true := by simpa using hb
  have hall := readNumber_append hrest h
  rw [List.cons_append] at hall ⊢
  refine tokens_of_readToken hblank ?_
  rw [readToken, hpunctuation, hnamed]
  simp only [if_neg hquote, hnumber, if_true, hall]
  rfl

theorem tokens_symbol {s : String} {b : UInt8} {t : Token} (hs : Text.toBytes s = [b])
    (ht : punctuation? b = some t) (hb : isBlank b = false) (rest : Bytes) :
    tokens (Text.toBytes s ++ rest) = t :: tokens rest := by
  rw [hs]
  exact tokens_of_punctuation ht hb rest

theorem tokens_named {s : String} {b : UInt8} {name : Bytes} {v : Value}
    (hs : Text.toBytes s = b :: name) (hv : named? b = some (v, name))
    (hpunctuation : punctuation? b = none) (hb : isBlank b = false) (rest : Bytes) :
    tokens (Text.toBytes s ++ rest) = .scalar v :: tokens rest := by
  have hexpect : ∀ name rest : Bytes, expect name (name ++ rest) = .ok rest := by
    intro name rest
    induction name with
    | nil => rfl
    | cons n name ih => rw [List.cons_append, expect, if_pos rfl, ih]
  rw [hs, List.cons_append]
  refine tokens_of_readToken hb ?_
  rw [readToken, hpunctuation, hv]
  simp only [hexpect]
  rfl

/-! ## Lines -/

theorem tokens_newline (depth : Nat) (rest : Bytes) :
    tokens (Text.toBytes (newline depth) ++ rest) = tokens rest := by
  have hspaces : ∀ n, tokens ((List.replicate n ' ').flatMap String.utf8EncodeChar ++ rest) =
      tokens rest := by
    intro n
    induction n with
    | zero => rfl
    | succ n ih =>
        rw [List.replicate_succ, List.flatMap_cons, List.append_assoc,
          Text.utf8EncodeChar_of_ascii (by decide)]
        rw [List.singleton_append, tokens_of_blank (by decide), ih]
  have hbreak : Text.toBytes "\n" = [0x0a] := by decide
  rw [newline, Text.toBytes_append, List.append_assoc, hbreak, List.singleton_append,
    tokens_of_blank (by decide), Text.toBytes_ofList, hspaces]

theorem ends_newline (depth : Nat) (rest : Bytes) :
    Ends (Text.toBytes (newline depth) ++ rest) := by
  have hbreak : Text.toBytes "\n" = [0x0a] := by decide
  rw [newline, Text.toBytes_append, List.append_assoc, hbreak]
  exact ends_cons (by decide) _

theorem ends_comma (rest : Bytes) : Ends (Text.toBytes "," ++ rest) := by
  have hcomma : Text.toBytes "," = [0x2c] := by decide
  rw [hcomma]
  exact ends_cons (by decide) _

theorem ends_indentedItems {rest : Bytes} (h : Ends rest) (depth : Nat) (items : List Value) :
    Ends (Text.toBytes (indentedItems depth items) ++ rest) := by
  cases items with
  | nil => exact h
  | cons v items =>
      simp only [indentedItems, Text.toBytes_append, List.append_assoc]
      exact ends_comma _

theorem ends_indentedEntries {rest : Bytes} (h : Ends rest) (depth : Nat)
    (entries : List (String × Value)) :
    Ends (Text.toBytes (indentedEntries depth entries) ++ rest) := by
  cases entries with
  | nil => exact h
  | cons e entries =>
      simp only [indentedEntries, Text.toBytes_append, List.append_assoc]
      exact ends_comma _

/-! ## Trees -/

theorem tokens_openList (rest : Bytes) :
    tokens (Text.toBytes "[" ++ rest) = .openList :: tokens rest :=
  tokens_symbol (b := 0x5b) (by decide) rfl (by decide) rest

theorem tokens_closeList (rest : Bytes) :
    tokens (Text.toBytes "]" ++ rest) = .closeList :: tokens rest :=
  tokens_symbol (b := 0x5d) (by decide) rfl (by decide) rest

theorem tokens_openTable (rest : Bytes) :
    tokens (Text.toBytes "\x7b" ++ rest) = .openTable :: tokens rest :=
  tokens_symbol (b := 0x7b) (by decide) rfl (by decide) rest

theorem tokens_closeTable (rest : Bytes) :
    tokens (Text.toBytes "\x7d" ++ rest) = .closeTable :: tokens rest :=
  tokens_symbol (b := 0x7d) (by decide) rfl (by decide) rest

theorem tokens_comma (rest : Bytes) :
    tokens (Text.toBytes "," ++ rest) = .comma :: tokens rest :=
  tokens_symbol (b := 0x2c) (by decide) rfl (by decide) rest

theorem tokens_colon (rest : Bytes) :
    tokens (Text.toBytes ": " ++ rest) = .colon :: tokens rest := by
  have hbytes : Text.toBytes ": " = [0x3a, 0x20] := by decide
  rw [hbytes, List.cons_append, List.singleton_append,
    tokens_of_punctuation rfl (by decide), tokens_of_blank (by decide)]

theorem tokens_null (rest : Bytes) :
    tokens (Text.toBytes "null" ++ rest) = .scalar .null :: tokens rest :=
  tokens_named (b := 0x6e) (by decide) rfl (by decide) (by decide) rest

theorem tokens_true (rest : Bytes) :
    tokens (Text.toBytes "true" ++ rest) = .scalar (.bool true) :: tokens rest :=
  tokens_named (b := 0x74) (by decide) rfl (by decide) (by decide) rest

theorem tokens_false (rest : Bytes) :
    tokens (Text.toBytes "false" ++ rest) = .scalar (.bool false) :: tokens rest :=
  tokens_named (b := 0x66) (by decide) rfl (by decide) (by decide) rest

mutual

/-- A printed tree is cut into its tokens, if what follows does not continue a number. -/
theorem tokens_indented (depth room : Nat) {rest : Bytes} (hrest : Ends rest) :
    (v : Value) → v.Writable room →
      tokens (Text.toBytes (indented depth v) ++ rest) = tokensOf v ++ tokens rest
  | .null, _ => tokens_null rest
  | .bool true, _ => tokens_true rest
  | .bool false, _ => tokens_false rest
  | .int _, h => tokens_number (readNumber_int h.1 h.2) hrest
  | .real _, h => tokens_number h hrest
  | .text s, _ => tokens_string s rest
  | .list [], _ => by
      show tokens (Text.toBytes ("[" ++ "]") ++ rest) = _
      rw [Text.toBytes_append, List.append_assoc, tokens_openList, tokens_closeList]
      rfl
  | .list (v :: items), ⟨_, hv, hitems⟩ => by
      -- an item is followed by a comma or by the line of the bracket, so a number ends there
      have hclose := ends_newline depth (Text.toBytes "]" ++ rest)
      simp only [indented, Text.toBytes_append, List.append_assoc, tokens_openList, tokens_newline]
      rw [tokens_indented (depth + 1) (room - 1) (ends_indentedItems hclose _ _) v hv,
        tokens_indentedItems (depth + 1) (room - 1) hclose items hitems, tokens_newline,
        tokens_closeList]
      simp [tokensOf]
  | .table [], _ => by
      show tokens (Text.toBytes ("\x7b" ++ "\x7d") ++ rest) = _
      rw [Text.toBytes_append, List.append_assoc, tokens_openTable, tokens_closeTable]
      rfl
  | .table ((k, v) :: entries), ⟨_, hv, hentries⟩ => by
      have hclose := ends_newline depth (Text.toBytes "\x7d" ++ rest)
      simp only [indented, Text.toBytes_append, List.append_assoc, tokens_openTable,
        tokens_newline, tokens_string, tokens_colon]
      rw [tokens_indented (depth + 1) (room - 1) (ends_indentedEntries hclose _ _) v hv,
        tokens_indentedEntries (depth + 1) (room - 1) hclose entries hentries, tokens_newline,
        tokens_closeTable]
      simp [tokensOf]

theorem tokens_indentedItems (depth room : Nat) {rest : Bytes} (hrest : Ends rest) :
    (items : List Value) → Value.WritableItems room items →
      tokens (Text.toBytes (indentedItems depth items) ++ rest) =
        tokensOfItems items ++ tokens rest
  | [], _ => rfl
  | v :: items, ⟨hv, hitems⟩ => by
      simp only [indentedItems, Text.toBytes_append, List.append_assoc, tokens_comma,
        tokens_newline]
      rw [tokens_indented depth room (ends_indentedItems hrest _ _) v hv,
        tokens_indentedItems depth room hrest items hitems]
      simp [tokensOfItems]

theorem tokens_indentedEntries (depth room : Nat) {rest : Bytes} (hrest : Ends rest) :
    (entries : List (String × Value)) → Value.WritableEntries room entries →
      tokens (Text.toBytes (indentedEntries depth entries) ++ rest) =
        tokensOfEntries entries ++ tokens rest
  | [], _ => rfl
  | (k, v) :: entries, ⟨hv, hentries⟩ => by
      simp only [indentedEntries, Text.toBytes_append, List.append_assoc, tokens_comma,
        tokens_newline, tokens_string, tokens_colon]
      rw [tokens_indented depth room (ends_indentedEntries hrest _ _) v hv,
        tokens_indentedEntries depth room hrest entries hentries]
      simp [tokensOfEntries]

end

/-- The text of a tree is cut into the tokens of the tree. -/
theorem tokens_pretty {room : Nat} {v : Value} (h : v.Writable room) :
    tokens (Text.toBytes (pretty v)) = tokensOf v := by
  have htokens := tokens_indented 0 room ends_nil v h
  have hnil : tokens [] = [] := by rw [tokens]
  rwa [List.append_nil, hnil, List.append_nil] at htokens

end Json

end CrateGraph
