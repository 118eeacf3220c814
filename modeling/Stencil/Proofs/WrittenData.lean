import Stencil.Value.Text

/-!
The written form of values. What the writer appends depends on the value alone and not on the text
so far, so a written sequence or map is its brackets around the written forms of its parts, with a
comma in front of every part but the first.
-/
namespace Stencil.Value

open Decimal

variable (style : Style)

mutual

theorem write_append (depth : Nat) (out new : String) (v : Value) :
    write style depth (out ++ new) v = out ++ write style depth new v := by
  match v with
  | .null => simp only [write, String.append_assoc]
  | .bool b => simp only [write, String.append_assoc]
  | .number n => simp only [write, String.append_assoc]
  | .string s => simp only [write, String.append_assoc]
  | .seq [] => simp only [write, String.append_assoc]
  | .seq (v :: items) =>
    simp only [write, String.append_assoc, write_append (depth + 1) out,
      writeItems_append depth out]
  | .map [] => simp only [write, String.append_assoc]
  | .map ((name, v) :: entries) =>
    simp only [write, String.append_assoc, write_append (depth + 1) out,
      writeEntries_append depth out]
  | .function n => simp only [write, String.append_assoc]

theorem writeItems_append (depth : Nat) (out new : String) (items : List Value) :
    writeItems style depth (out ++ new) items = out ++ writeItems style depth new items := by
  match items with
  | [] => rfl
  | v :: items =>
    simp only [writeItems, String.append_assoc, write_append (depth + 1) out,
      writeItems_append depth out]

theorem writeEntries_append (depth : Nat) (out new : String) (entries : List (String × Value)) :
    writeEntries style depth (out ++ new) entries =
      out ++ writeEntries style depth new entries := by
  match entries with
  | [] => rfl
  | (name, v) :: entries =>
    simp only [writeEntries, String.append_assoc, write_append (depth + 1) out,
      writeEntries_append depth out]

end

/-- The characters of a written value. -/
def written (depth : Nat) (v : Value) : List Char := (write style depth "" v).toList

/-- The characters in front of an item or a closing bracket. -/
def spacing (depth : Nat) : List Char := (style.lineBreak depth).toList

/-- An item behind others, with its comma. -/
def writtenItem (depth : Nat) (v : Value) : List Char :=
  ',' :: (spacing style (depth + 1) ++ written style (depth + 1) v)

/-- An entry behind the opening quote of its name. -/
def writtenEntry (depth : Nat) (e : String × Value) : List Char :=
  e.1.toList.flatMap escapeChar ++ '"' :: (style.colon.toList ++ written style (depth + 1) e.2)

/-- An entry behind others, with its comma. -/
def writtenNext (depth : Nat) (e : String × Value) : List Char :=
  ',' :: (spacing style (depth + 1) ++ '"' :: writtenEntry style depth e)

variable {style} {depth : Nat} {out : String} {v : Value}

theorem toList_write : (write style depth out v).toList = out.toList ++ written style depth v := by
  have happend := write_append style depth out "" v
  rw [String.append_empty] at happend
  rw [happend, String.toList_append]
  rfl

theorem toList_quoted (s : String) :
    (quoted s).toList = '"' :: (s.toList.flatMap escapeChar ++ ['"']) := by
  rw [quoted, String.toList_ofList]
  rfl

theorem toList_writeItems (items : List Value) :
    (writeItems style depth out items).toList =
      out.toList ++ items.flatMap (writtenItem style depth) := by
  induction items generalizing out with
  | nil =>
    rw [List.flatMap_nil, List.append_nil]
    rfl
  | cons v items ih =>
    rw [writeItems, ih, toList_write, List.flatMap_cons]
    simp only [String.toList_append, writtenItem, spacing, List.append_assoc, List.cons_append]
    rfl

theorem toList_writeEntries (entries : List (String × Value)) :
    (writeEntries style depth out entries).toList =
      out.toList ++ entries.flatMap (writtenNext style depth) := by
  induction entries generalizing out with
  | nil =>
    rw [List.flatMap_nil, List.append_nil]
    rfl
  | cons e entries ih =>
    rw [writeEntries, ih, toList_write, List.flatMap_cons]
    simp only [String.toList_append, toList_quoted, writtenNext, writtenEntry, spacing,
      List.append_assoc, List.cons_append, List.nil_append]
    rfl

theorem written_null : written style depth .null = "null".toList := by
  rw [written, write, String.empty_append]

theorem written_bool (b : Bool) :
    written style depth (.bool b) = (if b then "true" else "false").toList := by
  rw [written, write, String.empty_append]

theorem written_seq_nil : written style depth (.seq []) = "[]".toList := by
  rw [written, write, String.empty_append]

theorem written_map_nil : written style depth (.map []) = "\x7b\x7d".toList := by
  rw [written, write, String.empty_append]

theorem written_int (k : Int64) :
    written style depth (.int k) = (wholeText k.toInt).toList := by
  rw [written, int, write, String.empty_append]
  rfl

theorem written_string (text : String) :
    written style depth (.string text) = (quoted text).toList := by
  rw [written, write, String.empty_append]

theorem written_seq_cons (v : Value) (items : List Value) :
    written style depth (.seq (v :: items)) =
      '[' :: (spacing style (depth + 1) ++ (written style (depth + 1) v ++
        (items.flatMap (writtenItem style depth) ++ (spacing style depth ++ [']'])))) := by
  rw [written, write, String.toList_append, String.toList_append, toList_writeItems, toList_write]
  simp only [String.toList_append, spacing, List.append_assoc]
  rfl

theorem written_map_cons (e : String × Value) (entries : List (String × Value)) :
    written style depth (.map (e :: entries)) =
      '\x7b' :: (spacing style (depth + 1) ++ '"' :: (writtenEntry style depth e ++
        (entries.flatMap (writtenNext style depth) ++ (spacing style depth ++ ['\x7d'])))) := by
  rw [written, write, String.toList_append, String.toList_append, toList_writeEntries,
    toList_write]
  simp only [String.toList_append, toList_quoted, writtenEntry, spacing, List.append_assoc,
    List.cons_append, List.nil_append]
  rfl

/-! ### Lengths -/

theorem length_le_flatMap {α β : Type} {l : List α} {f : α → List β} {a : α} (h : a ∈ l) :
    (f a).length ≤ (l.flatMap f).length := by
  rw [List.flatMap_def]
  exact (List.sublist_flatten_of_mem (List.mem_map_of_mem h)).length_le

theorem count_le_flatMap {α β : Type} {l : List α} {f : α → List β} (h : ∀ a, f a ≠ []) :
    l.length ≤ (l.flatMap f).length := by
  induction l with
  | nil => exact Nat.zero_le _
  | cons a l ih =>
    have hpos := List.length_pos_iff.mpr (h a)
    rw [List.flatMap_cons, List.length_append, List.length_cons]
    omega

variable (style) (depth) {items : List Value} {entries : List (String × Value)}

theorem length_item_lt (h : v ∈ items) :
    (written style (depth + 1) v).length < (written style depth (.seq items)).length := by
  cases items with
  | nil => nomatch h
  | cons u items =>
    rw [written_seq_cons]
    simp only [List.length_cons, List.length_append]
    rcases List.mem_cons.mp h with rfl | hv
    · omega
    · have hlength := length_le_flatMap (f := writtenItem style depth) hv
      simp only [writtenItem, List.length_cons, List.length_append] at hlength ⊢
      omega

theorem length_items_lt (items : List Value) :
    items.length < (written style depth (.seq items)).length := by
  cases items with
  | nil =>
    rw [written_seq_nil]
    decide
  | cons v items =>
    have hcount : items.length ≤ (items.flatMap (writtenItem style depth)).length :=
      count_le_flatMap fun u => List.cons_ne_nil _ _
    rw [written_seq_cons]
    simp only [List.length_cons, List.length_append, List.length_nil]
    omega

theorem length_value_lt {e : String × Value} (h : e ∈ entries) :
    (written style (depth + 1) e.2).length < (written style depth (.map entries)).length := by
  cases entries with
  | nil => nomatch h
  | cons f entries =>
    rw [written_map_cons]
    simp only [List.length_cons, List.length_append]
    rcases List.mem_cons.mp h with rfl | he
    · simp only [writtenEntry, List.length_cons, List.length_append]
      omega
    · have hlength := length_le_flatMap (f := writtenNext style depth) he
      simp only [writtenNext, writtenEntry, List.length_cons, List.length_append] at hlength ⊢
      omega

theorem length_entries_lt (entries : List (String × Value)) :
    entries.length < (written style depth (.map entries)).length := by
  cases entries with
  | nil =>
    rw [written_map_nil]
    decide
  | cons e entries =>
    have hcount : entries.length ≤ (entries.flatMap (writtenNext style depth)).length :=
      count_le_flatMap fun f => List.cons_ne_nil _ _
    rw [written_map_cons]
    simp only [List.length_cons, List.length_append, List.length_nil]
    omega

end Stencil.Value
