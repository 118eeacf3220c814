import Stencil.Library.Conversion
import Stencil.Proofs.DistinctNames
import Stencil.Proofs.ReadBack

/-!
Data survives being written and read. Each part of a sequence or a map is read back from the text
that the writer has for it, because what stands behind it there does not go on with it, and so by
induction is the whole, as deep as the reader follows.
-/
namespace Stencil

namespace Value

open Decimal Text

/-- A value of the data format, nested at most `n` deep: no floats and no functions, and no name
twice in a map. -/
inductive IsData : Nat → Value → Prop where
  | null (n : Nat) : IsData n .null
  | bool (n : Nat) (b : Bool) : IsData n (.bool b)
  | int (n : Nat) (k : Int64) : IsData n (.int k)
  | string (n : Nat) (s : String) : IsData n (.string s)
  | seq (n : Nat) (items : List Value) (hitems : ∀ v ∈ items, IsData n v) :
      IsData (n + 1) (.seq items)
  | map (n : Nat) (entries : List (String × Value)) (hnames : (Record.names entries).Nodup)
      (hentries : ∀ e ∈ entries, IsData n e.2) : IsData (n + 1) (.map entries)

section Parts

variable {style : Style} {depth bound n : Nat} {s rest : List Char}
variable {item : Reader Value} {v : Value} {items : List Value}

/-- The text starts with neither a blank nor a closing bracket. -/
def Starts (s : List Char) : Prop := ∃ c t, s = c :: t ∧ isFormatBlank c = false ∧ c ≠ ']'

theorem starts_int (k : Int) : Starts (wholeText k).toList := by
  cases k with
  | ofNat m =>
    obtain ⟨c, s, hdigits, hc, -⟩ := exists_cons_of_isPosition (isPosition_digitChars m)
    exact ⟨c, s, by rw [wholeText, String.toList_ofList, hdigits],
      isFormatBlank_of_isAsciiDigit hc, ne_of_isAsciiDigit hc (by decide)⟩
  | negSucc m =>
    exact ⟨'-', digitChars (m + 1), by rw [wholeText, String.toList_ofList], rfl, by decide⟩

theorem starts_written (h : IsData n v) : Starts (written style depth v) := by
  cases h with
  | null => exact ⟨'n', "ull".toList, written_null, rfl, by decide⟩
  | bool _ b =>
    rw [written_bool]
    cases b with
    | true => exact ⟨'t', "rue".toList, rfl, rfl, by decide⟩
    | false => exact ⟨'f', "alse".toList, rfl, rfl, by decide⟩
  | int _ k =>
    rw [written_int]
    exact starts_int k.toInt
  | string _ s =>
    rw [written_string, toList_quoted]
    exact ⟨'"', _, rfl, rfl, by decide⟩
  | seq _ items =>
    cases items with
    | nil => exact ⟨'[', [']'], written_seq_nil, rfl, by decide⟩
    | cons v items =>
      rw [written_seq_cons]
      exact ⟨'[', _, rfl, rfl, by decide⟩
  | map _ entries =>
    cases entries with
    | nil => exact ⟨'\x7b', ['\x7d'], written_map_nil, rfl, by decide⟩
    | cons e entries =>
      rw [written_map_cons]
      exact ⟨'\x7b', _, rfl, rfl, by decide⟩

theorem ended_items (style : Style) (depth : Nat) (items : List Value) (rest : List Char) :
    Ended (items.flatMap (writtenItem style depth) ++ (spacing style depth ++ ']' :: rest)) := by
  cases items with
  | nil => exact ended_spacing (by decide) rest
  | cons v items => exact ended_cons (by decide) _

theorem ended_entries (style : Style) (depth : Nat) (entries : List (String × Value))
    (rest : List Char) :
    Ended (entries.flatMap (writtenNext style depth) ++
      (spacing style depth ++ '\x7d' :: rest)) := by
  cases entries with
  | nil => exact ended_spacing (by decide) rest
  | cons e entries => exact ended_cons (by decide) _

/-- Behind a comma the next item is read. -/
theorem readItems_comma {m : Nat} (done : List Value) (hs : Starts s) :
    readItems item done (m + 1) (',' :: (spacing style depth ++ (s ++ rest))) =
      (item (s ++ rest)).bind fun p => readItems item (p.1 :: done) m p.2 := by
  obtain ⟨c, t, rfl, hblank, hclose⟩ := hs
  have hskip : skipBlanks (spacing style depth ++ (c :: t ++ rest)) = c :: t ++ rest := by
    rw [skipBlanks_spacing, List.cons_append, skipBlanks_cons hblank]
  rw [readItems, skipBlanks_cons rfl]
  split
  · next heq => nomatch heq
  · next heq => exact absurd (List.cons.inj heq).1 (by decide)
  · next heq =>
    obtain rfl := (List.cons.inj heq).2
    rw [hskip]
    split
    · next heq => nomatch heq
    · next heq => exact absurd (List.cons.inj heq).1 hclose
    · rfl
  · next hne => exact absurd rfl (hne _)

theorem readItems_written {m : Nat} (done : List Value)
    (hread : ∀ v ∈ items, Reads item (written style (depth + 1) v) v)
    (hstart : ∀ v ∈ items, Starts (written style (depth + 1) v)) (hm : items.length < m)
    (rest : List Char) :
    readItems item done m
        (items.flatMap (writtenItem style depth) ++ (spacing style depth ++ ']' :: rest)) =
      .ok (done.reverse ++ items, rest) := by
  induction items generalizing done m with
  | nil =>
    obtain ⟨m, rfl⟩ := Nat.exists_eq_add_one_of_ne_zero (Nat.ne_of_gt hm)
    rw [List.flatMap_nil, List.nil_append, readItems, skipBlanks_spacing, skipBlanks_cons rfl,
      List.append_nil]
    rfl
  | cons v items ih =>
    obtain ⟨m, rfl⟩ := Nat.exists_eq_add_one_of_ne_zero (Nat.ne_of_gt (Nat.zero_lt_of_lt hm))
    have hitem := hread v List.mem_cons_self _ (ended_items style depth items rest)
    rw [List.flatMap_cons, List.append_assoc, writtenItem, List.cons_append, List.append_assoc,
      readItems_comma done (hstart v List.mem_cons_self), hitem]
    show readItems item (v :: done) m _ = _
    rw [ih (v :: done) (fun u hu => hread u (List.mem_cons_of_mem v hu))
      (fun u hu => hstart u (List.mem_cons_of_mem v hu)) (Nat.lt_of_succ_lt_succ hm),
      List.reverse_cons, List.append_assoc]
    rfl

theorem readSeq_written (hread : ∀ u ∈ v :: items, Reads item (written style (depth + 1) u) u)
    (hstart : ∀ u ∈ v :: items, Starts (written style (depth + 1) u)) (hm : items.length < bound)
    (rest : List Char) :
    readSeq item bound (spacing style (depth + 1) ++ (written style (depth + 1) v ++
        (items.flatMap (writtenItem style depth) ++ (spacing style depth ++ ']' :: rest)))) =
      .ok (.seq (v :: items), rest) := by
  have hitem := hread v List.mem_cons_self _ (ended_items style depth items rest)
  have hitems := readItems_written [v] (fun u hu => hread u (List.mem_cons_of_mem v hu))
    (fun u hu => hstart u (List.mem_cons_of_mem v hu)) hm rest
  obtain ⟨c, t, hv, hblank, hclose⟩ := hstart v List.mem_cons_self
  rw [hv, List.cons_append] at hitem ⊢
  rw [readSeq, skipBlanks_spacing, skipBlanks_cons hblank]
  split
  · next heq => nomatch heq
  · next heq => exact absurd (List.cons.inj heq).1 hclose
  · rw [hitem]
    show (readItems item [v] bound _).bind _ = _
    rw [hitems]
    rfl

/-- An entry is its name, closed by a quote, and a value behind a colon. -/
theorem reads_entry {e : String × Value} (hblank : ∀ s, item (' ' :: s) = item s)
    (hread : Reads item (written style (depth + 1) e.2) e.2) :
    Reads (readEntry item) (writtenEntry style depth e) e := by
  intro rest hrest
  have hvalue := hread rest hrest
  rw [writtenEntry, List.append_assoc, List.cons_append, readEntry, readString_escaped]
  cases style with
  | compact =>
    show (item (written .compact (depth + 1) e.2 ++ rest)).bind _ = _
    rw [hvalue]
    show Except.ok ((String.ofList e.1.toList, e.2), rest) = _
    rw [String.ofList_toList]
  | indented =>
    show (item (' ' :: (written .indented (depth + 1) e.2 ++ rest))).bind _ = _
    rw [hblank, hvalue]
    show Except.ok ((String.ofList e.1.toList, e.2), rest) = _
    rw [String.ofList_toList]

/-- Behind a comma the next entry is read. -/
theorem readEntries_comma {m : Nat} (done : List (String × Value)) :
    readEntries item done (m + 1) (',' :: (spacing style depth ++ '"' :: s)) =
      (readEntry item s).bind fun p => readEntries item (p.1 :: done) m p.2 := by
  have hskip : skipBlanks (spacing style depth ++ '"' :: s) = '"' :: s := by
    rw [skipBlanks_spacing, skipBlanks_cons rfl]
  rw [readEntries, skipBlanks_cons rfl]
  split
  · next heq => nomatch heq
  · next heq => exact absurd (List.cons.inj heq).1 (by decide)
  · next heq =>
    obtain rfl := (List.cons.inj heq).2
    rw [hskip]
    rfl
  · next hne => exact absurd rfl (hne _)

theorem readEntries_written {entries : List (String × Value)} {m : Nat}
    (done : List (String × Value))
    (hread : ∀ e ∈ entries, Reads (readEntry item) (writtenEntry style depth e) e)
    (hm : entries.length < m) (rest : List Char) :
    readEntries item done m
        (entries.flatMap (writtenNext style depth) ++ (spacing style depth ++ '\x7d' :: rest)) =
      .ok (done.reverse ++ entries, rest) := by
  induction entries generalizing done m with
  | nil =>
    obtain ⟨m, rfl⟩ := Nat.exists_eq_add_one_of_ne_zero (Nat.ne_of_gt hm)
    rw [List.flatMap_nil, List.nil_append, readEntries, skipBlanks_spacing, skipBlanks_cons rfl,
      List.append_nil]
    rfl
  | cons e entries ih =>
    obtain ⟨m, rfl⟩ := Nat.exists_eq_add_one_of_ne_zero (Nat.ne_of_gt (Nat.zero_lt_of_lt hm))
    have hentry := hread e List.mem_cons_self _ (ended_entries style depth entries rest)
    rw [List.flatMap_cons, List.append_assoc, writtenNext, List.cons_append, List.append_assoc,
      List.cons_append, readEntries_comma done, hentry]
    show readEntries item (e :: done) m _ = _
    rw [ih (e :: done) (fun f hf => hread f (List.mem_cons_of_mem e hf))
      (Nat.lt_of_succ_lt_succ hm), List.reverse_cons, List.append_assoc]
    rfl

theorem readMap_written {e : String × Value} {entries : List (String × Value)}
    (hread : ∀ f ∈ e :: entries, Reads (readEntry item) (writtenEntry style depth f) f)
    (hnames : (Record.names (e :: entries)).Nodup) (hm : entries.length < bound)
    (rest : List Char) :
    readMap item bound (spacing style (depth + 1) ++ '"' :: (writtenEntry style depth e ++
        (entries.flatMap (writtenNext style depth) ++ (spacing style depth ++ '\x7d' :: rest)))) =
      .ok (.map (e :: entries), rest) := by
  have hentry := hread e List.mem_cons_self _ (ended_entries style depth entries rest)
  have hentries := readEntries_written [e] (fun f hf => hread f (List.mem_cons_of_mem e hf)) hm rest
  rw [readMap, skipBlanks_spacing, skipBlanks_cons rfl]
  show (readEntry item _).bind _ = _
  rw [hentry]
  show (readEntries item [e] bound _).bind _ = _
  rw [hentries]
  show Except.ok (map (Record.ofList (e :: entries)), rest) = _
  rw [Record.ofList_of_nodup hnames]

/-- Data is read back from its written form, as deep as the reader goes. -/
theorem reads_written (h : IsData n v) (hbound : (written style depth v).length ≤ bound) :
    Reads (readValue bound n) (written style depth v) v := by
  -- Along with the depth, the bound on items and entries is passed on to the parts unchanged: their
  -- texts are shorter than the whole.
  induction h generalizing depth with
  | null n =>
    intro rest _
    rw [written_null, readValue]
    rfl
  | bool n b =>
    intro rest _
    rw [written_bool, readValue]
    cases b <;> rfl
  | int n k =>
    rw [written_int]
    exact reads_int k
  | string n s =>
    rw [written_string]
    exact reads_string s
  | seq n items hitems ih =>
    intro rest _
    cases items with
    | nil =>
      rw [written_seq_nil, readValue]
      rfl
    | cons v items =>
      have hcount := length_items_lt style depth (v :: items)
      have hread : ∀ u ∈ v :: items,
          Reads (readValue bound n) (written style (depth + 1) u) u := by
        intro u hu
        have hlength := length_item_lt style depth hu
        exact ih u hu (by omega)
      rw [List.length_cons] at hcount
      rw [written_seq_cons, readValue]
      simp only [List.append_assoc, List.cons_append, List.nil_append]
      exact readSeq_written hread (fun u hu => starts_written (hitems u hu)) (by omega) rest
  | map n entries hnames hentries ih =>
    intro rest _
    cases entries with
    | nil =>
      rw [written_map_nil, readValue]
      rfl
    | cons e entries =>
      have hcount := length_entries_lt style depth (e :: entries)
      have hread : ∀ f ∈ e :: entries,
          Reads (readEntry (readValue bound n)) (writtenEntry style depth f) f := by
        intro f hf
        have hlength := length_value_lt style depth hf
        exact reads_entry readValue_blank (ih f hf (by omega))
      rw [List.length_cons] at hcount
      rw [written_map_cons, readValue]
      simp only [List.append_assoc, List.cons_append, List.nil_append]
      exact readMap_written hread hnames (by omega) rest

/-- The data format of data of limited depth is a text that holds it. -/
theorem ofJson_json (h : IsData depthLimit v) (style : Style) : ofJson (v.json style) = .ok v := by
  have hread : readValue (written style 0 v).length depthLimit (written style 0 v ++ []) =
      .ok (v, []) := reads_written h (Nat.le_refl _) [] nofun
  rw [List.append_nil] at hread
  rw [ofJson]
  show (readText (written style 0 v)).mapError _ = _
  rw [readText, hread]
  rfl

end Parts

end Value

namespace Library.Conversion

variable {v : Value}

theorem jsonDecode_of_ofJson {text : String} (h : Value.ofJson text = .ok v) :
    jsonDecode [.string text] = .ok v := by
  have harg : textArg [.string text] 0 = text := rfl
  unfold jsonDecode
  rw [harg, h]
  rfl

/-- Encoding a value of nulls, booleans, integers, strings, sequences and maps and decoding it again
gives the value, with every indentation; so does decoding the text of a sequence or a map. -/
theorem jsonDecode_jsonEncode (h : v.IsData 127) :
    (jsonEncode [v] >>= fun encoded => jsonDecode [encoded]) = .ok v ∧
      (∀ indent, (jsonEncode [v, indent] >>= fun encoded => jsonDecode [encoded]) = .ok v) ∧
      (v.kind = .array ∨ v.kind = .object → jsonDecode [.string v.text] = .ok v) := by
  have hdecode (style : Value.Style) : jsonDecode [.string (v.json style)] = .ok v :=
    jsonDecode_of_ofJson (Value.ofJson_json h style)
  refine ⟨hdecode .compact, ?_, ?_⟩
  · intro indent
    exact hdecode (if indent.isNull then .compact else .indented)
  · intro hkind
    have htext : v.text = v.json .compact := by
      cases v with
      | seq items => rfl
      | map entries => rfl
      | _ => rcases hkind with hkind | hkind <;> nomatch hkind
    rw [htext]
    exact hdecode .compact

/-- Control characters, quotes, extreme integers and nesting. -/
def sampleData : Value :=
  .map [("z\"\n\u0001é", .seq [.null, .bool true, .int Int64.minValue, .int Int64.maxValue]),
    ("a", .map []), ("", .seq [.seq [], .string "\\ 😀"])]

theorem jsonDecode_jsonEncode_sampleData : sampleData.IsData 127 ∧
    (jsonEncode [sampleData] >>= fun encoded => jsonDecode [encoded]) = .ok sampleData ∧
      (∀ indent, (jsonEncode [sampleData, indent] >>= fun encoded => jsonDecode [encoded]) =
        .ok sampleData) ∧
      jsonDecode [.string sampleData.text] = .ok sampleData := by
  have hdata : sampleData.IsData 127 := by
    refine .map _ _ (by decide) ?_
    simp only [List.forall_mem_cons]
    refine ⟨.seq _ _ ?_, .map _ _ (by decide) nofun, .seq _ _ ?_, nofun⟩
    · simp only [List.forall_mem_cons]
      exact ⟨.null _, .bool _ _, .int _ _, .int _ _, nofun⟩
    · simp only [List.forall_mem_cons]
      exact ⟨.seq _ _ nofun, .string _ _, nofun⟩
  obtain ⟨hplain, hindented, htext⟩ := jsonDecode_jsonEncode hdata
  exact ⟨hdata, hplain, hindented, htext (.inr rfl)⟩

end Library.Conversion

end Stencil
