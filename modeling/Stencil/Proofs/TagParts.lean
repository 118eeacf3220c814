import Stencil.Proofs.Head

/-!
How the parts of a tag are spelled, and what may follow them. A value in quotes ends with its quote.
A name without a value and a value without quotes end where other characters begin, so that the same
source is read differently when something else is put behind it.
-/
namespace Stencil.Markup

open Text

/-! ### Runs of characters -/

/-- A run of characters ends behind itself if what follows does not go on with it. -/
theorem takeWhile_append_eq_self_iff {p : Char → Bool} {a s : List Char}
    (ha : ∀ c ∈ a, p c = true) : (a ++ s).takeWhile p = a ↔ s.takeWhile p = [] := by
  rw [List.takeWhile_append_of_pos ha, List.append_right_eq_self]

theorem dropWhile_eq_self {p : Char → Bool} {s : List Char} (h : s.takeWhile p = []) :
    s.dropWhile p = s := by
  have happend := List.takeWhile_append_dropWhile (p := p) (l := s)
  rwa [h, List.nil_append] at happend

theorem takeWhile_cons_eq_nil {p : Char → Bool} {c : Char} (s : List Char) (h : p c = false) :
    (c :: s).takeWhile p = [] := by
  simp [h]

theorem takeWhile_append_eq_nil {p : Char → Bool} {a : List Char} (ha : a ≠ [])
    (h : a.takeWhile p = []) (s : List Char) : (a ++ s).takeWhile p = [] := by
  obtain ⟨c, a, rfl⟩ := List.exists_cons_of_ne_nil ha
  cases hc : p c with
  | true => simp [hc] at h
  | false => exact takeWhile_cons_eq_nil _ hc

theorem all_takeWhile (p : Char → Bool) (s : List Char) : ∀ c ∈ s.takeWhile p, p c = true :=
  List.all_eq_true.mp List.all_takeWhile

theorem takeWhile_dropWhile (p : Char → Bool) (s : List Char) :
    (s.dropWhile p).takeWhile p = [] := by
  induction s with
  | nil => rfl
  | cons c s ih =>
    cases hc : p c with
    | false => simp [hc]
    | true => simpa [hc] using ih

/-! ### Spellings -/

def isQuote (c : Char) : Bool := c == '"' || c == '\''

/-- Blanks and the name of an attribute behind them. -/
structure SpelledName (blanks name : List Char) : Prop where
  blanks : ∀ c ∈ blanks, isMarkupBlank c = true
  name_ne_nil : name ≠ []
  name_chars : ∀ c ∈ name, isAttrNameChar c = true

/-- A value and its source from the blanks in front of the equals sign on. -/
inductive SpelledValue : List Char → List Char → Prop where
  | quoted (before after value : List Char) (quote : Char)
      (hbefore : ∀ c ∈ before, isMarkupBlank c = true)
      (hafter : ∀ c ∈ after, isMarkupBlank c = true) (hquote : isQuote quote = true)
      (hvalue : quote ∉ value) :
      SpelledValue value (before ++ '=' :: (after ++ quote :: (value ++ [quote])))
  | unquoted (before after value : List Char) (hbefore : ∀ c ∈ before, isMarkupBlank c = true)
      (hafter : ∀ c ∈ after, isMarkupBlank c = true) (hvalue : ∀ c ∈ value, isUnquoted c = true)
      (hstart : value.takeWhile isQuote = []) :
      SpelledValue value (before ++ '=' :: (after ++ value))

/-- An attribute as it is written. -/
inductive Attr.Spelled : Attr → Prop where
  | bare {blanks name : List Char} (hname : SpelledName blanks name) :
      Spelled ⟨name, none, blanks ++ name⟩
  | valued {blanks name value source : List Char} (hname : SpelledName blanks name)
      (hvalue : SpelledValue value source) : Spelled ⟨name, some value, blanks ++ name ++ source⟩

/-- Whether the value of an attribute is in quotes: what its source has behind the name, the equals
sign and the blanks around it. -/
def Attr.isQuoted (a : Attr) : Bool :=
  let behindName := (a.source.dropWhile isMarkupBlank).dropWhile isAttrNameChar
  let behindEquals := (behindName.dropWhile isMarkupBlank).tail
  !((behindEquals.dropWhile isMarkupBlank).takeWhile isQuote).isEmpty

/-- What follows the attribute does not become a part of it: a name does not go on and gets no
value, and a value without quotes does not go on. -/
def Attr.EndsBefore (a : Attr) (rest : List Char) : Prop :=
  match a.value with
  | none =>
    rest.takeWhile isAttrNameChar = [] ∧ (rest.dropWhile isMarkupBlank).head? ≠ some '='
  | some value =>
    a.isQuoted = true ∨
      rest.takeWhile isUnquoted = [] ∧ (value = [] → rest.takeWhile isMarkupBlank = [])

instance (a : Attr) (rest : List Char) : Decidable (a.EndsBefore rest) :=
  match a with
  | ⟨_, none, _⟩ => inferInstanceAs (Decidable (_ ∧ _))
  | ⟨_, some _, _⟩ => inferInstanceAs (Decidable (_ ∨ _ ∧ _))

/-- The source of a stray slash would end the tag in front of `>`. -/
def strayEndsBefore (source rest : List Char) : Prop :=
  source.getLast? = some '/' → rest.head? ≠ some '>'

instance (source rest : List Char) : Decidable (strayEndsBefore source rest) :=
  inferInstanceAs (Decidable (_ → _))

/-! ### Reading in front of a text -/

variable {blanks name before after value source rest : List Char} {a : Attr}

theorem isAttrNameChar_cases {c : Char} (h : isAttrNameChar c = true) :
    isMarkupBlank c = false ∧ c ≠ '=' ∧ c ≠ '>' ∧ c ≠ '/' := by
  refine ⟨isMarkupBlank_of_isAttrNameChar h, ?_, ?_, ?_⟩ <;>
  · rintro rfl
    exact absurd h (by decide)

theorem SpelledName.exists_cons (h : SpelledName blanks name) :
    ∃ c n, name = c :: n ∧ isAttrNameChar c = true := by
  obtain ⟨c, n, rfl⟩ := List.exists_cons_of_ne_nil h.name_ne_nil
  exact ⟨c, n, rfl, h.name_chars c (List.mem_cons_self ..)⟩

theorem readStep_blanks_end (hblanks : ∀ c ∈ blanks, isMarkupBlank c = true) (s : List Char) :
    readStep (blanks ++ '>' :: s) = .tail (blanks ++ ['>']) false s := by
  have hmark : isMarkupBlank '>' = false := by decide
  rw [readStep, dropWhile_append_cons _ hblanks hmark, takeWhile_append_cons _ hblanks hmark]
  rfl

theorem readStep_blanks_slash (hblanks : ∀ c ∈ blanks, isMarkupBlank c = true) (s : List Char) :
    readStep (blanks ++ '/' :: '>' :: s) = .tail (blanks ++ ['/', '>']) true s := by
  have hmark : isMarkupBlank '/' = false := by decide
  rw [readStep, dropWhile_append_cons _ hblanks hmark, takeWhile_append_cons _ hblanks hmark]
  rfl

theorem readStep_name (h : SpelledName blanks name) (s : List Char) :
    readStep (blanks ++ (name ++ s)) = readAttr blanks (name ++ s) := by
  obtain ⟨c, n, rfl, hc⟩ := h.exists_cons
  obtain ⟨hblank, -, hgt, hslash⟩ := isAttrNameChar_cases hc
  rw [List.cons_append,
    readStep_of_ne (dropWhile_append_cons _ h.blanks hblank) hgt fun he => absurd he hslash,
    if_pos hc, takeWhile_append_cons _ h.blanks hblank]

theorem readAttr_name (h : SpelledName blanks name) {s : List Char}
    (hs : s.takeWhile isAttrNameChar = []) :
    readAttr blanks (name ++ s) =
      match readValue s with
      | .absent => .part (.attr ⟨name, none, blanks ++ name⟩) s
      | .found value source rest =>
        .part (.attr ⟨name, some value, blanks ++ name ++ source⟩) rest
      | .unfinished => .unfinished := by
  have hdrop : (name ++ s).dropWhile isAttrNameChar = s := by
    rw [List.dropWhile_append_of_pos h.name_chars, dropWhile_eq_self hs]
  cases hvalue : readValue s <;>
    simp only [readAttr, (takeWhile_append_eq_self_iff h.name_chars).mpr hs, hdrop, hvalue]

theorem readValue_equals (hbefore : ∀ c ∈ before, isMarkupBlank c = true)
    (hafter : ∀ c ∈ after, isMarkupBlank c = true) {s : List Char}
    (hs : s.takeWhile isMarkupBlank = []) :
    readValue (before ++ '=' :: (after ++ s)) = readBareValue (before ++ '=' :: after) s := by
  have heq : isMarkupBlank '=' = false := by decide
  rw [readValue, dropWhile_append_cons _ hbefore heq]
  simp only [takeWhile_append_cons _ hbefore heq, (takeWhile_append_eq_self_iff hafter).mpr hs,
    List.dropWhile_append_of_pos hafter, dropWhile_eq_self hs]

theorem readBareValue_quoted {quote : Char} (hquote : isQuote quote = true)
    (hvalue : quote ∉ value) (rest : List Char) :
    readBareValue before (quote :: (value ++ quote :: rest)) =
      .found value (before ++ quote :: value ++ [quote]) rest := by
  have hcut : cut [quote] (value ++ quote :: rest) = some (value, rest) :=
    cut_append_part rest hvalue
  rw [isQuote] at hquote
  rw [readBareValue, if_pos hquote, hcut]

theorem readBareValue_unquoted {s : List Char} (hs : s ≠ []) (hstart : s.takeWhile isQuote = []) :
    readBareValue before s =
      .found (s.takeWhile isUnquoted) (before ++ s.takeWhile isUnquoted)
        (s.dropWhile isUnquoted) := by
  obtain ⟨c, s, rfl⟩ := List.exists_cons_of_ne_nil hs
  have hc : ¬(c == '"' || c == '\'') = true := by
    intro hc
    rw [List.takeWhile_cons, isQuote, if_pos hc] at hstart
    simp at hstart
  rw [readBareValue, if_neg hc]

theorem isMarkupBlank_of_isQuote {c : Char} (h : isQuote c = true) : isMarkupBlank c = false := by
  rw [isQuote, Bool.or_eq_true, beq_iff_eq, beq_iff_eq] at h
  rcases h with rfl | rfl <;> decide

theorem SpelledName.source_dropWhile (h : SpelledName blanks name) {s : List Char}
    (hs : s.takeWhile isAttrNameChar = []) :
    ((blanks ++ (name ++ s)).dropWhile isMarkupBlank).dropWhile isAttrNameChar = s := by
  obtain ⟨c, n, rfl, hc⟩ := h.exists_cons
  rw [List.cons_append, dropWhile_append_cons _ h.blanks (isAttrNameChar_cases hc).1,
    ← List.cons_append, List.dropWhile_append_of_pos h.name_chars, dropWhile_eq_self hs]

theorem equals_takeWhile (hbefore : ∀ c ∈ before, isMarkupBlank c = true) (s : List Char) :
    (before ++ '=' :: s).takeWhile isAttrNameChar = [] := by
  cases before with
  | nil => exact takeWhile_cons_eq_nil s (by decide)
  | cons c before =>
    refine takeWhile_cons_eq_nil _ ?_
    rw [isAttrNameChar, hbefore c (List.mem_cons_self ..)]
    rfl

theorem takeWhile_isMarkupBlank_of_isUnquoted {s : List Char}
    (h : ∀ c ∈ s, isUnquoted c = true) (hs : s ≠ []) (rest : List Char) :
    (s ++ rest).takeWhile isMarkupBlank = [] := by
  obtain ⟨c, s, rfl⟩ := List.exists_cons_of_ne_nil hs
  have hc := h c (List.mem_cons_self ..)
  rw [isUnquoted, Bool.and_eq_true, Bool.not_eq_true'] at hc
  exact takeWhile_cons_eq_nil _ hc.1

theorem isUnquoted_of_isQuote {c : Char} (h : isQuote c = true) : isUnquoted c = true := by
  rw [isQuote, Bool.or_eq_true, beq_iff_eq, beq_iff_eq] at h
  rcases h with rfl | rfl <;> decide

/-- A value that does not go on starts with no quote even if it is empty. -/
theorem takeWhile_isQuote_append (hstart : value.takeWhile isQuote = [])
    (hrest : rest.takeWhile isUnquoted = []) : (value ++ rest).takeWhile isQuote = [] := by
  by_cases hvalue : value = []
  · rw [hvalue, List.nil_append]
    cases rest with
    | nil => rfl
    | cons c rest =>
      cases hc : isQuote c with
      | true => simp [isUnquoted_of_isQuote hc] at hrest
      | false => exact takeWhile_cons_eq_nil _ hc
  · exact takeWhile_append_eq_nil hvalue hstart rest

theorem isQuoted_quoted (hname : SpelledName blanks name)
    (hbefore : ∀ c ∈ before, isMarkupBlank c = true)
    (hafter : ∀ c ∈ after, isMarkupBlank c = true) {quote : Char} (hquote : isQuote quote = true)
    (v : Option (List Char)) (s : List Char) :
    (Attr.mk name v (blanks ++ name ++ (before ++ '=' :: (after ++ quote :: s)))).isQuoted =
      true := by
  have heq : isMarkupBlank '=' = false := by decide
  rw [Attr.isQuoted]
  simp only [List.append_assoc blanks, hname.source_dropWhile (equals_takeWhile hbefore _),
    dropWhile_append_cons _ hbefore heq, List.tail_cons,
    dropWhile_append_cons _ hafter (isMarkupBlank_of_isQuote hquote), List.takeWhile_cons, hquote,
    if_true, List.isEmpty_cons, Bool.not_false]

theorem isQuoted_unquoted (hname : SpelledName blanks name)
    (hbefore : ∀ c ∈ before, isMarkupBlank c = true)
    (hafter : ∀ c ∈ after, isMarkupBlank c = true) (hvalue : ∀ c ∈ value, isUnquoted c = true)
    (hstart : value.takeWhile isQuote = []) (v : Option (List Char)) :
    (Attr.mk name v (blanks ++ name ++ (before ++ '=' :: (after ++ value)))).isQuoted = false := by
  have heq : isMarkupBlank '=' = false := by decide
  have hblank : value.takeWhile isMarkupBlank = [] := by
    by_cases hne : value = []
    · rw [hne]
      rfl
    · simpa using takeWhile_isMarkupBlank_of_isUnquoted hvalue hne []
  rw [Attr.isQuoted]
  simp only [List.append_assoc blanks, hname.source_dropWhile (equals_takeWhile hbefore _),
    dropWhile_append_cons _ hbefore heq, List.tail_cons, List.dropWhile_append_of_pos hafter,
    dropWhile_eq_self hblank, hstart, List.isEmpty_nil, Bool.not_true]

theorem readBareValue_ne_absent (before s : List Char) : readBareValue before s ≠ .absent := by
  unfold readBareValue
  split <;> (repeat' split) <;> simp

theorem readValue_absent_iff {s : List Char} :
    readValue s = .absent ↔ (s.dropWhile isMarkupBlank).head? ≠ some '=' := by
  unfold readValue
  split
  · next rest heq =>
    exact iff_of_false (readBareValue_ne_absent _ _) (by simp [heq])
  · next hne =>
    refine iff_of_true rfl fun hhead => ?_
    obtain ⟨rest, hrest⟩ := List.head?_eq_some_iff.mp hhead
    exact hne rest hrest

namespace Attr.Spelled

/-- An attribute is read again in front of whatever leaves it as it is. -/
theorem readStep (h : a.Spelled) (hrest : rest ≠ []) (hends : a.EndsBefore rest) :
    readStep (a.source ++ rest) = .part (.attr a) rest := by
  cases h with
  | bare hname =>
    obtain ⟨hchars, hequals⟩ := hends
    rw [List.append_assoc, readStep_name hname, readAttr_name hname hchars,
      readValue_absent_iff.mpr hequals]
  | @valued blanks name value source hname hvalue =>
    cases hvalue with
    | quoted before after value quote hbefore hafter hquote hvalue =>
      have hfound : readValue (before ++ '=' :: (after ++ quote :: (value ++ quote :: rest))) =
          .found value (before ++ '=' :: (after ++ quote :: (value ++ [quote]))) rest := by
        have hblank := takeWhile_cons_eq_nil (value ++ quote :: rest)
          (isMarkupBlank_of_isQuote hquote)
        rw [readValue_equals hbefore hafter hblank, readBareValue_quoted hquote hvalue]
        simp
      simp only [List.append_assoc, List.cons_append, List.nil_append]
      rw [readStep_name hname, readAttr_name hname (equals_takeWhile hbefore _), hfound]
      simp
    | unquoted before after value hbefore hafter hvalue hstart =>
      have hquoted := isQuoted_unquoted hname hbefore hafter hvalue hstart (some value)
      obtain ⟨hchars, hempty⟩ :=
        hends.resolve_left fun h => Bool.false_ne_true (hquoted.symm.trans h)
      have hfound : readValue (before ++ '=' :: (after ++ (value ++ rest))) =
          .found value (before ++ '=' :: (after ++ value)) rest := by
        have hblank : (value ++ rest).takeWhile isMarkupBlank = [] := by
          by_cases hne : value = []
          · rw [hne]
            exact hempty hne
          · exact takeWhile_isMarkupBlank_of_isUnquoted hvalue hne rest
        have hquote := takeWhile_isQuote_append hstart hchars
        rw [readValue_equals hbefore hafter hblank,
          readBareValue_unquoted (List.append_ne_nil_of_right_ne_nil value hrest) hquote,
          (takeWhile_append_eq_self_iff hvalue).mpr hchars, List.dropWhile_append_of_pos hvalue,
          dropWhile_eq_self hchars, List.append_assoc]
        rfl
      simp only [List.append_assoc, List.cons_append]
      rw [readStep_name hname, readAttr_name hname (equals_takeWhile hbefore _), hfound]
      simp

/-- Whatever stands behind an attribute, what is read at it is an attribute; and if that one has the
same name and value, then what stands behind leaves the attribute as it is. -/
theorem endsBefore_of_readStep (h : a.Spelled)
    (hread : Markup.readStep (a.source ++ rest) ≠ .unfinished) :
    ∃ b r, Markup.readStep (a.source ++ rest) = .part (.attr b) r ∧
      (b.name = a.name → b.value = a.value → a.isQuoted = true ∨ a.value ≠ some [] →
        a.EndsBefore rest) := by
  cases h with
  | @bare blanks name hname =>
    rw [List.append_assoc, readStep_name hname] at hread ⊢
    simp only [readAttr] at hread ⊢
    cases hvalue : readValue ((name ++ rest).dropWhile isAttrNameChar) with
    | unfinished => simp [hvalue] at hread
    | found value source r => exact ⟨_, _, rfl, fun _ hnone => by simp at hnone⟩
    | absent =>
      refine ⟨_, _, rfl, fun hsame _ _ => ?_⟩
      have hchars := (takeWhile_append_eq_self_iff hname.name_chars).mp hsame
      rw [List.dropWhile_append_of_pos hname.name_chars, dropWhile_eq_self hchars,
        readValue_absent_iff] at hvalue
      exact ⟨hchars, hvalue⟩
  | @valued blanks name value source hname hvalue =>
    have hequals : (source ++ rest).takeWhile isAttrNameChar = [] := by
      cases hvalue with
      | quoted before after value quote hbefore | unquoted before after value hbefore =>
        rw [List.append_assoc]
        exact equals_takeWhile hbefore _
    rw [List.append_assoc, List.append_assoc, readStep_name hname, readAttr_name hname hequals]
      at hread ⊢
    cases hfound : readValue (source ++ rest) with
    | unfinished => simp [hfound] at hread
    | absent => exact ⟨_, _, rfl, fun _ hsome => by simp at hsome⟩
    | found value' source' r =>
      refine ⟨_, _, rfl, fun _ hsame hne => ?_⟩
      obtain rfl : value' = value := Option.some.inj hsame
      cases hvalue with
      | quoted before after _ quote hbefore hafter hquote =>
        exact Or.inl (isQuoted_quoted hname hbefore hafter hquote _ _)
      | unquoted before after _ hbefore hafter hvalue hstart =>
        have hquoted := isQuoted_unquoted hname hbefore hafter hvalue hstart (some value')
        have hvalueNe : value' ≠ [] := fun he =>
          (hne.resolve_left fun h => Bool.false_ne_true (hquoted.symm.trans h)) (congrArg some he)
        have hblank := takeWhile_isMarkupBlank_of_isUnquoted hvalue hvalueNe rest
        have hquote := takeWhile_append_eq_nil hvalueNe hstart rest
        rw [List.append_assoc, List.cons_append, List.append_assoc,
          readValue_equals hbefore hafter hblank,
          readBareValue_unquoted (List.append_ne_nil_of_left_ne_nil hvalueNe rest) hquote]
          at hfound
        obtain ⟨hsame, -, -⟩ := ValueReading.found.inj hfound
        exact Or.inr ⟨(takeWhile_append_eq_self_iff hvalue).mp hsame, fun he => absurd he hvalueNe⟩

end Attr.Spelled

/-! ### What is read -/

theorem spelledValue_of_readValue {s value source rest : List Char}
    (h : readValue s = .found value source rest) :
    SpelledValue value source ∧ ∀ blanks name, SpelledName blanks name →
      (Attr.mk name (some value) (blanks ++ name ++ source)).EndsBefore rest := by
  unfold readValue at h
  split at h
  · next t ht =>
    have hbefore := all_takeWhile isMarkupBlank s
    have hafter := all_takeWhile isMarkupBlank t
    cases hu : t.dropWhile isMarkupBlank with
    | nil => simp [hu, readBareValue] at h
    | cons c u =>
      have hblank : (c :: u).takeWhile isMarkupBlank = [] := hu ▸ takeWhile_dropWhile _ t
      rw [hu] at h
      cases hquote : isQuote c with
      | true =>
        cases hcut : cut [c] u with
        | none =>
          rw [isQuote] at hquote
          simp [readBareValue, hquote, hcut] at h
        | some r =>
          have hvalue := notMem_of_cut (a := r.1) (b := r.2) hcut
          have huEq : u = r.1 ++ c :: r.2 := by simpa using cut_eq_some (a := r.1) (b := r.2) hcut
          rw [huEq, readBareValue_quoted hquote hvalue] at h
          obtain ⟨rfl, rfl, rfl⟩ := ValueReading.found.inj h
          have hsource : s.takeWhile isMarkupBlank ++ '=' :: t.takeWhile isMarkupBlank ++
              c :: r.1 ++ [c] = s.takeWhile isMarkupBlank ++
                '=' :: (t.takeWhile isMarkupBlank ++ c :: (r.1 ++ [c])) := by simp
          rw [hsource]
          exact ⟨.quoted _ _ _ _ hbefore hafter hquote hvalue, fun blanks name hname =>
            Or.inl (isQuoted_quoted hname hbefore hafter hquote _ _)⟩
      | false =>
        have hstart := takeWhile_cons_eq_nil u hquote
        rw [readBareValue_unquoted (List.cons_ne_nil c u) hstart] at h
        obtain ⟨rfl, rfl, rfl⟩ := ValueReading.found.inj h
        have hfirst : ((c :: u).takeWhile isUnquoted).takeWhile isQuote = [] := by
          cases hc : isUnquoted c <;> simp [hc, hquote]
        have hsource : s.takeWhile isMarkupBlank ++ '=' :: t.takeWhile isMarkupBlank ++
            (c :: u).takeWhile isUnquoted = s.takeWhile isMarkupBlank ++
              '=' :: (t.takeWhile isMarkupBlank ++ (c :: u).takeWhile isUnquoted) := by simp
        rw [hsource]
        refine ⟨.unquoted _ _ _ hbefore hafter (all_takeWhile _ _) hfirst, fun _ _ _ => Or.inr ?_⟩
        refine ⟨takeWhile_dropWhile _ _, fun hempty => ?_⟩
        rwa [dropWhile_eq_self hempty]
  · simp at h

/-- What is read as an attribute is spelled as one and ends where the reading does. -/
theorem spelled_of_readStep {s r : List Char} (h : readStep s = .part (.attr a) r) :
    a.Spelled ∧ a.EndsBefore r := by
  unfold readStep at h
  split at h
  · simp at h
  · simp at h
  · simp at h
  · next c t _ _ ht =>
    split at h
    · next hc =>
      have hname : SpelledName (s.takeWhile isMarkupBlank) ((c :: t).takeWhile isAttrNameChar) :=
        ⟨all_takeWhile _ _, by simp [hc], all_takeWhile _ _⟩
      have hchars := takeWhile_dropWhile isAttrNameChar (c :: t)
      simp only [readAttr] at h
      split at h
      · next habsent =>
        simp only [TagStep.part.injEq, Part.attr.injEq] at h
        obtain ⟨rfl, rfl⟩ := h
        exact ⟨.bare hname, hchars, readValue_absent_iff.mp habsent⟩
      · next hfound =>
        simp only [TagStep.part.injEq, Part.attr.injEq] at h
        obtain ⟨rfl, rfl⟩ := h
        obtain ⟨hvalue, hends⟩ := spelledValue_of_readValue hfound
        exact ⟨.valued hname hvalue, hends _ _ hname⟩
      · simp at h
    · simp at h

/-- A stray character with the blanks in front of it. -/
structure SpelledStray (source : List Char) (blanks : List Char) (c : Char) : Prop where
  source_eq : source = blanks ++ [c]
  blanks : ∀ d ∈ blanks, isMarkupBlank d = true
  not_blank : isMarkupBlank c = false
  not_name : isAttrNameChar c = false
  not_end : c ≠ '>'

theorem spelledStray_of_readStep {s source r : List Char}
    (h : readStep s = .part (.stray source) r) : ∃ blanks c, SpelledStray source blanks c := by
  unfold readStep at h
  split at h
  · simp at h
  · simp at h
  · simp at h
  · next c t hgt _ ht =>
    split at h
    · simp only [readAttr] at h
      split at h <;> simp at h
    · next hc =>
      simp only [TagStep.part.injEq, Part.stray.injEq] at h
      obtain ⟨rfl, rfl⟩ := h
      have hblank := takeWhile_dropWhile isMarkupBlank s
      rw [ht] at hblank
      refine ⟨_, c, rfl, all_takeWhile _ _, ?_, Bool.eq_false_iff.mpr hc, ?_⟩
      · cases hb : isMarkupBlank c with
        | false => rfl
        | true => simp [hb] at hblank
      · rintro rfl
        exact hgt rfl

namespace SpelledStray

variable {c : Char} (h : SpelledStray source blanks c)

include h

theorem endsBefore_iff : strayEndsBefore source rest ↔ (c = '/' → ∀ r, rest ≠ '>' :: r) := by
  rw [strayEndsBefore, h.source_eq, List.getLast?_concat, Option.some.injEq]
  refine forall_congr' fun _ => ?_
  cases rest <;> simp

theorem readStep (hends : strayEndsBefore source rest) :
    Markup.readStep (source ++ rest) = .part (.stray source) rest := by
  have hdrop : (blanks ++ [c] ++ rest).dropWhile isMarkupBlank = c :: rest := by
    rw [List.append_assoc]
    exact dropWhile_append_cons rest h.blanks h.not_blank
  have htake : (blanks ++ [c] ++ rest).takeWhile isMarkupBlank = blanks := by
    rw [List.append_assoc]
    exact takeWhile_append_cons rest h.blanks h.not_blank
  rw [h.source_eq, readStep_of_ne hdrop h.not_end (h.endsBefore_iff.mp hends), htake,
    if_neg (Bool.eq_false_iff.mp h.not_name)]

/-- A slash in front of the end of a tag makes the tag self-closing. -/
theorem readStep_of_slash (hends : ¬strayEndsBefore source rest) :
    ∃ r, rest = '>' :: r ∧ Markup.readStep (source ++ rest) = .tail (source ++ ['>']) true r := by
  rw [h.endsBefore_iff, Classical.not_imp] at hends
  obtain ⟨rfl, hrest⟩ := hends
  obtain ⟨r, hr⟩ := Classical.not_forall.mp hrest
  obtain rfl := Classical.not_not.mp hr
  refine ⟨r, rfl, ?_⟩
  rw [h.source_eq, List.append_assoc, List.append_assoc]
  exact readStep_blanks_slash h.blanks r

end SpelledStray

end Stencil.Markup
