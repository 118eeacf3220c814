import Stencil.Directive.LoopHeader
import Stencil.Proofs.PathTokens
import Stencil.Proofs.TagParts
import Stencil.Proofs.Trimming

/-!
The texts that are loop headers. Blanks may stand around the variables, around the word `in` and at
both ends, and the collection is what is left of the rest when its ends are trimmed. There is one
exception: where only blanks follow the word `in`, the last of two or more is the collection, although
the same text without its outer blanks is no header.
-/
namespace Stencil.Directive.LoopHeader

open Text Markup

/-! ### The parts of a header -/

def Blanks (s : List Char) : Prop := ∀ c ∈ s, isBlank c = true

def isName : List Char → Bool
  | [] => false
  | c :: rest => isNameStart c && rest.all isNamePart

/-- One variable, or two in parentheses. -/
inductive Variables : List Char → Option (List Char) → List Char → Prop where
  | single {item : List Char} (hitem : isName item = true) : Variables item none item
  | pair {item key before behind between after : List Char} (hitem : isName item = true)
      (hkey : isName key = true) (hbefore : Blanks before) (hbehind : Blanks behind)
      (hbetween : Blanks between) (hafter : Blanks after) :
      Variables item (some key)
        ('(' :: (before ++ (item ++ (behind ++ ',' :: (between ++ (key ++ (after ++ [')'])))))))

/-- A header up to the word `in`. -/
inductive Front (item : List Char) (key : Option (List Char)) : List Char → Prop where
  | mk {before vars gap : List Char} (hbefore : Blanks before)
      (hvars : Variables item key vars) (hgap : Blanks gap) (hne : gap ≠ []) :
      Front item key (before ++ (vars ++ (gap ++ ['i', 'n'])))

/-- What stands behind the word `in`, and the collection that it is read as. -/
inductive Behind : List Char → List Char → Prop where
  | trimmed {gap collection after : List Char} (hgap : Blanks gap) (hne : gap ≠ [])
      (hcollection : collection ≠ []) (htrim : trim collection = collection)
      (hafter : Blanks after) : Behind collection (gap ++ (collection ++ after))
  | blank {gap : List Char} {c : Char} (hgap : Blanks gap) (hne : gap ≠ [])
      (hc : isBlank c = true) : Behind [c] (gap ++ [c])

/-- A header without a collection: nothing but blanks, and more than one, follows the word `in`. -/
def Dangling (s : List Char) : Prop :=
  ∃ item key front blanks, s = front ++ blanks ∧ Front item key front ∧ Blanks blanks ∧
    2 ≤ blanks.length

/-! ### Blanks and names -/

section Characters

variable {c : Char} {s t name rest : List Char}

theorem blanks_nil : Blanks [] := fun c hc => by cases hc

theorem Blanks.append (hs : Blanks s) (ht : Blanks t) : Blanks (s ++ t) :=
  List.forall_mem_append.mpr ⟨hs, ht⟩

theorem blanks_takeWhile (s : List Char) : Blanks (s.takeWhile isBlank) := all_takeWhile isBlank s

theorem isAscii_of_isAsciiLetter (h : isAsciiLetter c = true) : c.toNat < 0x80 := by
  simp only [isAsciiLetter, Bool.or_eq_true, Bool.and_eq_true, decide_eq_true_eq] at h
  rcases h with ⟨-, hle⟩ | ⟨-, hle⟩
  · have hbound : c.toNat ≤ 122 := hle
    omega
  · have hbound : c.toNat ≤ 90 := hle
    omega

theorem isNamePart_of_isNameStart (h : isNameStart c = true) : isNamePart c = true := by
  rw [isNameStart, Bool.or_eq_true, Bool.or_eq_true, beq_iff_eq, beq_iff_eq] at h
  rcases h with (hletter | rfl) | rfl
  · rw [isNamePart, isWord, if_pos (isAscii_of_isAsciiLetter hletter), isAsciiAlphanumeric, hletter]
    rfl
  · rfl
  · rfl

theorem not_isNamePart_blanks : Expr.blanks.all (fun c => !isNamePart c) = true := by
  decide +kernel

theorem isBlank_of_isNamePart (h : isNamePart c = true) : isBlank c = false := by
  cases hblank : isBlank c with
  | false => rfl
  | true =>
    have hc := List.all_eq_true.mp not_isNamePart_blanks c (Expr.mem_blanks_of_isBlank hblank)
    rw [h] at hc
    cases hc

theorem all_isNamePart_of_isName (h : isName name = true) : ∀ c ∈ name, isNamePart c = true := by
  cases name with
  | nil => cases h
  | cons d name =>
    obtain ⟨hd, hname⟩ := Bool.and_eq_true .. |>.mp h
    intro c hc
    rcases List.mem_cons.mp hc with rfl | hmem
    · exact isNamePart_of_isNameStart hd
    · exact List.all_eq_true.mp hname c hmem

theorem isBlank_of_mem_name (h : isName name = true) : ∀ c ∈ name, isBlank c = false :=
  fun c hc => isBlank_of_isNamePart (all_isNamePart_of_isName h c hc)

theorem exists_cons_of_isName (h : isName name = true) :
    ∃ c tail, name = c :: tail ∧ isNameStart c = true ∧ isBlank c = false := by
  cases name with
  | nil => cases h
  | cons c tail =>
    obtain ⟨hc, -⟩ := Bool.and_eq_true .. |>.mp h
    exact ⟨c, tail, rfl, hc, isBlank_of_mem_name h c List.mem_cons_self⟩

/-- Blanks end a name, and so does what stands behind them if they are left out. -/
theorem takeWhile_isNamePart_append (hs : Blanks s)
    (h : s ≠ [] ∨ t.takeWhile isNamePart = []) : (s ++ t).takeWhile isNamePart = [] := by
  cases s with
  | nil => exact h.resolve_left fun hne => hne rfl
  | cons c s =>
    apply takeWhile_cons_eq_nil
    cases hpart : isNamePart c with
    | false => rfl
    | true =>
      have hblank := hs c List.mem_cons_self
      rw [isBlank_of_isNamePart hpart] at hblank
      cases hblank

end Characters

/-! ### Reading the parts -/

section Reading

variable {mark : Char} {s before rest name item collection : List Char} {key : Option (List Char)}

/-- A name is read to its end, whatever blanks stand in front of it. -/
theorem readName_append (hbefore : Blanks before) (hname : isName name = true)
    (hrest : rest.takeWhile isNamePart = []) :
    readName (before ++ (name ++ rest)) = some (name, rest) := by
  obtain ⟨c, tail, rfl, hc, hblank⟩ := exists_cons_of_isName hname
  have htail : ∀ d ∈ tail, isNamePart d = true := fun d hd =>
    all_isNamePart_of_isName hname d (List.mem_cons_of_mem c hd)
  have htrim : trimStart (before ++ (c :: tail ++ rest)) = c :: (tail ++ rest) :=
    dropWhile_append_cons _ hbefore hblank
  have htake : (tail ++ rest).takeWhile isNamePart = tail :=
    (takeWhile_append_eq_self_iff htail).mpr hrest
  have hdrop : (tail ++ rest).dropWhile isNamePart = rest := by
    rw [List.dropWhile_append_of_pos htail, dropWhile_eq_self hrest]
  unfold readName
  rw [htrim]
  simp only [hc, if_true, htake, hdrop]

theorem exists_of_readName (h : readName s = some (name, rest)) :
    ∃ before, s = before ++ (name ++ rest) ∧ Blanks before ∧ isName name = true ∧
      rest.takeWhile isNamePart = [] := by
  have hsplit : s = s.takeWhile isBlank ++ trimStart s := List.takeWhile_append_dropWhile.symm
  unfold readName at h
  split at h
  · cases h
  · next c t htrim =>
    split at h
    · next hc =>
      obtain ⟨rfl, rfl⟩ := Prod.mk.inj (Option.some.inj h)
      refine ⟨s.takeWhile isBlank, ?_, blanks_takeWhile s, ?_, takeWhile_dropWhile isNamePart t⟩
      · rw [List.cons_append, List.takeWhile_append_dropWhile, ← htrim]
        exact hsplit
      · rw [isName, hc, List.all_takeWhile]
        rfl
    · cases h

theorem readMark_append (mark : Char) (hmark : isBlank mark = false) (hbefore : Blanks before)
    (rest : List Char) : readMark mark (before ++ mark :: rest) = some rest := by
  have htrim : trimStart (before ++ mark :: rest) = mark :: rest :=
    dropWhile_append_cons rest hbefore hmark
  unfold readMark
  rw [htrim]
  simp only [beq_self_eq_true, if_true]

theorem exists_of_readMark (h : readMark mark s = some rest) :
    ∃ before, s = before ++ mark :: rest ∧ Blanks before := by
  have hsplit : s = s.takeWhile isBlank ++ trimStart s := List.takeWhile_append_dropWhile.symm
  unfold readMark at h
  split at h
  · cases h
  · next c t htrim =>
    split at h
    · next hc =>
      obtain rfl := beq_iff_eq.mp hc
      obtain rfl := Option.some.inj h
      refine ⟨s.takeWhile isBlank, ?_, blanks_takeWhile s⟩
      rw [← htrim]
      exact hsplit
    · cases h

theorem Variables.exists_cons {vars : List Char} (h : Variables item key vars) :
    ∃ c tail, vars = c :: tail ∧ isBlank c = false ∧ (key = none → c ≠ '(') := by
  cases h with
  | single hitem =>
    obtain ⟨c, tail, rfl, hc, hblank⟩ := exists_cons_of_isName hitem
    refine ⟨c, tail, rfl, hblank, ?_⟩
    rintro - rfl
    exact absurd hc (by decide)
  | pair => exact ⟨'(', _, rfl, by decide, fun hkey => by cases hkey⟩

/-- The variables of a header are read with what follows them, which must not go on with the name of
a single variable. -/
theorem readVariables_append {vars : List Char} (hbefore : Blanks before)
    (hvars : Variables item key vars) (hrest : key = none → rest.takeWhile isNamePart = []) :
    readVariables (before ++ (vars ++ rest)) = some (item, key, rest) := by
  unfold readVariables
  cases hvars with
  | single hitem =>
    obtain ⟨c, tail, heq, hblank, hne⟩ := (Variables.single hitem).exists_cons
    have hopen : readMark '(' (before ++ (item ++ rest)) = none := by
      have htrim : trimStart (before ++ (c :: tail ++ rest)) = c :: (tail ++ rest) :=
        dropWhile_append_cons _ hbefore hblank
      unfold readMark
      rw [heq, htrim]
      simp only [beq_eq_false_iff_ne.mpr (hne rfl), Bool.false_eq_true, if_false]
    simp only [hopen, readName_append hbefore hitem (hrest rfl), Option.bind_eq_bind,
      Option.bind_some, Option.pure_def]
  | pair hitem hkey hinner hbehind hbetween hafter =>
    have hcomma := fun t => takeWhile_isNamePart_append (t := ',' :: t) hbehind (Or.inr rfl)
    have hclose := takeWhile_isNamePart_append (t := ')' :: rest) hafter (Or.inr rfl)
    simp only [List.cons_append, List.append_assoc, List.nil_append,
      readMark_append '(' (by decide) hbefore, readName_append hinner hitem (hcomma _),
      readMark_append ',' (by decide) hbehind, readName_append hbetween hkey hclose,
      readMark_append ')' (by decide) hafter, Option.bind_eq_bind, Option.bind_some,
      Option.pure_def]

theorem exists_of_readVariables (h : readVariables s = some (item, key, rest)) :
    ∃ before vars, s = before ++ (vars ++ rest) ∧ Blanks before ∧ Variables item key vars := by
  unfold readVariables at h
  split at h
  · next inside hopen =>
    simp only [Option.bind_eq_bind, Option.bind_eq_some_iff, Prod.exists, Option.pure_def,
      Option.some.injEq, Prod.mk.injEq] at h
    obtain ⟨first, s₁, hitem, s₂, hcomma, second, s₃, hkey, s₄, hclose, rfl, rfl, rfl⟩ := h
    obtain ⟨before, rfl, hbefore⟩ := exists_of_readMark hopen
    obtain ⟨inner, rfl, hinner, hfirst, -⟩ := exists_of_readName hitem
    obtain ⟨behind, rfl, hbehind⟩ := exists_of_readMark hcomma
    obtain ⟨between, rfl, hbetween, hsecond, -⟩ := exists_of_readName hkey
    obtain ⟨after, rfl, hafter⟩ := exists_of_readMark hclose
    refine ⟨before, _, ?_, hbefore, .pair hfirst hsecond hinner hbehind hbetween hafter⟩
    simp only [List.cons_append, List.append_assoc, List.nil_append]
  · simp only [Option.bind_eq_bind, Option.bind_eq_some_iff, Prod.exists, Option.pure_def,
      Option.some.injEq, Prod.mk.injEq] at h
    obtain ⟨first, s₁, hitem, rfl, rfl, rfl⟩ := h
    obtain ⟨before, rfl, hbefore, hfirst, -⟩ := exists_of_readName hitem
    exact ⟨before, first, rfl, hbefore, .single hfirst⟩

theorem isEmpty_takeWhile_isBlank {gap : List Char} (hgap : Blanks gap) (hne : gap ≠ [])
    (s : List Char) : ((gap ++ s).takeWhile isBlank).isEmpty = false := by
  cases gap with
  | nil => exact absurd rfl hne
  | cons c gap =>
    rw [List.cons_append, List.takeWhile_cons, hgap c List.mem_cons_self]
    rfl

theorem trim_blanks (hs : Blanks s) : trim s = [] := by
  have hall := trim_append_append hs blanks_nil []
  rwa [List.append_nil, List.append_nil] at hall

theorem blanks_of_trim_eq_nil (h : trim s = []) : Blanks s := by
  obtain ⟨a, b, hsplit, ha, hb⟩ := exists_append_trim_append s
  rw [hsplit, h, List.nil_append]
  exact Blanks.append ha hb

theorem readCollection_of_behind (h : Behind collection rest) :
    readCollection rest = some collection := by
  unfold readCollection
  cases h with
  | @trimmed gap _ after hgap hne hcollection htrim hafter =>
    have hrest : trim (gap ++ (collection ++ after)) = collection := by
      rw [trim_append_append hgap hafter, htrim]
    have hsome : collection.isEmpty = false := List.isEmpty_eq_false_iff.mpr hcollection
    simp only [isEmpty_takeWhile_isBlank hgap hne, hrest, hsome, Bool.false_eq_true, if_false,
      Bool.not_false, if_true]
  | @blank gap c hgap hne hc =>
    have hall : Blanks (gap ++ [c]) := Blanks.append hgap (List.forall_mem_singleton.mpr hc)
    have htake : (gap ++ [c]).takeWhile isBlank = gap ++ [c] := List.takeWhile_eq_self_iff.mpr hall
    have hlength : 2 ≤ (gap ++ [c]).length := by
      have hpos := List.length_pos_iff.mpr hne
      rw [List.length_append, List.length_singleton]
      omega
    have hsome : (gap ++ [c]).isEmpty = false := List.isEmpty_eq_false_iff.mpr (by simp)
    simp only [htake, trim_blanks hall, hsome, hlength, List.isEmpty_nil, Bool.not_true,
      Bool.false_eq_true, if_false, if_true, List.getLast?_concat, Option.map_some]

theorem behind_of_readCollection (h : readCollection rest = some collection) :
    Behind collection rest := by
  unfold readCollection at h
  dsimp only at h
  split at h
  · cases h
  · next hblanks =>
    split at h
    · next hrest =>
      obtain rfl := Option.some.inj h
      obtain ⟨after, hsplit, hafter⟩ := dropEndWhile_append_self isBlank (trimStart rest)
      have hwhole : rest = rest.takeWhile isBlank ++ (trim rest ++ after) := by
        rw [trim, trimEnd, ← hsplit, trimStart, List.takeWhile_append_dropWhile]
      have hbehind : Behind (trim rest) (rest.takeWhile isBlank ++ (trim rest ++ after)) :=
        .trimmed (blanks_takeWhile rest) (by simpa using hblanks) (by simpa using hrest)
          (trim_trim rest) hafter
      rwa [← hwhole] at hbehind
    · next hrest =>
      have hall : Blanks rest := blanks_of_trim_eq_nil (by simpa using hrest)
      split at h
      · next hlength =>
        rw [List.takeWhile_eq_self_iff.mpr hall] at h hlength
        obtain ⟨c, hlast, rfl⟩ := Option.map_eq_some_iff.mp h
        obtain ⟨gap, rfl⟩ := List.getLast?_eq_some_iff.mp hlast
        obtain ⟨hgap, hc⟩ := List.forall_mem_append.mp hall
        refine .blank hgap ?_ (hc c (List.mem_singleton_self c))
        rintro rfl
        rw [List.nil_append, List.length_singleton] at hlength
        omega
      · cases h

/-- A text is a header if it is a front with what may stand behind it. -/
theorem parse_eq_some_iff {header : LoopHeader} : parse s = some header ↔
    ∃ front rest, s = front ++ rest ∧ Front header.item header.key front ∧
      Behind header.collection rest := by
  constructor
  · intro h
    unfold parse at h
    simp only [Option.bind_eq_bind, Option.bind_eq_some_iff, Prod.exists, Option.pure_def] at h
    obtain ⟨item, key, behind, hvariables, h⟩ := h
    obtain ⟨before, vars, rfl, hbefore, hvars⟩ := exists_of_readVariables hvariables
    split at h
    · cases h
    · next hgap =>
      split at h
      · next rest hword =>
        obtain ⟨collection, hcollection, heq⟩ := Option.bind_eq_some_iff.mp h
        obtain rfl := Option.some.inj heq
        have hsplit : behind = behind.takeWhile isBlank ++ ('i' :: 'n' :: rest) := by
          rw [← hword]
          exact List.takeWhile_append_dropWhile.symm
        refine ⟨_, rest, ?_, .mk hbefore hvars (blanks_takeWhile behind) (by simpa using hgap),
          behind_of_readCollection hcollection⟩
        rw [List.append_assoc, List.append_assoc, List.append_assoc, List.cons_append,
          List.cons_append, List.nil_append, ← hsplit]
      · cases h
  · rintro ⟨front, rest, rfl, @⟨before, vars, gap, hbefore, hvars, hgap, hne⟩, hbehind⟩
    have hvariables : readVariables (before ++ (vars ++ (gap ++ 'i' :: 'n' :: rest))) =
        some (header.item, header.key, gap ++ 'i' :: 'n' :: rest) :=
      readVariables_append hbefore hvars fun _ => takeWhile_isNamePart_append hgap (Or.inl hne)
    have hword : trimStart (gap ++ 'i' :: 'n' :: rest) = 'i' :: 'n' :: rest := by
      rw [trimStart_append hgap]
      rfl
    unfold parse
    simp only [List.append_assoc, List.cons_append, List.nil_append, hvariables,
      isEmpty_takeWhile_isBlank hgap hne, hword, readCollection_of_behind hbehind,
      Option.bind_eq_bind, Option.bind_some, Option.pure_def, Bool.false_eq_true, if_false]

end Reading

/-! ### Blanks around a header -/

section Trimmed

variable {s front rest collection item a b : List Char} {key : Option (List Char)} {c : Char}
  {header : LoopHeader}

theorem Front.blanks_append (h : Front item key front) (ha : Blanks a) :
    Front item key (a ++ front) := by
  obtain ⟨hbefore, hvars, hgap, hne⟩ := h
  rw [← List.append_assoc]
  exact .mk (ha.append hbefore) hvars hgap hne

theorem Variables.isBlank_of_mem {vars : List Char} (h : Variables item key vars) :
    (∀ c ∈ item, isBlank c = false) ∧ ∀ name ∈ key, ∀ c ∈ name, isBlank c = false := by
  cases h with
  | single hitem => exact ⟨isBlank_of_mem_name hitem, fun name hname => by cases hname⟩
  | pair hitem hkey =>
    refine ⟨isBlank_of_mem_name hitem, fun name hname => ?_⟩
    obtain rfl := Option.some.inj hname
    exact isBlank_of_mem_name hkey

theorem Behind.ne_nil (h : Behind collection rest) : collection ≠ [] := by
  cases h with
  | trimmed _ _ hcollection => exact hcollection
  | blank => exact List.cons_ne_nil _ _

theorem trim_singleton_ne (hc : isBlank c = true) : trim [c] ≠ [c] := trim_ne_concat hc [c] []

/-- The header of a trimmed text is the header of the text: the collection of a trimmed text does not
end with a blank, so that more blanks do not become part of it. -/
theorem parse_of_parse_trim (h : parse (trim s) = some header) : parse s = some header := by
  obtain ⟨item, key, collection⟩ := header
  obtain ⟨a, b, hsplit, ha, hb⟩ := exists_append_trim_append s
  obtain ⟨front, rest, htrim, hfront, hbehind⟩ := parse_eq_some_iff.mp h
  cases hbehind with
  | @trimmed gap _ after hgap hne hsome hself hafter =>
    refine parse_eq_some_iff.mpr ⟨a ++ front, _, ?_, hfront.blanks_append ha,
      .trimmed hgap hne hsome hself (hafter.append hb)⟩
    rw [hsplit, htrim]
    simp only [List.append_assoc]
  | @blank gap c hgap hne hc =>
    rw [← List.append_assoc] at htrim
    exact absurd htrim (trim_ne_concat hc s _)

/-- A header with a trimmed collection is read from the trimmed text as well. -/
theorem parse_trim_of_parse (h : parse s = some header)
    (htrim : trim header.collection = header.collection) : parse (trim s) = some header := by
  obtain ⟨item, key, collection⟩ := header
  obtain ⟨_, _, rfl, @⟨before, vars, gap, hbefore, hvars, hgap, hne⟩, hbehind⟩ :=
    parse_eq_some_iff.mp h
  cases hbehind with
  | @trimmed space _ after hspace hsome hcontent hself hafter =>
    -- what is left of the text begins with a variable and ends with the collection
    obtain ⟨c, tail, hcons, hblank, -⟩ := hvars.exists_cons
    let inner := vars ++ (gap ++ 'i' :: 'n' :: (space ++ collection))
    have hsplit : before ++ (vars ++ (gap ++ ['i', 'n'])) ++ (space ++ (collection ++ after)) =
        before ++ (inner ++ after) := by
      simp only [inner, List.append_assoc, List.cons_append, List.nil_append]
    have hstart : trimStart inner = inner := by
      simp only [inner, hcons, List.cons_append, trimStart, List.dropWhile_cons, hblank,
        Bool.false_eq_true, if_false]
    have hend : trimEnd inner = inner := by
      have hlast := trimEnd_append_of_trim hcontent hself
        (vars ++ (gap ++ 'i' :: 'n' :: space))
      simpa only [inner, List.append_assoc, List.cons_append] using hlast
    have hshort : trim (before ++ (inner ++ after)) = inner := by
      rw [trim_append_append hbefore hafter, trim, hstart, hend]
    rw [hsplit, hshort]
    refine parse_eq_some_iff.mpr ⟨_, _, ?_, .mk blanks_nil hvars hgap hne,
      .trimmed hspace hsome hcontent hself blanks_nil⟩
    simp only [inner, List.append_assoc, List.cons_append, List.nil_append, List.append_nil]
  | blank _ _ hc => exact absurd htrim (trim_singleton_ne hc)

/-- More than one blank is a gap with one more blank. -/
theorem exists_concat_of_blanks {blanks : List Char} (hblanks : Blanks blanks)
    (hlength : 2 ≤ blanks.length) :
    ∃ gap c, blanks = gap ++ [c] ∧ Blanks gap ∧ gap ≠ [] ∧ isBlank c = true := by
  rcases List.eq_nil_or_concat' blanks with rfl | ⟨gap, c, rfl⟩
  · rw [List.length_nil] at hlength
    omega
  · rw [List.length_append, List.length_singleton] at hlength
    obtain ⟨hgap, hlast⟩ := List.forall_mem_append.mp hblanks
    exact ⟨gap, c, rfl, hgap, List.length_pos_iff.mp (by omega),
      hlast c (List.mem_singleton_self c)⟩

theorem not_dangling_trim (s : List Char) : ¬ Dangling (trim s) := by
  rintro ⟨item, key, front, blanks, hsplit, -, hblanks, hlength⟩
  obtain ⟨gap, c, rfl, -, -, hc⟩ := exists_concat_of_blanks hblanks hlength
  rw [← List.append_assoc] at hsplit
  exact trim_ne_concat hc s _ hsplit

/-- Where a collection is missing, a blank is read as one. -/
theorem Dangling.exists_parse (h : Dangling s) :
    ∃ header, parse s = some header ∧ trim header.collection ≠ header.collection := by
  obtain ⟨item, key, front, blanks, rfl, hfront, hblanks, hlength⟩ := h
  obtain ⟨gap, c, rfl, hgap, hne, hc⟩ := exists_concat_of_blanks hblanks hlength
  exact ⟨⟨item, key, [c]⟩, parse_eq_some_iff.mpr ⟨front, _, rfl, hfront, .blank hgap hne hc⟩,
    trim_singleton_ne hc⟩

theorem dangling_iff (h : parse s = some header) :
    Dangling s ↔ trim header.collection ≠ header.collection := by
  constructor
  · intro hdangling
    obtain ⟨other, hother, htrim⟩ := hdangling.exists_parse
    obtain rfl := Option.some.inj (h.symm.trans hother)
    exact htrim
  · intro htrim
    obtain ⟨item, key, collection⟩ := header
    obtain ⟨front, rest, rfl, hfront, hbehind⟩ := parse_eq_some_iff.mp h
    cases hbehind with
    | trimmed _ _ _ hself => exact absurd hself htrim
    | @blank gap c hgap hne hc =>
      have hpos := List.length_pos_iff.mpr hne
      refine ⟨item, key, front, _, rfl, hfront, hgap.append (List.forall_mem_singleton.mpr hc), ?_⟩
      rw [List.length_append, List.length_singleton]
      omega

end Trimmed

/-- Blanks around a text do not change which header it is, and what is read has no blanks in its
names and none at the ends of its collection, unless the collection is missing and more than one blank
stands in its place. Then the last blank is read as the collection, and the trimmed text is no header. -/
theorem parse_trim_unless_dangling (s : List Char) :
    (¬ Dangling s → parse (trim s) = parse s) ∧
    (Dangling s → parse (trim s) = none ∧ ∃ header, parse s = some header) ∧
    ∀ header, parse s = some header →
      header.collection ≠ [] ∧ (trim header.collection = header.collection ↔ ¬ Dangling s) ∧
      (∀ c ∈ header.item, isBlank c = false) ∧
      ∀ key ∈ header.key, ∀ c ∈ key, isBlank c = false := by
  refine ⟨fun hcomplete => ?_, fun hdangling => ?_, fun header h => ?_⟩
  · cases h : parse s with
    | some header =>
      have htrim : trim header.collection = header.collection :=
        not_not.mp fun hne => hcomplete ((dangling_iff h).mpr hne)
      exact parse_trim_of_parse h htrim
    | none =>
      cases hshort : parse (trim s) with
      | none => rfl
      | some header =>
        rw [parse_of_parse_trim hshort] at h
        cases h
  · obtain ⟨header, h, htrim⟩ := hdangling.exists_parse
    refine ⟨?_, header, h⟩
    cases hshort : parse (trim s) with
    | none => rfl
    | some other =>
      obtain rfl := Option.some.inj (h.symm.trans (parse_of_parse_trim hshort))
      exact absurd ((dangling_iff hshort).mpr htrim) (not_dangling_trim s)
  · obtain ⟨front, rest, -, ⟨-, hvars, -, -⟩, hbehind⟩ := parse_eq_some_iff.mp h
    obtain ⟨hitem, hkey⟩ := hvars.isBlank_of_mem
    refine ⟨hbehind.ne_nil, ?_, hitem, hkey⟩
    rw [dangling_iff h, not_not]

/-- The blanks of a header that names its position as well. -/
theorem parse_trim_unless_dangling_rows :
    parse " ( row,\ti )\nin  rows ".toList = some ⟨"row".toList, some "i".toList, "rows".toList⟩ ∧
    parse (trim " ( row,\ti )\nin  rows ".toList) = parse " ( row,\ti )\nin  rows ".toList := by
  have h : parse " ( row,\ti )\nin  rows ".toList =
      some ⟨"row".toList, some "i".toList, "rows".toList⟩ := by decide
  obtain ⟨hsame, -, hread⟩ := parse_trim_unless_dangling " ( row,\ti )\nin  rows ".toList
  obtain ⟨-, htrim, -⟩ := hread _ h
  exact ⟨h, hsame (htrim.mp (by decide))⟩

/-- Two blanks behind the word `in`. -/
theorem parse_trim_ne :
    parse "x in  ".toList = some ⟨['x'], none, [' ']⟩ ∧ parse (trim "x in  ".toList) = none := by
  decide

end Stencil.Directive.LoopHeader
