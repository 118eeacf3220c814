import Mathlib.Data.List.Basic
import Stencil.Proofs.Meaning

/-!
The heads that rendering writes. A well-formed head with its bindings resolved is well-formed again
and has no directives; evaluating its expressions gives the head that the meaning of a template has.
Tags of the text are written in the same way.
-/
namespace Stencil

open Directive Engine Markup Text

namespace Markup.Head

/-- No attribute is a directive. -/
def Plain (names : Names) (head : Head) : Prop := ∀ a ∈ head.attrs, names.reserves a.name = false

def mapValues (f : List Char → List Char) (head : Head) : Head :=
  ⟨head.name, head.attrs.map fun a => ⟨a.name, f a.value⟩⟩

end Markup.Head

namespace Directive.Names

variable {names : Names}

theorem reserves_eq_false_iff {a : QuotedAttr} :
    names.reserves a.name = false ↔
      a.toAttr.isNamed names.guard = false ∧ a.toAttr.isNamed names.loop = false ∧
        names.target? a.toAttr = none := by
  have htarget : names.target? ⟨a.name, none, []⟩ = names.target? a.toAttr := rfl
  rw [reserves, htarget]
  simp [Attr.isNamed, QuotedAttr.toAttr, and_assoc]

theorem guard?_tag_eq_none_iff {head : Head} :
    names.guard? head.tag = none ↔ ∀ a ∈ head.attrs, a.toAttr.isNamed names.guard = false := by
  simp [guard?, OpenTag.find?, Head.attrs_tag]

theorem loop?_tag_eq_none_iff {head : Head} :
    names.loop? head.tag = none ↔ ∀ a ∈ head.attrs, names.header? a.toAttr = none := by
  simp [loop?, Head.attrs_tag]

theorem header?_eq_none {a : Attr} (h : a.isNamed names.loop = false) :
    names.header? a = none := by
  simp [header?, h]

/-- The target of a binding is a part of the name of the attribute. -/
theorem target_suffix {a : Attr} {target : List Char} (h : names.target? a = some target) :
    target ≠ [] ∧ ∀ c ∈ target, c ∈ a.name := by
  simp only [target?] at h
  split at h
  · next hc =>
    simp only [Bool.and_eq_true, Bool.not_eq_true', List.isEmpty_eq_false_iff] at hc
    obtain rfl := Option.some.inj h
    exact ⟨hc.2, fun c hmem => List.mem_of_mem_drop hmem⟩
  · simp at h

end Directive.Names

namespace Markup.Head

variable {names : Names} {head : Head}

theorem Plain.guard? (h : head.Plain names) : names.guard? head.tag = none :=
  Names.guard?_tag_eq_none_iff.mpr fun a ha => (Names.reserves_eq_false_iff.mp (h a ha)).1

theorem Plain.loop? (h : head.Plain names) : names.loop? head.tag = none :=
  Names.loop?_tag_eq_none_iff.mpr fun a ha =>
    Names.header?_eq_none (Names.reserves_eq_false_iff.mp (h a ha)).2.1

end Markup.Head

/-! ### Sources -/

theorem Directive.fill_quotedAttr {names : Names} {a : QuotedAttr} (ha : a.Wellformed names)
    (hvalue : Spanned a.value) (value : List Char → List Char) :
    Spanned a.source ∧
      fill value a.source = (QuotedAttr.mk a.name (fill value a.value)).source := by
  have hname : '\x7b' ∉ a.name := fun h => (ha.name_chars _ h).2 rfl
  have hstart : '\x7b' ∉ ' ' :: a.name ++ ['=', '"'] := by simp [hname]
  have hend : '\x7b' ∉ ['"'] := by simp
  have hsource : a.source = (' ' :: a.name ++ ['=', '"']) ++ (a.value ++ ['"']) := by
    simp [QuotedAttr.source]
  constructor
  · rw [hsource]
    exact (Spanned.of_notMem hstart).append (hvalue.append (Spanned.of_notMem hend))
  · rw [hsource, fill_append _ (Spanned.of_notMem hstart), fill_append _ hvalue,
      fill_of_notMem _ hstart, fill_of_notMem _ hend]
    simp [QuotedAttr.source]

namespace Markup.Head

variable {names : Names} {head : Head}

theorem notMem_brace_closing (h : head.Readable) : '\x7b' ∉ head.closing := by
  have hname : '\x7b' ∉ head.name := fun hmem => by
    have hc := h.name_chars _ hmem
    exact absurd hc (by decide)
  simp [closing, hname]

/-- The text of a head without directives is filled in value by value. -/
theorem Wellformed.fill_source (h : head.Wellformed names) (hp : head.Plain names)
    (value : List Char → List Char) :
    Spanned head.source ∧ fill value head.source = (head.mapValues (fill value)).source := by
  have hname : '\x7b' ∉ '<' :: head.name := by
    have hclosing := notMem_brace_closing h.readable
    simp only [closing, List.mem_cons, List.mem_append, not_or] at hclosing ⊢
    exact ⟨hclosing.1, hclosing.2.2.1⟩
  have hend : '\x7b' ∉ ['>'] := by simp
  have hattrs : ∀ attrs : List QuotedAttr,
      (∀ a ∈ attrs, a.Wellformed names ∧ names.reserves a.name = false) →
      Spanned (attrs.flatMap QuotedAttr.source) ∧
        fill value (attrs.flatMap QuotedAttr.source) =
          (attrs.map fun a => QuotedAttr.mk a.name (fill value a.value)).flatMap
            QuotedAttr.source := by
    intro attrs hall
    induction attrs with
    | nil => exact ⟨.nil, fill_of_notMem value (by simp)⟩
    | cons a attrs ih =>
      obtain ⟨ha, hplain⟩ := hall a (List.mem_cons_self ..)
      obtain ⟨hsource, hfill⟩ := fill_quotedAttr ha (ha.plain hplain) value
      obtain ⟨hsources, hfills⟩ := ih fun b hb => hall b (List.mem_cons_of_mem _ hb)
      rw [List.flatMap_cons, fill_append value hsource, hfill, hfills]
      exact ⟨hsource.append hsources, rfl⟩
  obtain ⟨hsources, hfills⟩ := hattrs head.attrs fun a ha => ⟨h.attrs a ha, hp a ha⟩
  have hsource : head.source =
      '<' :: head.name ++ (head.attrs.flatMap QuotedAttr.source ++ ['>']) := rfl
  rw [hsource, fill_append value (Spanned.of_notMem hname), fill_append value hsources, hfills,
    fill_of_notMem value hname, fill_of_notMem value hend]
  exact ⟨(Spanned.of_notMem hname).append (hsources.append (Spanned.of_notMem hend)), rfl⟩

end Markup.Head

theorem Engine.mem_escapeQuotes {c : Char} {s : List Char} (h : c ∈ escapeQuotes s) :
    c ≠ '"' ∧ (c ∈ s ∨ c ∈ "&quot;".toList) := by
  obtain ⟨d, hd, hc⟩ := List.mem_flatMap.mp h
  by_cases hq : d = '"'
  · subst hq
    have hmem : c ∈ "&quot;".toList := hc
    refine ⟨?_, Or.inr hmem⟩
    rintro rfl
    exact absurd hmem (by decide)
  · have hmem : c = d := by simpa [hq] using hc
    subst hmem
    exact ⟨hq, Or.inl hd⟩

theorem Engine.notMem_brace_escapeQuotes {s : List Char} (h : '\x7b' ∉ s) :
    '\x7b' ∉ escapeQuotes s := by
  intro hmem
  rcases (mem_escapeQuotes hmem).2 with hs | hq
  · exact h hs
  · exact absurd hq (by decide)

/-! ### Attributes -/

theorem inert_text_iff {v : List Char} : Inert (.text, v) ↔ '<' ∉ v ∧ '\x7b' ∉ v := by
  simp [Inert, Place.active]

theorem inert_attribute_iff {v : List Char} : Inert (.attribute, v) ↔ '"' ∉ v ∧ '\x7b' ∉ v := by
  simp [Inert, Place.active]

theorem inert_binding_iff {v : List Char} : Inert (.binding, v) ↔ '\x7b' ∉ v := by
  simp [Inert, Place.active]

theorem Markup.QuotedAttr.wellformed_of_plain {names : Names} {a : QuotedAttr}
    (hname : ∀ c ∈ a.name, isBlank c = false ∧ c ≠ '\x7b') (hplain : names.reserves a.name = false)
    (hvalue : Spanned a.value) : a.Wellformed names := by
  obtain ⟨-, hloop, htarget⟩ := Names.reserves_eq_false_iff.mp hplain
  refine ⟨hname, ?_, ?_, fun _ => hvalue⟩
  · intro hnamed
    simp [hloop] at hnamed
  · intro target h
    simp [htarget] at h

namespace Engine

variable {e : Engine} {a b : QuotedAttr} {scope : Scope}

/-- An attribute goes, or it is plain and stays with a value of its own, or it is a binding. -/
theorem attrOutput?_cases (ha : a.Wellformed e.names) (scope : Scope) :
    (∀ f, e.attrOutput? scope f a = none) ∨
    (e.names.reserves a.name = false ∧ (∀ f, e.attrOutput? scope f a = some ⟨a.name, f a.value⟩) ∧
      e.attrInserts scope a = (inserted (e.textIn scope) a.value).map fun v => (.attribute, v)) ∨
    (∃ target text, e.names.target? a.toAttr = some target ∧
      (∀ f, e.attrOutput? scope f a = some ⟨target, escapeQuotes text⟩) ∧
      e.attrInserts scope a = [(.binding, text)]) := by
  unfold attrOutput? attrInserts
  by_cases hdrop : (e.isGuard a.toAttr || e.isLoop a.toAttr) = true
  · left
    intro f
    rw [if_pos hdrop]
  · simp only [if_neg hdrop]
    simp only [Bool.or_eq_true, not_or, Bool.not_eq_true] at hdrop
    cases htarget : e.names.target? a.toAttr with
    | none =>
      right
      left
      refine ⟨Names.reserves_eq_false_iff.mpr ⟨hdrop.1, ?_, htarget⟩, fun f => rfl, rfl⟩
      rw [Bool.eq_false_iff]
      intro hnamed
      have hheader := ha.loop hnamed
      rw [← isLoop, hdrop.2] at hheader
      exact absurd hheader (by simp)
    | some target =>
      cases htext : e.boundText? scope a.value with
      | none => exact Or.inl fun f => rfl
      | some text => exact Or.inr (Or.inr ⟨target, text, rfl, fun f => rfl, rfl⟩)

/-- Attributes that are no directives are treated as they are. -/
theorem attrOutput?_of_plain (h : e.names.reserves a.name = false) (f : List Char → List Char) :
    e.attrOutput? scope f a = some ⟨a.name, f a.value⟩ := by
  obtain ⟨hguard, hloop, htarget⟩ := Names.reserves_eq_false_iff.mp h
  simp [attrOutput?, isGuard, isLoop, hguard, Names.header?_eq_none hloop, htarget]

theorem attrInserts_of_plain (h : e.names.reserves a.name = false) :
    e.attrInserts scope a = (inserted (e.textIn scope) a.value).map fun v => (.attribute, v) := by
  obtain ⟨hguard, hloop, htarget⟩ := Names.reserves_eq_false_iff.mp h
  simp [attrInserts, isGuard, isLoop, hguard, Names.header?_eq_none hloop, htarget]

/-- What becomes of a well-formed attribute is readable, well-formed and no directive. -/
theorem attrOutput?_sound {f : List Char → List Char} (hr : a.Readable)
    (ha : a.Wellformed e.names) (hi : ∀ p ∈ e.attrInserts scope a, Inert p)
    (hf : e.names.reserves a.name = false → '"' ∉ f a.value ∧ Spanned (f a.value))
    (h : e.attrOutput? scope f a = some b) :
    b.Readable ∧ b.Wellformed e.names ∧ e.names.reserves b.name = false := by
  rcases attrOutput?_cases ha scope with
    hnone | ⟨hplain, hsome, -⟩ | ⟨target, text, ht, hsome, hins⟩
  · simp [hnone] at h
  · obtain rfl : QuotedAttr.mk a.name (f a.value) = b := by simpa [hsome] using h
    obtain ⟨hquotes, hspanned⟩ := hf hplain
    refine ⟨⟨hr.name_ne_nil, hr.name_chars, hquotes⟩, ?_, hplain⟩
    exact QuotedAttr.wellformed_of_plain ha.name_chars hplain hspanned
  · obtain rfl : QuotedAttr.mk target (escapeQuotes text) = b := by simpa [hsome] using h
    obtain ⟨hne, hsub⟩ := Names.target_suffix ht
    have hbrace : '\x7b' ∉ text := inert_binding_iff.mp (hi _ (by simp [hins]))
    refine ⟨⟨hne, fun c hc => hr.name_chars c (hsub c hc), ?_⟩, ?_, ha.target target ht⟩
    · intro hmem
      exact (mem_escapeQuotes hmem).1 rfl
    · refine QuotedAttr.wellformed_of_plain (fun c hc => ha.name_chars c (hsub c hc))
        (ha.target target ht) ?_
      exact Spanned.of_notMem (notMem_brace_escapeQuotes hbrace)

/-- Bindings can be resolved first and expressions evaluated afterwards. -/
theorem attrOutput?_fill (ha : a.Wellformed e.names) (hi : ∀ p ∈ e.attrInserts scope a, Inert p) :
    e.attrOutput? scope (fill (e.textIn scope)) a =
      (e.attrOutput? scope id a).map fun b => ⟨b.name, fill (e.textIn scope) b.value⟩ := by
  rcases attrOutput?_cases ha scope with hnone | ⟨-, hsome, -⟩ | ⟨target, text, -, hsome, hins⟩
  · simp [hnone]
  · simp [hsome]
  · have hbrace : '\x7b' ∉ text := inert_binding_iff.mp (hi _ (by simp [hins]))
    simp [hsome, fill_of_notMem _ (notMem_brace_escapeQuotes hbrace)]

/-- An evaluated value has no quotes and no braces. -/
theorem fill_value_sound (hr : a.Readable) (ha : a.Wellformed e.names)
    (hi : ∀ p ∈ e.attrInserts scope a, Inert p) (hplain : e.names.reserves a.name = false) :
    '"' ∉ fill (e.textIn scope) a.value ∧ '\x7b' ∉ fill (e.textIn scope) a.value := by
  have hinert : ∀ v ∈ inserted (e.textIn scope) a.value, '"' ∉ v ∧ '\x7b' ∉ v := by
    intro v hv
    refine inert_attribute_iff.mp (hi _ ?_)
    rw [attrInserts_of_plain hplain]
    exact List.mem_map.mpr ⟨v, hv, rfl⟩
  constructor
  · exact notMem_fill _ hr.value_quotes fun v hv => (hinert v hv).1
  · exact Spanned.notMem_fill _ (ha.plain hplain) fun v hv => (hinert v hv).2

theorem notMem_brace_of_attrOutput? (hr : a.Readable) (ha : a.Wellformed e.names)
    (hi : ∀ p ∈ e.attrInserts scope a, Inert p)
    (h : e.attrOutput? scope (fill (e.textIn scope)) a = some b) : '\x7b' ∉ b.value := by
  rcases attrOutput?_cases ha scope with hnone | ⟨hplain, hsome, -⟩ | ⟨target, text, -, hsome, hins⟩
  · simp [hnone] at h
  · obtain rfl : QuotedAttr.mk a.name (fill (e.textIn scope) a.value) = b := by
      simpa [hsome] using h
    exact (fill_value_sound hr ha hi hplain).2
  · obtain rfl : QuotedAttr.mk target (escapeQuotes text) = b := by simpa [hsome] using h
    have hbrace : '\x7b' ∉ text := inert_binding_iff.mp (hi _ (by simp [hins]))
    exact notMem_brace_escapeQuotes hbrace

end Engine

/-! ### Heads -/

/-- A well-formed head without directives and braces in values. -/
structure Markup.Head.Final (names : Names) (head : Head) : Prop where
  wellformed : head.Wellformed names
  plain : head.Plain names
  braces : ∀ a ∈ head.attrs, '\x7b' ∉ a.value

namespace Engine

variable {e : Engine} {head : Head} {scope : Scope}

theorem headOutput_of_plain (h : head.Plain e.names) (scope : Scope) (f : List Char → List Char) :
    e.headOutput scope f head = head.mapValues f := by
  have hattrs : head.attrs.filterMap (e.attrOutput? scope f) =
      head.attrs.filterMap fun a => some ⟨a.name, f a.value⟩ :=
    List.filterMap_congr fun a ha => attrOutput?_of_plain (h a ha) f
  rw [headOutput, Head.mapValues, hattrs, List.filterMap_eq_map']

theorem bound_of_plain (h : head.Plain e.names) (scope : Scope) : e.bound scope head = head := by
  rw [bound, headOutput_of_plain h]
  simp [Head.mapValues]

theorem headOutput_sound {f : List Char → List Char} (h : head.Wellformed e.names)
    (hi : ∀ p ∈ e.headInserts scope head, Inert p)
    (hf : ∀ a ∈ head.attrs, e.names.reserves a.name = false →
      '"' ∉ f a.value ∧ Spanned (f a.value)) :
    (e.headOutput scope f head).Wellformed e.names ∧ (e.headOutput scope f head).Plain e.names := by
  have hattr : ∀ b ∈ (e.headOutput scope f head).attrs,
      b.Readable ∧ b.Wellformed e.names ∧ e.names.reserves b.name = false := by
    intro b hb
    obtain ⟨a, ha, hab⟩ := List.mem_filterMap.mp hb
    refine attrOutput?_sound (h.readable.attrs a ha) (h.attrs a ha) ?_ (hf a ha) hab
    exact fun p hp => hi p (List.mem_flatMap.mpr ⟨a, ha, hp⟩)
  refine ⟨⟨⟨h.readable.name_start, h.readable.name_chars, fun b hb => (hattr b hb).1⟩, h.full,
    fun b hb => (hattr b hb).2.1⟩, fun b hb => (hattr b hb).2.2⟩

theorem bound_sound (h : head.Wellformed e.names) (hi : ∀ p ∈ e.headInserts scope head, Inert p) :
    (e.bound scope head).Wellformed e.names ∧ (e.bound scope head).Plain e.names :=
  headOutput_sound h hi fun a ha hplain =>
    ⟨(h.readable.attrs a ha).value_quotes, (h.attrs a ha).plain hplain⟩

theorem resolved_eq_mapValues (h : head.Wellformed e.names)
    (hi : ∀ p ∈ e.headInserts scope head, Inert p) :
    e.resolved scope head = (e.bound scope head).mapValues (fill (e.textIn scope)) := by
  have hattrs : head.attrs.filterMap (e.attrOutput? scope (fill (e.textIn scope))) =
      head.attrs.filterMap fun a =>
        (e.attrOutput? scope id a).map fun b => ⟨b.name, fill (e.textIn scope) b.value⟩ :=
    List.filterMap_congr fun a ha => attrOutput?_fill (h.attrs a ha) fun p hp =>
      hi p (List.mem_flatMap.mpr ⟨a, ha, hp⟩)
  rw [resolved, bound, headOutput, headOutput, Head.mapValues, hattrs, List.map_filterMap]

theorem resolved_final (h : head.Wellformed e.names)
    (hi : ∀ p ∈ e.headInserts scope head, Inert p) : (e.resolved scope head).Final e.names := by
  have hattr : ∀ a ∈ head.attrs, ∀ p ∈ e.attrInserts scope a, Inert p :=
    fun a ha p hp => hi p (List.mem_flatMap.mpr ⟨a, ha, hp⟩)
  obtain ⟨hwell, hplain⟩ := headOutput_sound (f := fill (e.textIn scope)) h hi
    fun a ha hp => by
      have hvalue := fill_value_sound (h.readable.attrs a ha) (h.attrs a ha) (hattr a ha) hp
      exact ⟨hvalue.1, Spanned.of_notMem hvalue.2⟩
  refine ⟨hwell, hplain, ?_⟩
  intro b hb
  obtain ⟨a, ha, hab⟩ := List.mem_filterMap.mp hb
  exact notMem_brace_of_attrOutput? (h.readable.attrs a ha) (h.attrs a ha) (hattr a ha) hab

/-- The edit of an attribute has the text of what becomes of it. -/
theorem edited_attr {a : QuotedAttr} (hr : a.Readable) (ha : a.Wellformed e.names)
    (hv : (e.names.target? a.toAttr).isSome = true →
      e.valueOf scope a.value = .ok (e.valueIn scope a.value))
    {stripped : Attr → Bool} (hs : stripped a.toAttr = (e.isGuard a.toAttr || e.isLoop a.toAttr)) :
    Part.edited (fun a => if stripped a then .ok .drop else e.bindingEdit scope a)
        (.attr a.toAttr) =
      .ok ((e.attrOutput? scope id a).elim [] QuotedAttr.source) := by
  have hindent : a.toAttr.indent = [' '] := by
    obtain ⟨c, name, hname⟩ := List.exists_cons_of_ne_nil hr.name_ne_nil
    have hc : isBlank c = false := (ha.name_chars c (by simp [hname])).1
    have hspace : isBlank ' ' = true := by decide
    simp [Attr.indent, QuotedAttr.toAttr, QuotedAttr.source, hname, hspace, hc]
  rw [Part.edited, attrOutput?, hs]
  by_cases hdrop : (e.isGuard a.toAttr || e.isLoop a.toAttr) = true
  · simp only [if_pos hdrop]
    rfl
  · simp only [if_neg hdrop]
    cases htarget : e.names.target? a.toAttr with
    | none =>
      rw [bindingEdit, htarget]
      rfl
    | some target =>
      have hvalue : a.toAttr.value.getD [] = a.value := rfl
      rw [bindingEdit_eq htarget (hv (by rw [htarget]; rfl)), hvalue]
      cases e.boundText? scope a.value with
      | none => rfl
      | some text =>
        simp only [bind, Except.bind, pure, Except.pure, Edit.apply, hindent]
        simp [QuotedAttr.source]

/-- Writing the tag of a head again gives the head with its bindings resolved. -/
theorem outputTag_eq (h : head.Wellformed e.names)
    (hv : ∀ a ∈ head.attrs, (e.names.target? a.toAttr).isSome = true →
      e.valueOf scope a.value = .ok (e.valueIn scope a.value))
    {stripped : Attr → Bool}
    (hs : ∀ a ∈ head.attrs, stripped a.toAttr = (e.isGuard a.toAttr || e.isLoop a.toAttr)) :
    e.outputTag scope stripped head.tag = .ok (e.bound scope head).source := by
  have htexts : concatM (Part.edited fun a =>
        if stripped a then .ok .drop else e.bindingEdit scope a) head.tag.parts =
      .ok (head.attrs.flatMap fun a => (e.attrOutput? scope id a).elim [] QuotedAttr.source) := by
    rw [Head.tag, concatM_map]
    exact concatM_eq_ok fun a ha =>
      edited_attr (h.readable.attrs a ha) (h.attrs a ha) (hv a ha) (hs a ha)
  have hattrs : ∀ attrs : List QuotedAttr,
      (attrs.flatMap fun a => (e.attrOutput? scope id a).elim [] QuotedAttr.source) =
        (attrs.filterMap (e.attrOutput? scope id)).flatMap QuotedAttr.source := by
    intro attrs
    induction attrs with
    | nil => rfl
    | cons a attrs ih =>
      rw [List.flatMap_cons, List.filterMap_cons, ih]
      cases e.attrOutput? scope id a <;> rfl
  rw [outputTag, OpenTag.rebuild_eq_map, htexts, hattrs]
  simp [Except.map, bound, headOutput, Head.source, Head.tag]

end Engine

namespace Markup.Head.Final

variable {e : Engine} {head : Head} (h : head.Final e.names)

include h

theorem mapValues_fill (value : List Char → List Char) : head.mapValues (fill value) = head := by
  have hattrs : head.attrs.map (fun a => QuotedAttr.mk a.name (fill value a.value)) =
      head.attrs.map id :=
    List.map_congr_left fun a ha => by rw [fill_of_notMem value (h.braces a ha)]; rfl
  rw [Head.mapValues, hattrs, List.map_id]

theorem resolved (scope : Scope) : e.resolved scope head = head := by
  rw [Engine.resolved, headOutput_of_plain h.plain, h.mapValues_fill]

theorem headInserts (scope : Scope) : e.headInserts scope head = [] := by
  rw [Engine.headInserts, List.flatMap_eq_nil_iff]
  intro a ha
  rw [attrInserts_of_plain (h.plain a ha),
    inserted_of_spanless _ (spanless_of_notMem (h.braces a ha))]
  rfl

end Markup.Head.Final

end Stencil
