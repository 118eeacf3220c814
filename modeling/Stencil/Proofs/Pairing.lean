import Stencil.Proofs.SegmentBoundaries

/-!
The element that a closing tag ends. What stands in front of the closing tag is scanned as if it
stood alone, inner elements of the same name are closed inside, and replacing elements in the whole
replaces them in the inner text.
-/
namespace Stencil.Markup

open Text

/-! ### Depth -/

/-- How many elements of a name are open behind segments; none if one is closed that was opened in
front of `depth` elements. -/
def depthAfter (name : List Char) (depth : Nat) : List Segment → Option Nat
  | [] => some depth
  | segment :: rest =>
    match segment.closing? name, depth with
    | some _, 0 => none
    | some _, depth + 1 => depthAfter name depth rest
    | none, depth => depthAfter name (if segment.opens name then depth + 1 else depth) rest

variable {name : List Char} {segment : Segment} {source : List Char}

theorem depthAfter_zero (h : segment.closing? name = some source) (rest : List Segment) :
    depthAfter name 0 (segment :: rest) = none := by
  unfold depthAfter
  simp only [h]

theorem depthAfter_succ (depth : Nat) (h : segment.closing? name = some source)
    (rest : List Segment) :
    depthAfter name (depth + 1) (segment :: rest) = depthAfter name depth rest := by
  conv => left; unfold depthAfter
  simp only [h]

theorem depthAfter_cons (depth : Nat) (h : segment.closing? name = none) (rest : List Segment) :
    depthAfter name depth (segment :: rest) =
      depthAfter name (if segment.opens name then depth + 1 else depth) rest := by
  conv => left; unfold depthAfter
  simp only [h]

/-- Some depth is reached in front of the end, too. -/
theorem exists_depthAfter_suffix {depth k : Nat} {a b : List Segment}
    (h : depthAfter name depth (a ++ b) = some k) :
    ∃ depth', depthAfter name depth' b = some k := by
  induction a generalizing depth with
  | nil => exact ⟨depth, h⟩
  | cons segment a ih =>
    rw [List.cons_append] at h
    cases hc : segment.closing? name with
    | none =>
      rw [depthAfter_cons depth hc] at h
      exact ih h
    | some source =>
      cases depth with
      | zero => simp [depthAfter_zero hc] at h
      | succ depth =>
        rw [depthAfter_succ depth hc] at h
        exact ih h

/-- As long as an open element is not closed, the depth stays above the one in front of it. -/
theorem lt_depthAfter_of_closingIn_eq_none {depth inside k : Nat} {l : List Segment}
    (hnone : closingIn name inside l = none)
    (h : depthAfter name (depth + 1 + inside) l = some k) : depth < k := by
  induction l generalizing inside with
  | nil =>
    simp only [depthAfter, Option.some.injEq] at h
    omega
  | cons segment l ih =>
    cases hc : segment.closing? name with
    | none =>
      rw [closingIn_cons inside hc, Option.map_eq_none_iff] at hnone
      rw [depthAfter_cons _ hc] at h
      by_cases hopens : segment.opens name = true
      · rw [if_pos hopens] at hnone h
        exact ih hnone h
      · rw [if_neg hopens] at hnone h
        exact ih hnone h
    | some source =>
      cases inside with
      | zero => simp [closingIn_zero hc] at hnone
      | succ inside =>
        rw [closingIn_succ inside hc, Option.map_eq_none_iff] at hnone
        rw [← Nat.add_assoc, depthAfter_succ _ hc] at h
        exact ih hnone h

/-! ### Closing tags in a longer list -/

theorem closingIn_append_of_some {depth : Nat} {l : List Segment} {c : Closing}
    (h : closingIn name depth l = some c) (more : List Segment) :
    closingIn name depth (l ++ more) = some ⟨c.inner, c.closing, c.rest ++ more⟩ ∧
      c.rest.length < l.length ∧ ∃ before, l = before ++ c.rest := by
  induction l generalizing depth c with
  | nil => simp [closingIn_nil] at h
  | cons segment l ih =>
    rw [List.cons_append]
    cases hc : segment.closing? name with
    | none =>
      rw [closingIn_cons depth hc] at h ⊢
      obtain ⟨c', hc', rfl⟩ := Option.map_eq_some_iff.mp h
      obtain ⟨happend, hlt, before, hl⟩ := ih hc'
      rw [happend]
      exact ⟨rfl, Nat.lt_succ_of_lt hlt, segment :: before, congrArg (segment :: ·) hl⟩
    | some source =>
      cases depth with
      | zero =>
        rw [closingIn_zero hc] at h ⊢
        obtain rfl := Option.some.inj h
        exact ⟨rfl, Nat.lt_succ_self _, [segment], rfl⟩
      | succ depth =>
        rw [closingIn_succ depth hc] at h ⊢
        obtain ⟨c', hc', rfl⟩ := Option.map_eq_some_iff.mp h
        obtain ⟨happend, hlt, before, hl⟩ := ih hc'
        rw [happend]
        exact ⟨rfl, Nat.lt_succ_of_lt hlt, segment :: before, congrArg (segment :: ·) hl⟩

theorem closingIn_append_of_none {depth : Nat} {l more : List Segment}
    (h : closingIn name depth l = none) (hmore : ∀ segment ∈ more, segment.closing? name = none) :
    closingIn name depth (l ++ more) = none := by
  induction l generalizing depth with
  | nil =>
    induction more generalizing depth with
    | nil => rfl
    | cons segment more ih =>
      have hrest : closingIn name (if segment.opens name then depth + 1 else depth)
          ([] ++ more) = none :=
        ih (fun s hs => hmore s (List.mem_cons_of_mem _ hs)) (closingIn_nil name _)
      rw [List.nil_append] at hrest ⊢
      rw [closingIn_cons depth (hmore segment (List.mem_cons_self ..)), hrest]
      rfl
  | cons segment l ih =>
    rw [List.cons_append]
    cases hc : segment.closing? name with
    | none =>
      rw [closingIn_cons depth hc, Option.map_eq_none_iff] at h ⊢
      exact ih h
    | some source =>
      cases depth with
      | zero => simp [closingIn_zero hc] at h
      | succ depth =>
        rw [closingIn_succ depth hc, Option.map_eq_none_iff] at h ⊢
        exact ih h

theorem source_eq_of_closing? (h : segment.closing? name = some source) :
    segment.source = source := by
  cases segment with
  | closeTag other _ =>
    rw [Segment.closing?, Option.ite_none_right_eq_some] at h
    exact Option.some.inj h.2
  | text _ | comment _ | openTag _ => simp [Segment.closing?] at h

theorem exists_passed_of_pairFrom {depth : Nat} {passed l : List Segment} {p : Pairing}
    (h : pairFrom name depth passed l = some p) :
    ∃ more close, p.inner = passed.reverse ++ more ∧ l = more ++ close :: p.rest ∧
      close.closing? name = some p.closing ∧ depthAfter name depth more = some 0 := by
  fun_induction pairFrom name depth passed l with
  | case1 => simp at h
  | case2 passed segment rest source hc =>
    obtain rfl := Option.some.inj h
    exact ⟨[], segment, (List.append_nil _).symm, rfl, hc, rfl⟩
  | case3 passed segment rest source depth hc ih =>
    obtain ⟨more, close, hinner, rfl, hclose, hdepth⟩ := ih h
    refine ⟨segment :: more, close, ?_, rfl, hclose, ?_⟩
    · rw [hinner, List.reverse_cons, List.append_assoc, List.singleton_append]
    · rw [depthAfter_succ depth hc, hdepth]
  | case4 passed segment rest depth hc ih =>
    obtain ⟨more, close, hinner, rfl, hclose, hdepth⟩ := ih h
    refine ⟨segment :: more, close, ?_, rfl, hclose, ?_⟩
    · rw [hinner, List.reverse_cons, List.append_assoc, List.singleton_append]
    · rw [depthAfter_cons depth hc, hdepth]

/-- What a pairing passes leaves no element open and stands in front of its closing tag, and the
rest stands behind that. -/
theorem exists_split_of_pairFrom {depth : Nat} {l : List Segment} {p : Pairing}
    (h : pairFrom name depth [] l = some p) :
    ∃ close, l = p.inner ++ close :: p.rest ∧ close.closing? name = some p.closing ∧
      depthAfter name depth p.inner = some 0 := by
  obtain ⟨more, close, hinner, hsplit, hclose, hdepth⟩ := exists_passed_of_pairFrom h
  rw [List.reverse_nil, List.nil_append] at hinner
  rw [hinner]
  exact ⟨close, hsplit, hclose, hdepth⟩

theorem exists_split_of_pair? {l : List Segment} {p : Pairing} (h : pair? name l = some p) :
    ∃ close, l = p.inner ++ close :: p.rest ∧ close.closing? name = some p.closing := by
  obtain ⟨close, hsplit, hclose, -⟩ := exists_split_of_pairFrom h
  exact ⟨close, hsplit, hclose⟩

/-! ### Inner texts -/

/-- A closing tag behind segments that leave no element open. -/
theorem closingIn_of_depthAfter {depth : Nat} {l : List Segment}
    (h : depthAfter name depth l = some 0) (hclose : segment.closing? name = some source)
    (rest : List Segment) :
    closingIn name depth (l ++ segment :: rest) = some ⟨sources l, source, rest⟩ := by
  induction l generalizing depth with
  | nil =>
    obtain rfl := Option.some.inj h
    exact closingIn_zero hclose rest
  | cons s l ih =>
    rw [List.cons_append]
    cases hc : s.closing? name with
    | none =>
      rw [depthAfter_cons depth hc] at h
      rw [closingIn_cons depth hc, ih h]
      rfl
    | some _ =>
      cases depth with
      | zero => simp [depthAfter_zero hc] at h
      | succ depth =>
        rw [depthAfter_succ depth hc] at h
        rw [closingIn_succ depth hc, ih h]
        rfl

/-- A text in front of the closing tag of an element is scanned as if it stood alone. -/
theorem segments_of_closingIn {y rest inner : List Char}
    (hy : readMarkup y = some (segment, rest)) {depth : Nat} {c : Closing}
    (h : closingIn name depth (segments (inner ++ '<' :: y)) = some c) (hinner : c.inner = inner) :
    segments (inner ++ '<' :: y) = segments inner ++ segment :: segments rest ∧
      depthAfter name depth (segments inner) = some 0 := by
  obtain ⟨p, hp, rfl⟩ := Option.map_eq_some_iff.mp h
  obtain ⟨close, hsplit, -, hdepth⟩ := exists_split_of_pairFrom hp
  obtain ⟨hfront, hback⟩ := segments_of_append hsplit
  have hsources : sources p.inner ++ sources (close :: p.rest) = inner ++ '<' :: y := by
    rw [← sources_append, ← hsplit, sources_segments]
  have hpassed : sources p.inner = inner := hinner
  rw [hpassed, List.append_cancel_left_eq] at hsources
  rw [hpassed] at hfront
  rw [hsources, segments_markup hy] at hback
  rw [hsplit, hfront, hback]
  exact ⟨rfl, hdepth⟩

/-- Whether there is only plain text, as something read off segments. -/
def plainFold : TextFold Prop where
  read l := ∀ segment ∈ l, ∃ source, segment = .text source
  add _ p := p
  add_nil _ := rfl
  add_append _ _ _ := rfl
  read_text _ _ := by simp

theorem segment_eq_text_of_notMem {s : List Char} (h : '<' ∉ s) (hmem : segment ∈ segments s) :
    ∃ source, segment = .text source := by
  have hread := plainFold.read_append [] h
  rw [List.append_nil] at hread
  exact hread.mpr (by simp [plainFold, segments_nil]) segment hmem

/-! ### Replacing inside an element -/

theorem eqIgnoringCase_congr {a b : List Char} (h : eqIgnoringCase a b = true) (c : List Char) :
    eqIgnoringCase c a = eqIgnoringCase c b := by
  rw [eqIgnoringCase, beq_iff_eq] at h
  rw [eqIgnoringCase, eqIgnoringCase, h]

theorem closing?_congr {a b : List Char} (h : eqIgnoringCase a b = true) (segment : Segment) :
    segment.closing? a = segment.closing? b := by
  cases segment with
  | closeTag n source => rw [Segment.closing?, Segment.closing?, eqIgnoringCase_congr h]
  | text source | comment source | openTag t => rfl

theorem opens_congr {a b : List Char} (h : eqIgnoringCase a b = true) (segment : Segment) :
    segment.opens a = segment.opens b := by
  cases segment with
  | openTag t => rw [Segment.opens, Segment.opens, eqIgnoringCase_congr h]
  | text source | comment source | closeTag n source => rfl

theorem closingIn_congr {a b : List Char} (h : eqIgnoringCase a b = true) (depth : Nat)
    (l : List Segment) : closingIn a depth l = closingIn b depth l := by
  induction l generalizing depth with
  | nil => rfl
  | cons segment l ih =>
    cases hc : segment.closing? b with
    | none =>
      rw [closingIn_cons depth ((closing?_congr h segment).trans hc), closingIn_cons depth hc,
        opens_congr h, ih]
    | some source =>
      cases depth with
      | zero =>
        rw [closingIn_zero ((closing?_congr h segment).trans hc), closingIn_zero hc]
      | succ depth =>
        rw [closingIn_succ depth ((closing?_congr h segment).trans hc), closingIn_succ depth hc, ih]

theorem unmarked_of_closing? {α : Type} {mark? : OpenTag → Option α}
    (h : segment.closing? name = some source) : Unmarked mark? segment := by
  rintro t rfl
  simp [Segment.closing?] at h

/-- A closing tag closes one name only. -/
theorem closing?_eq_none {other : List Char} (h : segment.closing? name = some source)
    (hne : ¬eqIgnoringCase other name = true) : segment.closing? other = none := by
  cases hc : segment.closing? other with
  | none => rfl
  | some src =>
    cases segment with
    | closeTag n _ =>
      simp only [Segment.closing?, Option.ite_none_right_eq_some] at h hc
      have hn := h.1
      have ho := hc.1
      rw [eqIgnoringCase, beq_iff_eq] at hn ho hne
      exact absurd (ho.symm.trans hn) hne
    | text _ | comment _ | openTag _ => simp [Segment.closing?] at h

/-- A tag that is not closed in front of the closing tag of an element around it is not closed
behind it either. -/
theorem closingIn_eq_none_of_depthAfter {t : OpenTag} {depth : Nat} {l tail : List Segment}
    (ht : t.isEmptyElement = false) (h : depthAfter name depth (.openTag t :: l) = some 0)
    (hclose : segment.closing? name = some source)
    (htail : ∀ s ∈ tail, ∀ n, s.closing? n = none) (hnone : closingIn t.name 0 l = none) :
    closingIn t.name 0 (l ++ segment :: tail) = none := by
  by_cases hname : eqIgnoringCase t.name name = true
  · have hopens : (Segment.openTag t).opens name = true := by simp [Segment.opens, hname, ht]
    rw [depthAfter_cons depth rfl, if_pos hopens] at h
    rw [closingIn_congr hname] at hnone
    exact absurd (lt_depthAfter_of_closingIn_eq_none hnone h) (Nat.not_lt_zero _)
  · refine closingIn_append_of_none hnone fun s hs => ?_
    rcases List.mem_cons.mp hs with rfl | hs
    · exact closing?_eq_none hclose hname
    · exact htail s hs _

/-- Elements inside an element are replaced as in its inner text alone, if tags that are not closed
are dropped. -/
theorem Replacement.run_append_closing {α ε : Type} (r : Replacement α ε)
    (hdrop : ∀ mark, r.unclosed mark = .ok .dropTag) {depth : Nat} {l tail : List Segment}
    (h : depthAfter name depth l = some 0) (hclose : segment.closing? name = some source)
    (htail : ∀ s ∈ tail, (∀ n, s.closing? n = none) ∧ Unmarked r.mark? s) :
    r.run (l ++ segment :: tail) = (r.run l).map (· ++ sources (segment :: tail)) := by
  match l with
  | [] =>
    rw [List.nil_append, r.run_of_unmarked, r.run_nil]
    · simp [Except.map]
    · intro s hs
      rcases List.mem_cons.mp hs with rfl | hs
      · exact unmarked_of_closing? hclose
      · exact (htail s hs).2
  | x :: l =>
    obtain ⟨depth', hrest⟩ := exists_depthAfter_suffix (a := [x]) h
    rw [List.cons_append]
    by_cases hx : Unmarked r.mark? x
    · rw [r.run_unmarked hx, r.run_unmarked hx, run_append_closing r hdrop hrest hclose htail,
        map_append_comm]
    · obtain ⟨t, ht⟩ := Classical.not_forall.mp hx
      obtain ⟨rfl, hmark⟩ := Classical.not_imp.mp ht
      obtain ⟨mark, hmark⟩ := Option.ne_none_iff_exists'.mp hmark
      cases hempty : t.isEmptyElement with
      | true =>
        rw [r.run_emptyElement _ hmark hempty, r.run_emptyElement _ hmark hempty,
          run_append_closing r hdrop hrest hclose htail, bind_append_comm]
      | false =>
        cases hc : closingIn t.name 0 l with
        | some c =>
          obtain ⟨happend, hlt, before, hl⟩ := closingIn_append_of_some hc (segment :: tail)
          have hbehind := hrest
          rw [hl] at hbehind
          obtain ⟨depth'', hbehind⟩ := exists_depthAfter_suffix hbehind
          rw [r.run_element hmark hempty happend, r.run_element hmark hempty hc,
            run_append_closing r hdrop hbehind hclose htail, bind_append_comm]
        | none =>
          have hnone := closingIn_eq_none_of_depthAfter hempty h hclose
            (fun s hs => (htail s hs).1) hc
          have hpair : ∀ {l : List Segment}, closingIn t.name 0 l = none → pair? t.name l = none :=
            fun h => Option.map_eq_none_iff.mp h
          rw [r.run_unclosed hmark hempty (hpair hnone), r.run_unclosed hmark hempty (hpair hc),
            hdrop]
          exact run_append_closing r hdrop hrest hclose htail
termination_by l.length
decreasing_by
  all_goals simp only [List.length_cons]
  all_goals omega

end Stencil.Markup
