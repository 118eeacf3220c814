import Stencil.Library.Arithmetic
import Stencil.Proofs.SortedSequence

/-!
The extreme of some items. Each item is compared only with the best one so far, and the order of
values is not transitive. Still the last best item is at least as extreme as every other one: the
best item changes only for one that is strictly more extreme, and no strict comparison is part of a
triple that breaks the order.
-/
namespace Stencil

namespace Value

variable {a b c : Value} {wanted : Ordering} {kind : Kind}

/-- Two values compare as wanted or as equal. -/
def Leads (wanted : Ordering) (a b : Value) : Prop :=
  a.compare? b = some wanted ∨ a.compare? b = some .eq

theorem leads_gt_iff : Leads .gt a b ↔ b.AtMost a := by
  rw [Leads, AtMost, compare?_swap a b]
  cases a.compare? b with
  | none => simp
  | some o => cases o <;> decide

theorem compare?_self (h : a.orderKind? = some kind) : a.compare? a = some .eq := by
  obtain ⟨o, ho⟩ := exists_compare?_iff.mpr ⟨kind, h, h⟩
  have hswap := compare?_swap a a
  rw [ho] at hswap ⊢
  cases o with
  | eq => rfl
  | lt | gt => exact absurd (Option.some.inj hswap) (by decide)

/-- A strict comparison goes on to everything that the second value leads. -/
theorem Leads.of_compare? (hwanted : wanted = .lt ∨ wanted = .gt)
    (hab : a.compare? b = some wanted) (hbc : b.Leads wanted c) : a.Leads wanted c := by
  by_contra hac
  rcases hwanted with rfl | rfl
  · obtain ⟨m, n, x, rfl, rfl, rfl, -, hm, -⟩ :=
      (not_atMost_trans_iff a b c).mp ⟨.inl hab, hbc, hac⟩
    have heq : (int m).compare? (float x) = some .eq := hm
    rw [hab] at heq
    contradiction
  · have hba : b.AtMost a := leads_gt_iff.mp (.inl hab)
    rw [leads_gt_iff] at hbc hac
    obtain ⟨m, n, x, rfl, rfl, rfl, -, -, hn⟩ :=
      (not_atMost_trans_iff c b a).mp ⟨hbc, hba, hac⟩
    have heq : (int n).compare? (float x) = some .eq := hn
    rw [hab] at heq
    contradiction

end Value

namespace Library.Arithmetic

open Sequence (Sortable sortable_iff)

variable {wanted : Ordering} {best v r : Value} {seen rest items args : List Value} {kind : Kind}

/-- One of the items, which compares as wanted or as equal with every one of them. -/
structure IsExtreme (wanted : Ordering) (items : List Value) (r : Value) : Prop where
  mem : r ∈ items
  leads : ∀ v ∈ items, r.Leads wanted v

theorem isExtreme_singleton (h : v.orderKind? = some kind) : IsExtreme wanted [v] v where
  mem := List.mem_singleton_self v
  leads w hw := by
    obtain rfl := List.mem_singleton.mp hw
    exact .inr (Value.compare?_self h)

/-- The best item is compared with an item of its kind only. -/
theorem exists_moreExtreme_iff :
    (∃ r, moreExtreme wanted best v = .ok r) ↔
      ∃ kind, v.orderKind? = some kind ∧ best.orderKind? = some kind := by
  rw [← Value.exists_compare?_iff, moreExtreme]
  cases v.compare? best with
  | none => simp [complain]
  | some o => simp

/-- The more extreme of two items is the new one if it comes first in the wanted order. -/
theorem moreExtreme_cases (h : moreExtreme wanted best v = .ok r) :
    (v.compare? best = some wanted ∧ r = v) ∨
      (∃ o, v.compare? best = some o ∧ o ≠ wanted ∧ r = best) := by
  rw [moreExtreme] at h
  cases hcompare : v.compare? best with
  | none =>
    rw [hcompare] at h
    contradiction
  | some o =>
    rw [hcompare] at h
    have hr : (if o == wanted then v else best) = r := Except.ok.inj h
    by_cases hwins : o = wanted
    · rw [if_pos (by rwa [beq_iff_eq])] at hr
      exact .inl ⟨congrArg some hwins, hr.symm⟩
    · rw [if_neg (by rwa [beq_iff_eq])] at hr
      exact .inr ⟨o, rfl, hwins, hr.symm⟩

theorem orderKind?_of_moreExtreme (h : moreExtreme wanted best v = .ok r)
    (hbest : best.orderKind? = some kind) :
    v.orderKind? = some kind ∧ r.orderKind? = some kind := by
  obtain ⟨kind', hv, hbest'⟩ := exists_moreExtreme_iff.mp ⟨r, h⟩
  obtain rfl : kind = kind' := Option.some.inj (hbest.symm.trans hbest')
  rcases moreExtreme_cases h with ⟨-, rfl⟩ | ⟨o, -, -, rfl⟩
  · exact ⟨hv, hv⟩
  · exact ⟨hv, hbest⟩

/-- One comparison keeps the extreme of what has been seen. -/
theorem IsExtreme.moreExtreme (hwanted : wanted = .lt ∨ wanted = .gt)
    (h : IsExtreme wanted seen best) (hstep : moreExtreme wanted best v = .ok r) :
    IsExtreme wanted (seen ++ [v]) r := by
  have hsplit {p : Value → Prop} (hseen : ∀ w ∈ seen, p w) (hv : p v) : ∀ w ∈ seen ++ [v], p w := by
    intro w hw
    rcases List.mem_append.mp hw with hw | hw
    · exact hseen w hw
    · rwa [List.mem_singleton.mp hw]
  rcases moreExtreme_cases hstep with ⟨hwins, rfl⟩ | ⟨o, ho, hloses, rfl⟩
  · obtain ⟨kind, hr, -⟩ := exists_moreExtreme_iff.mp ⟨r, hstep⟩
    refine ⟨List.mem_append_right _ (List.mem_singleton_self r), hsplit ?_ ?_⟩
    · intro w hw
      exact .of_compare? hwanted hwins (h.leads w hw)
    · exact .inr (Value.compare?_self hr)
  · refine ⟨List.mem_append_left _ h.mem, hsplit h.leads ?_⟩
    rw [Value.Leads, Value.compare?_swap v r, ho]
    rcases hwanted with rfl | rfl <;> cases o <;> simp at hloses ⊢

/-- From an extreme of its kind on, all comparisons succeed if all further items are of that kind,
and they lead to an extreme. -/
theorem foldlM_moreExtreme (rest : List Value) (hwanted : wanted = .lt ∨ wanted = .gt)
    (hextreme : IsExtreme wanted seen best) (hbest : best.orderKind? = some kind) :
    ((∃ r, rest.foldlM (moreExtreme wanted) best = .ok r) ↔
        ∀ v ∈ rest, v.orderKind? = some kind) ∧
      ∀ r, rest.foldlM (moreExtreme wanted) best = .ok r → IsExtreme wanted (seen ++ rest) r := by
  induction rest generalizing best seen with
  | nil =>
    refine ⟨⟨fun _ => List.forall_mem_nil _, fun _ => ⟨best, rfl⟩⟩, fun r hr => ?_⟩
    obtain rfl : best = r := Except.ok.inj hr
    rwa [List.append_nil]
  | cons v rest ih =>
    rw [List.forall_mem_cons, List.foldlM_cons]
    cases hstep : moreExtreme wanted best v with
    | error e =>
      refine ⟨⟨?_, ?_⟩, ?_⟩
      · rintro ⟨r, hr⟩
        contradiction
      · rintro ⟨hv, -⟩
        obtain ⟨r, hr⟩ : ∃ r, moreExtreme wanted best v = .ok r :=
          exists_moreExtreme_iff.mpr ⟨kind, hv, hbest⟩
        rw [hstep] at hr
        contradiction
      · intro r hr
        contradiction
    | ok next =>
      obtain ⟨hv, hnext⟩ := orderKind?_of_moreExtreme hstep hbest
      obtain ⟨hiff, hresult⟩ := ih (hextreme.moreExtreme hwanted hstep) hnext
      rw [List.append_assoc] at hresult
      refine ⟨hiff.trans ⟨fun hrest => ⟨hv, hrest⟩, And.right⟩, hresult⟩

/-- A first item that is compared at all is of a kind that has an order. -/
theorem exists_orderKind?_of_foldlM (h : (v :: rest).foldlM (moreExtreme wanted) best = .ok r) :
    ∃ kind, best.orderKind? = some kind := by
  rw [List.foldlM_cons] at h
  cases hstep : moreExtreme wanted best v with
  | error e =>
    rw [hstep] at h
    contradiction
  | ok next =>
    obtain ⟨kind, -, hkind⟩ := exists_moreExtreme_iff.mp ⟨next, hstep⟩
    exact ⟨kind, hkind⟩

theorem candidates_eq (h : 2 ≤ items.length) (hargs : args = items ∨ args = [.seq items]) :
    candidates args = items := by
  rcases hargs with rfl | rfl
  · match args, h with
    | v :: _ :: _, _ => cases v <;> rfl
  · rfl

/-- Two items or more have an extreme if they have an order, and the extreme is one of them. -/
theorem extreme_of_items (hwanted : wanted = .lt ∨ wanted = .gt) (h : 2 ≤ items.length)
    (hargs : args = items ∨ args = [.seq items]) :
    ((∃ r, extreme wanted args = .ok r) ↔ Sortable items) ∧
      ∀ r, extreme wanted args = .ok r → IsExtreme wanted items r := by
  rw [extreme, candidates_eq h hargs]
  match items, h with
  | v :: w :: rest, _ =>
    show ((∃ r, (w :: rest).foldlM (moreExtreme wanted) v = .ok r) ↔ _) ∧
      ∀ r, (w :: rest).foldlM (moreExtreme wanted) v = .ok r → _
    rw [sortable_iff]
    cases hv : v.orderKind? with
    | none =>
      have hfails (r : Value) : (w :: rest).foldlM (moreExtreme wanted) v ≠ .ok r := by
        intro hr
        obtain ⟨kind, hkind⟩ := exists_orderKind?_of_foldlM hr
        rw [hv] at hkind
        contradiction
      refine ⟨⟨fun ⟨r, hr⟩ => absurd hr (hfails r), ?_⟩, fun r hr => absurd hr (hfails r)⟩
      rintro ⟨kind, hall⟩
      rw [hall v List.mem_cons_self] at hv
      contradiction
    | some kind =>
      obtain ⟨hiff, hresult⟩ := foldlM_moreExtreme (w :: rest) hwanted
        (isExtreme_singleton hv) hv
      refine ⟨hiff.trans ⟨fun hrest => ⟨kind, List.forall_mem_cons.mpr ⟨hv, hrest⟩⟩, ?_⟩, hresult⟩
      rintro ⟨kind', hall⟩
      obtain ⟨hv', hrest⟩ := List.forall_mem_cons.mp hall
      obtain rfl : kind = kind' := Option.some.inj (hv.symm.trans hv')
      exact hrest

/-- The least and the greatest of two items or more, given one by one or as a sequence: there is one
exactly if the items have an order, and it is an item that no item precedes in that direction. -/
theorem min_and_max_extreme (items args : List Value) (h : 2 ≤ items.length)
    (hargs : args = items ∨ args = [.seq items]) :
    ((∃ r, min args = .ok r) ↔ Sortable items) ∧ ((∃ r, max args = .ok r) ↔ Sortable items) ∧
      (∀ r, min args = .ok r →
        r ∈ items ∧ ∀ v ∈ items, r.compare? v = some .lt ∨ r.compare? v = some .eq) ∧
      (∀ r, max args = .ok r →
        r ∈ items ∧ ∀ v ∈ items, r.compare? v = some .gt ∨ r.compare? v = some .eq) := by
  obtain ⟨hmin, hleast⟩ := extreme_of_items (.inl rfl) h hargs
  obtain ⟨hmax, hgreatest⟩ := extreme_of_items (.inr rfl) h hargs
  refine ⟨hmin, hmax, ?_, ?_⟩
  · intro r hr
    exact ⟨(hleast r hr).mem, (hleast r hr).leads⟩
  · intro r hr
    exact ⟨(hgreatest r hr).mem, (hgreatest r hr).leads⟩

/-- A float stands between two integers that are both equal to it; the smaller one is the least. -/
theorem min_and_max_extreme_blurred :
    let items := [.int 9007199254740993, .float 9007199254740992, .int 9007199254740992]
    2 ≤ items.length ∧ Sortable items ∧ ∃ r, min [.seq items] = .ok r ∧
      r ∈ items ∧ ∀ v ∈ items, r.compare? v = some .lt ∨ r.compare? v = some .eq := by
  intro items
  have hlength : 2 ≤ items.length := by decide
  have hsortable : Sortable items := sortable_iff.mpr ⟨.number, by decide +kernel⟩
  obtain ⟨hmin, -, hleast, -⟩ := min_and_max_extreme items [.seq items] hlength (.inr rfl)
  obtain ⟨r, hr⟩ := hmin.mpr hsortable
  exact ⟨hlength, hsortable, r, hr, hleast r hr⟩

end Library.Arithmetic

end Stencil
