import Stencil.Proofs.Constants

/-!
How deep directive elements may nest. Loops are written out before the guards around them are looked
at, so that the guards around a loop do not count for what is inside the loop: the limit applies to
the guards in front of the first loop, and from each loop on to what is inside it.
-/
namespace Stencil

open Directive Engine Markup Render Text

/-- One of the elements around a text: one with a guard that holds, one with a loop over one item,
or one without directives. -/
inductive Layer where
  | guard
  | loop
  | plain
  deriving DecidableEq, Repr

namespace Layer

def head : Layer → Head
  | guard => ⟨"i".toList, [⟨"if".toList, "true".toList⟩]⟩
  | loop => ⟨"i".toList, [⟨"for".toList, "x in [1]".toList⟩]⟩
  | plain => ⟨"i".toList, []⟩

/-- Whether the element has a directive. -/
def isDirective : Layer → Bool
  | guard | loop => true
  | plain => false

/-- The elements inside one another around a text, outermost first. -/
def tower (s : List Char) : List Layer → Template
  | [] => .text s .nil
  | layer :: layers => .element layer.head (tower s layers) .nil

/-- A text inside plain elements. -/
def cleared (s : List Char) (layers : List Layer) : Template :=
  tower s (layers.map fun _ => plain)

/-- The number of guards in front of the first loop. -/
def guards : List Layer → Nat
  | [] | loop :: _ => 0
  | guard :: layers => guards layers + 1
  | plain :: layers => guards layers

/-- How deep the first loop has to nest: one level for itself, and inside it the guards in front of
the next loop or what that loop needs. -/
def loopDepth : List Layer → Nat
  | [] => 0
  | loop :: layers => max (guards layers) (loopDepth layers) + 1
  | guard :: layers | plain :: layers => loopDepth layers

/-- How deep the elements have to nest. -/
def needed (layers : List Layer) : Nat := max (guards layers) (loopDepth layers)

/-- The elements once their first loop is written out. -/
def unrolled : List Layer → List Layer
  | [] => []
  | loop :: layers => plain :: layers.map fun _ => plain
  | layer :: layers => layer :: unrolled layers

theorem guards_map_plain (layers : List Layer) : guards (layers.map fun _ => plain) = 0 := by
  induction layers with
  | nil => rfl
  | cons layer layers ih => exact ih

/-- Writing out loops leaves the guards in front of them. -/
theorem guards_unrolled (layers : List Layer) : guards (unrolled layers) = guards layers := by
  induction layers with
  | nil => rfl
  | cons layer layers ih =>
    cases layer with
    | guard => exact congrArg (· + 1) ih
    | loop => exact guards_map_plain layers
    | plain => exact ih

theorem loop_notMem_unrolled (layers : List Layer) : loop ∉ unrolled layers := by
  induction layers with
  | nil => simp [unrolled]
  | cons layer layers ih => cases layer <;> simp [unrolled, ih]

theorem unrolled_map_plain (layers : List Layer) :
    (unrolled layers).map (fun _ => plain) = layers.map fun _ => plain := by
  induction layers with
  | nil => rfl
  | cons layer layers ih => cases layer <;> simp [unrolled, ih]

theorem loopDepth_of_notMem {layers : List Layer} (h : loop ∉ layers) : loopDepth layers = 0 := by
  induction layers with
  | nil => rfl
  | cons layer layers ih =>
    rw [List.mem_cons, not_or] at h
    cases layer with
    | loop => exact absurd rfl h.1
    | guard | plain => exact ih h.2

/-- Never more levels are needed than there are directives. -/
theorem needed_le (layers : List Layer) : needed layers ≤ layers.countP isDirective := by
  induction layers with
  | nil => exact Nat.le_refl _
  | cons layer layers ih =>
    unfold needed at ih ⊢
    cases layer <;> simp only [guards, loopDepth, List.countP_cons, isDirective] <;> simp <;> omega

end Layer

namespace Engine

open Layer

variable {e : Engine} {scope : Scope} {levels : Nat} {s : List Char}

/-- A text, if what has to nest fits in the levels. -/
def within (e : Engine) (levels depth : Nat) (out : List Char) : RenderResult (List Char) :=
  if depth < levels then .ok out else .error (.error (.depthExceeded e.config.maxDepth))

theorem within_of_lt {depth : Nat} (out : List Char) (h : depth < levels) :
    e.within levels depth out = .ok out := if_pos h

theorem within_of_le {depth : Nat} (out : List Char) (h : levels ≤ depth) :
    e.within levels depth out = .error (.error (.depthExceeded e.config.maxDepth)) :=
  if_neg (Nat.not_lt_of_le h)

theorem within_map {depth : Nat} (out : List Char) (f : List Char → List Char) :
    (e.within levels depth out).map f = e.within levels depth (f out) := by
  unfold within
  split <;> rfl

theorem within_succ {depth : Nat} (out : List Char) :
    e.within (levels + 1) (depth + 1) out = e.within levels depth out := by
  simp [within]

/-- The expressions of the directives are not bound as names. -/
structure Unbound (scope : Scope) : Prop where
  guard : scope.get? "true" = none
  collection : scope.get? "[1]" = none

theorem Unbound.derive (h : Unbound scope) (v : Value) : Unbound (scope.derive "x" v) := by
  have hget : ∀ name, name ≠ "x" → (scope.derive "x" v).get? name = scope.get? name := by
    intro name hne
    simp [Scope.derive, Scope.get?, Scope.layers, Record.get?, List.findSome?_cons,
      List.lookup_cons, beq_eq_false_iff_ne.mpr hne]
  exact ⟨(hget _ (by decide)).trans h.guard, (hget _ (by decide)).trans h.collection⟩

/-! ### Towers -/

theorem readable_tower (hs : '<' ∉ s) (layers : List Layer) : (tower s layers).Readable := by
  induction layers with
  | nil => exact ⟨hs, trivial⟩
  | cons layer layers ih =>
    have hhead : layer.head.Readable ∧ layer.head.tag.isEmptyElement = false := by
      cases layer <;> decide
    exact ⟨hhead, ih, trivial⟩

theorem undirected_cleared (hs : '<' ∉ s) (layers : List Layer) :
    e.Undirected (cleared s layers).source := by
  refine undirected_source (readable_tower hs _) ?_
  rw [cleared]
  induction layers with
  | nil => exact ⟨trivial, trivial⟩
  | cons layer layers ih => exact ⟨fun a ha => absurd ha (List.not_mem_nil), ih, trivial⟩

theorem source_tower_cons (layer : Layer) (layers : List Layer) :
    (tower s (layer :: layers)).source =
      layer.head.source ++ ((tower s layers).source ++ layer.head.closing) :=
  source_singleton layer.head (tower s layers)

theorem source_cleared_cons (layer : Layer) (layers : List Layer) :
    (cleared s (layer :: layers)).source =
      plain.head.source ++ ((cleared s layers).source ++ plain.head.closing) :=
  source_tower_cons plain _

theorem spanless_cleared (hs : Spanless s) (layers : List Layer) :
    Spanless (cleared s layers).source := by
  induction layers with
  | nil => simpa [cleared, tower, Template.source] using hs
  | cons layer layers ih =>
    rw [source_cleared_cons]
    exact (ih.append_right (by decide)).append_left (by decide)

/-! ### Passes -/

/-- The renderer of inner texts keeps the limit. -/
def KeepsLimit (e : Engine) (s : List Char) (levels : Nat) (nested : Renderer) : Prop :=
  ∀ scope layers, Unbound scope →
    nested scope (tower s layers).source =
      e.within levels (needed layers) (cleared s layers).source

section

variable {nested : Renderer} (hnames : e.names = Names.ofPrefix [])

include hnames

/-- A turn leaves its element plain around the rendered inner text. -/
theorem turn_loop (inner : List Char) :
    e.turn nested ⟨loop.head.tag, inner, loop.head.closing⟩ scope =
      (nested scope inner).map fun text => plain.head.source ++ (text ++ plain.head.closing) := by
  have hguard : e.names.guard? loop.head.tag = none := by
    rw [hnames]
    decide
  have hstripped : ∀ a ∈ loop.head.attrs, (e.isGuard a.toAttr || e.isLoop a.toAttr) = true := by
    simp only [isGuard, isLoop, hnames]
    decide
  have htag : e.outputTag scope (fun a => e.isGuard a || e.isLoop a) loop.head.tag =
      .ok plain.head.source := outputTag_of_stripped hstripped
  have hinterpolated : e.interpolated scope plain.head.source = .ok plain.head.source :=
    interpolate_of_spanless _ (spanless_of_notMem (by decide))
  simp only [turn, hguard, htag, hinterpolated, bind, Except.bind, if_true]
  cases nested scope inner with
  | error f => rfl
  | ok text => exact congrArg Except.ok (List.append_assoc _ _ _)

/-- A guard that holds leaves its element plain around the rendered inner text. -/
theorem replace_guard (hscope : Unbound scope) (inner : List Char) :
    (e.conditionals nested scope).replace "true".toList
        ⟨guard.head.tag, inner, guard.head.closing⟩ =
      (nested scope inner).map fun text => plain.head.source ++ (text ++ plain.head.closing) := by
  have hstripped : ∀ a ∈ guard.head.attrs, e.isGuard a.toAttr = true := by
    simp only [isGuard, hnames]
    decide
  have htag : e.outputTag scope e.isGuard guard.head.tag = .ok plain.head.source :=
    outputTag_of_stripped hstripped
  simp only [conditionals, holds_true hscope.guard, htag, bind, Except.bind, if_true]
  cases nested scope inner with
  | error f => rfl
  | ok text => exact congrArg Except.ok (List.append_assoc _ _ _)

/-- The first loop is written out around what is inside it; guards and plain elements in front of it
stay. -/
theorem loops_tower (hn : e.KeepsLimit s levels nested) (hs : '<' ∉ s) (hscope : Unbound scope)
    (layers : List Layer) :
    (e.loops nested scope).apply (tower s layers).source =
      e.within (levels + 1) (loopDepth layers) (tower s (unrolled layers)).source := by
  induction layers with
  | nil =>
    have htext : (tower s []).source = s := List.append_nil s
    rw [unrolled, loopDepth, within_of_lt _ (Nat.succ_pos _), htext]
    exact (e.loops nested scope).apply_of_notMem hs
  | cons layer layers ih =>
    have hreadable := readable_tower hs (layer :: layers)
    have hpassed (hlayer : e.names.loop? layer.head.tag = none) :
        (e.loops nested scope).apply (tower s (layer :: layers)).source =
          e.within (levels + 1) (loopDepth layers)
            (tower s (layer :: unrolled layers)).source := by
      rw [tower, Template.apply_element_of_unmarked _ hreadable hlayer, ih, within_map,
        source_tower_cons]
    cases layer with
    | guard =>
      refine hpassed ?_
      rw [hnames]
      decide
    | plain =>
      refine hpassed ?_
      rw [hnames]
      decide
    | loop =>
      have hloop : e.names.loop? loop.head.tag = some ⟨"x".toList, none, "[1]".toList⟩ := by
        rw [hnames]
        decide
      have hturn : e.turn nested ⟨loop.head.tag, (tower s layers).source, loop.head.closing⟩
          (scope.derive "x" (.number (.int 1))) = _ := turn_loop hnames _
      rw [hn _ layers (hscope.derive _), within_map] at hturn
      have hreplace : (e.loops nested scope).replace ⟨"x".toList, none, "[1]".toList⟩
            ⟨loop.head.tag, (tower s layers).source, loop.head.closing⟩ =
          concatM (fun p : Value × Value =>
              e.turn nested ⟨loop.head.tag, (tower s layers).source, loop.head.closing⟩
                (turnScope scope ⟨"x".toList, none, "[1]".toList⟩ p.1 p.2))
            [(.number (.int 1), .ofNat 0)] := by
        simp only [loops, valueOf_singleton hscope.collection, bind, Except.bind]
        rfl
      rw [tower, Template.apply_element_of_marked (e.loops nested scope) hreadable hloop, hreplace,
        concatM_singleton, loopDepth, within_succ, unrolled, source_tower_cons]
      exact hturn

/-- A guard keeps its element, and what is inside it may nest one level less. -/
theorem conditionals_tower (hn : e.KeepsLimit s levels nested) (hs : '<' ∉ s)
    (hscope : Unbound scope) {layers : List Layer} (hlayers : loop ∉ layers) :
    (e.conditionals nested scope).apply (tower s layers).source =
      e.within (levels + 1) (guards layers) (cleared s layers).source := by
  induction layers with
  | nil =>
    have htext : (tower s []).source = s := List.append_nil s
    have hcleared : (cleared s []).source = s := htext
    rw [guards, within_of_lt _ (Nat.succ_pos _), htext, hcleared]
    exact (e.conditionals nested scope).apply_of_notMem hs
  | cons layer layers ih =>
    rw [List.mem_cons, not_or] at hlayers
    have hreadable := readable_tower hs (layer :: layers)
    cases layer with
    | loop => exact absurd rfl hlayers.1
    | plain =>
      have hguard : e.names.guard? plain.head.tag = none := by
        rw [hnames]
        decide
      rw [tower, Template.apply_element_of_unmarked _ hreadable hguard, ih hlayers.2, within_map,
        guards, source_cleared_cons]
    | guard =>
      have hguard : e.names.guard? guard.head.tag = some "true".toList := by
        rw [hnames]
        decide
      have hneeded : needed layers = guards layers := by
        rw [needed, loopDepth_of_notMem hlayers.2, Nat.max_zero]
      rw [tower, Template.apply_element_of_marked (e.conditionals nested scope) hreadable hguard,
        replace_guard hnames hscope, hn scope layers hscope, hneeded, within_map, guards,
        within_succ, source_cleared_cons]

/-- A pass clears the tower, if it fits. -/
theorem pass_tower (hn : e.KeepsLimit s levels nested) (hs : '<' ∉ s) (hscope : Unbound scope)
    (layers : List Layer) :
    e.pass nested scope (tower s layers).source =
      e.within (levels + 1) (needed layers) (cleared s layers).source := by
  have hloops := loops_tower hnames hn hs hscope layers
  have hconditionals := conditionals_tower hnames hn hs hscope (loop_notMem_unrolled layers)
  have hcleared : cleared s (unrolled layers) = cleared s layers :=
    congrArg (tower s) (unrolled_map_plain layers)
  rw [guards_unrolled, hcleared] at hconditionals
  rw [needed]
  by_cases hdepth : loopDepth layers < levels + 1
  · rw [within_of_lt _ hdepth] at hloops
    by_cases hguards : guards layers < levels + 1
    · rw [within_of_lt _ hguards] at hconditionals
      rw [within_of_lt _ (Nat.max_lt.mpr ⟨hguards, hdepth⟩)]
      exact pass_of_conditionals hloops hconditionals (undirected_cleared hs layers)
    · rw [within_of_le _ (Nat.le_of_not_lt hguards)] at hconditionals
      have hexceeds : levels + 1 ≤ max (guards layers) (loopDepth layers) := by omega
      rw [within_of_le _ hexceeds, pass, hloops]
      simp only [bind, Except.bind, hconditionals]
  · rw [within_of_le _ (Nat.le_of_not_lt hdepth)] at hloops
    have hexceeds : levels + 1 ≤ max (guards layers) (loopDepth layers) := by omega
    rw [within_of_le _ hexceeds, pass, hloops]
    rfl

/-! ### Rendering -/

theorem keepsLimit_renderWithin (hs : '<' ∉ s) (hspan : Spanless s) (levels : Nat) :
    e.KeepsLimit s levels (e.renderWithin levels) := by
  induction levels with
  | zero =>
    intro scope layers _
    exact (within_of_le _ (Nat.zero_le _)).symm
  | succ levels ih =>
    intro scope layers hscope
    have hpass := pass_tower hnames ih hs hscope layers
    by_cases hfits : needed layers < levels + 1
    · rw [within_of_lt _ hfits] at hpass ⊢
      rw [renderWithin_of_pass hpass (undirected_cleared hs layers), interpolated,
        interpolate_of_spanless _ (spanless_cleared hspan layers)]
    · rw [within_of_le _ (Nat.le_of_not_lt hfits)] at hpass ⊢
      exact e.renderWithin_of_error hpass

/-- Nested directive elements are rendered if the depth they need is within the limit. Guards around
a loop do not count for what is inside it, so that the depth can be less than the number of
directives, and then more of them than the limit allows are rendered. -/
theorem tryRender_tower (hs : '<' ∉ s) (hspan : Spanless s) (hscope : Unbound scope)
    (layers : List Layer) :
    (e.tryRender scope (String.ofList (tower s layers).source) =
      (e.within (e.config.maxDepth + 1) (needed layers) (cleared s layers).source).map
        String.ofList) ∧
    (layers.countP isDirective ≤ e.config.maxDepth →
      e.tryRender scope (String.ofList (tower s layers).source) =
        .ok (String.ofList (cleared s layers).source)) ∧
    (e.config.maxDepth < layers.countP isDirective →
      (e.tryRender scope (String.ofList (tower s layers).source) =
          .error (.error (.depthExceeded e.config.maxDepth)) ↔
        e.config.maxDepth < needed layers)) := by
  have hrender : e.tryRender scope (String.ofList (tower s layers).source) =
      (e.within (e.config.maxDepth + 1) (needed layers) (cleared s layers).source).map
        String.ofList := by
    rw [tryRender_eq_map String.toList_ofList,
      keepsLimit_renderWithin hnames hs hspan _ scope layers hscope]
  refine ⟨hrender, fun hle => ?_, fun hlt => ?_⟩
  · have hfits := Nat.lt_succ_of_le (Nat.le_trans (needed_le layers) hle)
    rw [hrender, within_of_lt _ hfits]
    rfl
  · rw [hrender]
    by_cases hfits : needed layers < e.config.maxDepth + 1
    · rw [within_of_lt _ hfits]
      exact iff_of_false (by simp [Except.map]) (by omega)
    · rw [within_of_le _ (Nat.le_of_not_lt hfits)]
      exact iff_of_true rfl (by omega)

end

/-- An engine under which directive elements nest up to a depth. -/
def depthEngine (depth : Nat) : Engine := ⟨.bare, Config.default.withMaxDepth depth⟩

theorem tryRender_tower_depthEngine :
    (depthEngine 2).tryRender Scope.empty "<i for=\"x in [1]\"><i if=\"true\">t</i></i>" =
        .ok "<i><i>t</i></i>" ∧
      (depthEngine 1).tryRender Scope.empty "<i for=\"x in [1]\"><i if=\"true\">t</i></i>" =
        .error (.error (.depthExceeded 1)) := by
  have hscope : Unbound Scope.empty := ⟨rfl, rfl⟩
  have hs : '<' ∉ ['t'] := by decide
  have hspan : Spanless ['t'] := spanless_of_notMem (by decide)
  have hsource : String.ofList (tower ['t'] [.loop, .guard]).source =
      "<i for=\"x in [1]\"><i if=\"true\">t</i></i>" := by decide
  have hcleared : String.ofList (cleared ['t'] [.loop, .guard]).source = "<i><i>t</i></i>" := by
    decide
  have hfits := (tryRender_tower (e := depthEngine 2) rfl hs hspan hscope [.loop, .guard]).2.1
    (by decide)
  have hexceeds := ((tryRender_tower (e := depthEngine 1) rfl hs hspan hscope
    [.loop, .guard]).2.2 (by decide)).mpr (by decide)
  rw [hsource] at hfits hexceeds
  rw [hcleared] at hfits
  exact ⟨hfits, hexceeds⟩

/-- Two directives inside one another are rendered where one is the limit. -/
theorem tryRender_tower_ne :
    [Layer.guard, Layer.loop].countP isDirective = 2 ∧
      (depthEngine 1).config.maxDepth = 1 ∧
      String.ofList (tower ['t'] [.guard, .loop]).source =
        "<i if=\"true\"><i for=\"x in [1]\">t</i></i>" ∧
      (depthEngine 1).tryRender Scope.empty "<i if=\"true\"><i for=\"x in [1]\">t</i></i>" =
        .ok "<i><i>t</i></i>" ∧
      (depthEngine 1).tryRender Scope.empty "<i if=\"true\"><i for=\"x in [1]\">t</i></i>" ≠
        .error (.error (.depthExceeded 1)) := by
  decide +kernel

end Engine

end Stencil
