import Stencil.Proofs.Evaluation
import Stencil.Proofs.PathTokens

/-!
Dotted paths as expressions. A path is read as its first name with members behind it, and the members
of values are what the resolution of paths follows; so both agree where the points of a path are all
that ends its tokens. A run of digits is a member under the number that it names, so that only a map
can tell it from one with leading zeros.
-/
namespace Stencil.Expr

open Grammar Text Decimal

/-! ### The tree of a path -/

section Parsing

variable {first : List Char} {rest : List (List Char)}

theorem exists_tokens_pathText (hfirst : isIdentifier first = true)
    (hvar : String.ofList first ∉ reserved) (hrest : ∀ s ∈ rest, isSegment s = true)
    (h : Legible rest) :
    ∃ lexemes, tokens (pathText first rest) = .ok lexemes ∧
      Derives nestingLimit rest.length (lexemes.map Lexeme.token)
        (members (.var (String.ofList first)) rest) := by
  cases first with
  | nil => cases hfirst
  | cons c tail =>
    have hblank : isBlank c = false := isBlank_of_isIdentPart <|
      isIdentPart_of_isIdentStart (Bool.and_eq_true .. |>.mp hfirst).1
    let name : Lexeme := ⟨.ident (String.ofList (c :: tail)), c :: tail, 0⟩
    obtain ⟨lexemes, htokens, hmembers⟩ := exists_lexemes h hrest (0 + byteSize (c :: tail)) [name]
    refine ⟨name :: lexemes, ?_, ?_⟩
    · rw [pathText_eq]
      exact (tokensFrom_of_readToken 0 [] hblank (readToken_identifier hfirst rest)).trans htokens
    · have hpostfixed : Postfixed (innerAt 63) (0 + rest.length)
          ([name.token] ++ lexemes.map Lexeme.token)
          (members (.var (String.ofList (c :: tail))) rest) :=
        hmembers (.primary (.var hvar))
      rw [Nat.zero_add] at hpostfixed
      exact .of_postfixed hpostfixed

/-- A path is an expression if it has no more points than an expression can have operators. -/
theorem parse_pathText (hfirst : isIdentifier first = true)
    (hvar : String.ofList first ∉ reserved) (hrest : ∀ s ∈ rest, isSegment s = true)
    (h : Legible rest) (hlength : rest.length ≤ operatorLimit) :
    parse (pathText first rest) = .ok (members (.var (String.ofList first)) rest) := by
  obtain ⟨lexemes, htokens, hderives⟩ := exists_tokens_pathText hfirst hvar hrest h
  rw [parse_eq htokens]
  exact parseTokens_of_derives hlength hderives

/-- No other derivation of the tokens has fewer operators. -/
theorem exists_parse_error (hfirst : isIdentifier first = true)
    (hvar : String.ofList first ∉ reserved) (hrest : ∀ s ∈ rest, isSegment s = true)
    (h : Legible rest) (hlength : operatorLimit < rest.length) :
    ∃ e, parse (pathText first rest) = .error e := by
  obtain ⟨lexemes, htokens, hderives⟩ := exists_tokens_pathText hfirst hvar hrest h
  cases hparse : parse (pathText first rest) with
  | error e => exact ⟨e, rfl⟩
  | ok t =>
    rw [parse_eq htokens] at hparse
    obtain ⟨k, hk, ht⟩ := exists_derives_of_parseTokens hparse
    have hcount : k = rest.length := (ht.unique hderives).1
    omega

end Parsing

/-! ### The value of a path -/

section Values

variable {env : Environment} {scope : Scope} {v : Value} {rest : List (List Char)}

theorem eval_members {t : Tree} (h : eval env scope t = .ok v) :
    eval env scope (members t rest) =
      .ok (rest.foldl (fun v s => memberOf v (memberKey s)) v) := by
  induction rest generalizing t v with
  | nil => exact h
  | cons s rest ih =>
    refine ih ?_
    rw [eval, h]
    rfl

/-- No position with leading zeros is looked up in a map. -/
def Keyless (v : Value) : List (List Char) → Prop
  | [] => True
  | s :: rest =>
    (isPosition s = true → Shortest s ∨ ∀ entries, v ≠ .map entries) ∧
      Keyless (memberOf v (String.ofList s)) rest

theorem wholeText_of_position {s : List Char} :
    wholeText (digitsValue s) = String.ofList (digitChars (digitsValue s)) := rfl

theorem ne_length_of_isPosition {s : List Char} (h : isPosition s = true) :
    (String.ofList s == "length") = false := by
  rw [beq_eq_false_iff_ne]
  intro he
  have hchars : s = "length".toList := by rw [← he, String.toList_ofList]
  rw [hchars] at h
  exact absurd h (by decide)

/-- Only a map tells a position from the number that it names. -/
theorem memberOf_memberKey {s : List Char}
    (h : isPosition s = true → Shortest s ∨ ∀ entries, v ≠ .map entries) :
    memberOf v (memberKey s) = memberOf v (String.ofList s) := by
  cases hposition : isPosition s with
  | false => rw [memberKey, hposition, if_neg Bool.false_ne_true]
  | true =>
    rw [memberKey, if_pos hposition, wholeText_of_position]
    rcases h hposition with hshort | hmap
    · rw [digitChars_digitsValue hposition hshort]
    · obtain ⟨hkey, hvalue⟩ := digitsValue_digitChars hposition
      have hget : v.get? (String.ofList (digitChars (digitsValue s))) =
          v.get? (String.ofList s) := by
        cases v with
        | map entries => exact absurd rfl (hmap entries)
        | seq items =>
          simp only [Value.get?, String.toList_ofList, word?_of_isPosition hkey,
            word?_of_isPosition hposition, hvalue]
        | _ => rfl
      rw [memberOf, memberOf, hget, ne_length_of_isPosition hkey, ne_length_of_isPosition hposition]

theorem foldl_memberKey (h : Keyless v rest) :
    rest.foldl (fun v s => memberOf v (memberKey s)) v =
      (rest.map String.ofList).foldl memberOf v := by
  induction rest generalizing v with
  | nil => rfl
  | cons s rest ih =>
    obtain ⟨hkey, hrest⟩ := h
    rw [List.foldl_cons, memberOf_memberKey hkey, ih hrest]
    rfl

theorem foldl_memberOf_null (names : List String) : names.foldl memberOf .null = .null := by
  induction names with
  | nil => rfl
  | cons name names ih =>
    have hnull : memberOf .null name = .null := by
      rw [memberOf]
      cases name == "length" <;> rfl
    rw [List.foldl_cons, hnull, ih]

theorem foldl_memberOf_number {n : Number} {names : List String} (h : names ≠ []) :
    names.foldl memberOf (.number n) = .null := by
  cases names with
  | nil => exact absurd rfl h
  | cons name names =>
    have hnull : memberOf (.number n) name = .null := by
      rw [memberOf]
      cases name == "length" <;> rfl
    rw [List.foldl_cons, hnull, foldl_memberOf_null]

/-- Behind a length there is nothing, so a resolution that stops there and one that goes on agree. -/
theorem follow_eq_foldl (v : Value) (names : List String) :
    Scope.follow v names = names.foldl memberOf v := by
  induction names generalizing v with
  | nil => rfl
  | cons name names ih =>
    rw [Scope.follow, List.foldl_cons, memberOf]
    cases v.get? name with
    | some next => exact ih next
    | none =>
      by_cases hlength : name = "length"
      · subst hlength
        cases names with
        | nil => rfl
        | cons other names =>
          cases v.length? with
          | none => exact (foldl_memberOf_null _).symm
          | some n => exact (foldl_memberOf_number (List.cons_ne_nil _ _)).symm
      · rw [beq_eq_false_iff_ne.mpr hlength]
        exact (foldl_memberOf_null names).symm

end Values

/-! ### Agreement -/

section Agreement

variable {env : Environment} {scope : Scope} {first : List Char} {rest : List (List Char)}

theorem isBlank_of_mem_pathText (hfirst : isIdentifier first = true)
    (hrest : ∀ s ∈ rest, isSegment s = true) : ∀ c ∈ pathText first rest, isBlank c = false := by
  intro c hc
  rw [pathText_eq, List.mem_append, pointed, List.mem_flatMap] at hc
  rcases hc with hmem | ⟨s, hs, hmem⟩
  · exact isBlank_of_isIdentPart <|
      all_isIdentPart_of_isSegment (Bool.or_eq_true .. |>.mpr (Or.inl hfirst)) c hmem
  · rcases List.mem_cons.mp hmem with rfl | hmem
    · decide
    · exact isBlank_of_isIdentPart (all_isIdentPart_of_isSegment (hrest s hs) c hmem)

theorem segments_pathText (hfirst : isIdentifier first = true)
    (hrest : ∀ s ∈ rest, isSegment s = true) :
    ((pathText first rest).splitOn '.').map (fun p => String.ofList (trim p)) =
      (first :: rest).map String.ofList := by
  have hsegments : ∀ s ∈ first :: rest, ∀ c ∈ s, isIdentPart c = true := by
    intro s hs
    rcases List.mem_cons.mp hs with rfl | hmem
    · exact all_isIdentPart_of_isSegment (Bool.or_eq_true .. |>.mpr (Or.inl hfirst))
    · exact all_isIdentPart_of_isSegment (hrest s hmem)
  have hpoint : ∀ s ∈ first :: rest, '.' ∉ s := by
    intro s hs hmem
    exact absurd (hsegments s hs '.' hmem) (by decide)
  rw [pathText, List.splitOn_intercalate '.' hpoint (List.cons_ne_nil _ _)]
  refine List.map_congr_left fun s hs => ?_
  rw [trim_eq_self fun c hc => isBlank_of_isIdentPart (hsegments s hs c hc)]

theorem resolve_pathText (hfirst : isIdentifier first = true)
    (hrest : ∀ s ∈ rest, isSegment s = true)
    (hfree : scope.get? (String.ofList (pathText first rest)) = none) :
    scope.resolve (String.ofList (pathText first rest)) =
      (rest.map String.ofList).foldl memberOf ((scope.get? (String.ofList first)).getD .null) := by
  have htrimmed : trimmed (String.ofList (pathText first rest)) =
      String.ofList (pathText first rest) := by
    rw [trimmed_ofList, trim_eq_self (isBlank_of_mem_pathText hfirst hrest)]
  simp only [Scope.resolve, htrimmed, hfree, String.toList_ofList, segments_pathText hfirst hrest,
    List.map_cons]
  cases scope.get? (String.ofList first) with
  | none => exact (foldl_memberOf_null _).symm
  | some v => exact follow_eq_foldl v _

/-- Evaluation and resolution agree on a path that is a bound name, and on a path of at most 512
points whose points separate its tokens, whose positions fit in 64 bits, and in which a position with
leading zeros is not looked up in a map. A longer path of separate tokens is no expression. -/
theorem tryEvaluate_path (env : Environment) (scope : Scope) {first : List Char}
    {rest : List (List Char)} (hfirst : isIdentifier first = true)
    (hvar : String.ofList first ∉ reserved) (hrest : ∀ s ∈ rest, isSegment s = true) :
    ((scope.get? (String.ofList (pathText first rest))).isSome ∨
        Legible rest ∧ Keyless ((scope.get? (String.ofList first)).getD .null) rest ∧
          rest.length ≤ 512 →
      tryEvaluate env scope (String.ofList (pathText first rest)) =
        .ok (scope.resolve (String.ofList (pathText first rest)))) ∧
    (scope.get? (String.ofList (pathText first rest)) = none → Legible rest →
      512 < rest.length →
      ∃ e, tryEvaluate env scope (String.ofList (pathText first rest)) =
        .error (.error (.malformed e))) := by
  have htrim := trim_eq_self (isBlank_of_mem_pathText hfirst hrest)
  constructor
  · intro h
    cases hbound : scope.get? (String.ofList (pathText first rest)) with
    | some v =>
      have hresolve : scope.resolve (String.ofList (pathText first rest)) = v := by
        simp only [Scope.resolve, trimmed_ofList, htrim, hbound]
      rw [tryEvaluate_of_get? (htrim.symm ▸ hbound), hresolve]
    | none =>
      rw [hbound, Option.isSome_none] at h
      obtain ⟨hlegible, hkeyless, hlength⟩ := h.resolve_left Bool.false_ne_true
      have hname : eval env scope (.var (String.ofList first)) =
          .ok ((scope.get? (String.ofList first)).getD .null) := by rw [eval]
      rw [tryEvaluate_of_free (htrim.symm ▸ hbound), htrim,
        parse_pathText hfirst hvar hrest hlegible hlength, resolve_pathText hfirst hrest hbound]
      simp only [eval_members hname, foldl_memberKey hkeyless]
  · intro hfree hlegible hlength
    obtain ⟨e, he⟩ := exists_parse_error hfirst hvar hrest hlegible hlength
    refine ⟨e, ?_⟩
    rw [tryEvaluate_of_free (htrim.symm ▸ hfree), htrim, he]

/-- A name that is bound to a list whose second item has a name. -/
def cartScope : Scope := .root [("cart", .seq [.null, .map [("sku", .string "x")]])]

/-- A scope with a map that has leading zeros in a key. -/
def agentScope : Scope := .root [("a", .map [("007", .int 1)])]

/-- A path with one point too many. -/
def longPath : String := String.ofList (pathText ['a'] (List.replicate 513 ['a']))

theorem isSegment_replicate (n : Nat) : ∀ s ∈ List.replicate n ['a'], isSegment s = true := by
  intro s hs
  rw [List.eq_of_mem_replicate hs]
  decide

theorem legible_replicate (n : Nat) : Legible (List.replicate n ['a']) := by
  refine ⟨List.isChain_replicate_of_rel n (by decide), fun s hs hposition => ?_⟩
  rw [List.eq_of_mem_replicate hs] at hposition
  cases hposition

theorem tryEvaluate_path_cartScope :
    (tryEvaluate .bare cartScope "cart.01.sku" = .ok (cartScope.resolve "cart.01.sku") ∧
      cartScope.resolve "cart.01.sku" = .string "x") ∧
    ∃ e, tryEvaluate .bare Scope.empty longPath = .error (.error (.malformed e)) := by
  have hlength : 512 < (List.replicate 513 ['a']).length := by
    rw [List.length_replicate]
    decide
  have hlong := (tryEvaluate_path .bare Scope.empty (show isIdentifier ['a'] = true by decide)
    (by decide) (isSegment_replicate 513)).2 rfl (legible_replicate 513) hlength
  have hrest : ∀ s ∈ ["01".toList, "sku".toList], isSegment s = true :=
    List.all_eq_true.mp (by decide)
  have hlegible : Legible ["01".toList, "sku".toList] := by
    refine ⟨.cons_cons (by decide) (.singleton _), fun s hs hposition => ?_⟩
    simp only [List.mem_cons, List.not_mem_nil, or_false] at hs
    rcases hs with rfl | rfl <;> decide
  have hkeyless : Keyless ((cartScope.get? "cart").getD .null) ["01".toList, "sku".toList] :=
    ⟨fun _ => Or.inr nofun, fun h => absurd h (by decide), trivial⟩
  have hcart : isIdentifier "cart".toList = true := by decide
  have hshort := (tryEvaluate_path .bare cartScope hcart (by decide) hrest).1
    (Or.inr ⟨hlegible, hkeyless, by decide⟩)
  have hresolve : cartScope.resolve "cart.01.sku" = .string "x" := resolve_pathText hcart hrest rfl
  exact ⟨⟨hshort, hresolve⟩, hlong⟩

theorem exists_parse_error_of_float {c : Char} {s : List Char} {x : Float}
    (hblank : isBlank c = false) (hread : readToken c s = .ok ⟨.float x, c :: s, []⟩) :
    ∃ e, parse ('a' :: '.' :: c :: s) = .error e := by
  have hname : readToken 'a' ('.' :: c :: s) = .ok ⟨.ident "a", ['a'], '.' :: c :: s⟩ := rfl
  have htokens : tokens ('a' :: '.' :: c :: s) =
      .ok [⟨.ident "a", ['a'], 0⟩, ⟨.mark .dot, ['.'], 1⟩, ⟨.float x, c :: s, 2⟩] := by
    calc
      _ = tokensFrom 1 [⟨.ident "a", ['a'], 0⟩] ('.' :: c :: s) :=
        tokensFrom_of_readToken 0 [] (by decide) hname
      _ = tokensFrom 2 [⟨.mark .dot, ['.'], 1⟩, ⟨.ident "a", ['a'], 0⟩] (c :: s) :=
        tokensFrom_of_readToken 1 _ (by decide) (readToken_point _)
      _ = _ := tokensFrom_of_readToken 2 _ hblank hread
      _ = _ := tokensFrom_nil _ _
  rw [parse_eq htokens]
  exact ⟨_, rfl⟩

theorem tryEvaluate_ne_of_float {c : Char} {s : List Char} {x : Float}
    (hblank : ('a' :: '.' :: c :: s).all (fun d => !isBlank d) = true)
    (hread : readToken c s = .ok ⟨.float x, c :: s, []⟩) (v : Value) :
    tryEvaluate .bare Scope.empty (String.ofList ('a' :: '.' :: c :: s)) ≠ .ok v := by
  have hall : ∀ d ∈ 'a' :: '.' :: c :: s, isBlank d = false := by
    intro d hd
    simpa using List.all_eq_true.mp hblank d hd
  have htrim := trim_eq_self hall
  obtain ⟨e, he⟩ := exists_parse_error_of_float (hall c (by simp)) hread
  rw [tryEvaluate_of_free rfl, htrim, he]
  nofun

/-- A path of too many points is no expression, and neither is a path of two positions in a row or
of a position that does not fit in 64 bits; a position with leading zeros is another key. -/
theorem tryEvaluate_path_ne :
    tryEvaluate .bare Scope.empty longPath ≠ .ok (Scope.empty.resolve longPath) ∧
    tryEvaluate .bare Scope.empty "a.0.1" ≠ .ok (Scope.empty.resolve "a.0.1") ∧
    tryEvaluate .bare Scope.empty "a.9223372036854775808" ≠
      .ok (Scope.empty.resolve "a.9223372036854775808") ∧
    tryEvaluate .bare agentScope "a.007" ≠ .ok (agentScope.resolve "a.007") := by
  have hfirst : isIdentifier ['a'] = true := by decide
  have hvar : String.ofList ['a'] ∉ reserved := by decide
  refine ⟨?_, ?_, ?_, ?_⟩
  · have hlength : operatorLimit < (List.replicate 513 ['a']).length := by
      rw [List.length_replicate]
      decide
    obtain ⟨e, he⟩ := exists_parse_error hfirst hvar (isSegment_replicate 513)
      (legible_replicate 513) hlength
    have htrim := trim_eq_self (isBlank_of_mem_pathText hfirst (isSegment_replicate 513))
    rw [longPath, tryEvaluate_of_free rfl, htrim, he]
    nofun
  · exact tryEvaluate_ne_of_float (c := '0') (s := ".1".toList) (by decide) rfl _
  · exact tryEvaluate_ne_of_float (c := '9') (s := "223372036854775808".toList) (by decide) rfl _
  · have hrest : ∀ s ∈ ["007".toList], isSegment s = true := List.all_eq_true.mp (by decide)
    have hlegible : Legible ["007".toList] := by
      refine ⟨.singleton _, fun s hs _ => ?_⟩
      rw [List.eq_of_mem_singleton hs]
      decide
    have htrim := trim_eq_self (isBlank_of_mem_pathText hfirst hrest)
    have hparse := parse_pathText hfirst hvar hrest hlegible (by decide)
    have htry : tryEvaluate .bare agentScope "a.007" = .ok .null := by
      refine (tryEvaluate_of_free (s := pathText ['a'] ["007".toList]) rfl).trans ?_
      rw [htrim, hparse]
      rfl
    have hresolve : agentScope.resolve "a.007" = .int 1 := resolve_pathText hfirst hrest rfl
    rw [htry, hresolve]
    nofun

end Agreement

end Stencil.Expr
