import GemOrder.Proofs.Nesting

namespace GemOrder

namespace Scope

variable {v : Vocabulary}

/-- Lines that can stand between a header at indent `depth` and its closer, with the scopes among
them; the first of the lines has number `i`. -/
inductive Body (v : Vocabulary) : Nat → Nat → List Line → List Scope → Prop where
  | nil (depth i : Nat) : Body v depth i [] []
  | plain {depth i : Nat} {l : Line} {ls : List Line} {scopes : List Scope}
      (ho : (v.isHeader l && decide (depth < l.indent)) = false)
      (hc : (v.isCloser l && l.indent == depth) = false)
      (h : Body v depth (i + 1) ls scopes) : Body v depth i (l :: ls) scopes
  | nested {depth i : Nat} {header closer : Line} {body ls : List Line} {inner scopes : List Scope}
      (hh : v.isHeader header = true) (hd : depth < header.indent)
      (inside : Body v header.indent (i + 1) body inner)
      (hc : v.isCloser closer = true) (hi : closer.indent = header.indent)
      (behind : Body v depth (i + 1 + body.length + 1) ls scopes) :
      Body v depth i (header :: (body ++ closer :: ls))
        (⟨i, i + 1 + body.length, inner⟩ :: scopes)

/-- The search goes on behind the closer. -/
theorem drop_body (i : Nat) (body : List Line) (closer : Line) (rest : List Line) :
    (body ++ closer :: rest).drop (i + 1 + body.length - i) = rest := by
  have hlen : i + 1 + body.length - i = body.length + 1 := by omega
  rw [hlen, List.drop_append]
  simp

/-- A body is closed by the closer behind it if that stands at the indent of the body. -/
theorem Body.close? {depth i : Nat} {body : List Line} {inner : List Scope}
    (h : Body v depth i body inner) {closer : Line} (hc : v.isCloser closer = true)
    (hi : closer.indent = depth) (rest : List Line) :
    close? v depth i (body ++ closer :: rest) = some (i + body.length, inner) := by
  induction h generalizing closer rest with
  | nil depth i => simp [Scope.close?, hc, hi]
  | @plain depth i l ls scopes ho hl h ih =>
    rw [List.cons_append, Scope.close?, ho, hl, ih hc hi]
    simp only [Bool.false_eq_true, ↓reduceIte, List.length_cons, Option.some.injEq, Prod.mk.injEq,
      and_true]
    omega
  | @nested depth i header closer' body ls inner scopes hh hd inside hc' hi' behind ihi ihb =>
    rw [List.cons_append, List.append_assoc, List.cons_append, Scope.close?, hh, Bool.true_and,
      if_pos (decide_eq_true hd), ihi hc' hi']
    simp only [drop_body, ihb hc hi, Option.map_some, Option.some.injEq, Prod.mk.injEq, and_true,
      List.length_cons, List.length_append]
    omega

/-- Where a closer is found, the lines before it are a body. -/
theorem exists_body {depth i c : Nat} {ls : List Line} {inner : List Scope}
    (h : close? v depth i ls = some (c, inner)) :
    ∃ body closer rest, ls = body ++ closer :: rest ∧ Body v depth i body inner ∧
      v.isCloser closer = true ∧ closer.indent = depth ∧ c = i + body.length := by
  fun_induction close? v depth i ls generalizing c inner with
  | case1 => contradiction
  | case2 depth i l ls hh hc ih => contradiction
  | case3 depth i l ls hh c' inner' hc ih1 ih2 =>
    obtain ⟨⟨d, later⟩, hd, he⟩ := Option.map_eq_some_iff.mp h
    cases he
    obtain ⟨body, closer, rest, rfl, hbody, hcl, hind, rfl⟩ := ih1 hc
    rw [drop_body] at hd ih2
    obtain ⟨more, last, behind, rfl, hmore, hlast, hdepth, rfl⟩ := ih2 hd
    simp only [Bool.and_eq_true, decide_eq_true_eq] at hh
    refine ⟨l :: (body ++ closer :: more), last, behind, by simp, ?_, hlast, hdepth, ?_⟩
    · exact .nested hh.1 hh.2 hbody hcl hind hmore
    · simp only [List.length_cons, List.length_append]
      omega
  | case4 depth i l ls hh hc =>
    cases h
    simp only [Bool.and_eq_true, beq_iff_eq] at hc
    exact ⟨[], l, ls, rfl, .nil depth i, hc.1, hc.2, rfl⟩
  | case5 depth i l ls hh hc ih =>
    obtain ⟨body, closer, rest, rfl, hbody, hcl, hind, rfl⟩ := ih h
    refine ⟨l :: body, closer, rest, rfl, ?_, hcl, hind, ?_⟩
    · exact .plain (Bool.eq_false_iff.mpr hh) (Bool.eq_false_iff.mpr hc) hbody
    · rw [List.length_cons]
      omega

/-- What stands behind the closer has no part in the search. -/
theorem close?_append {depth i c : Nat} {ls : List Line} {inner : List Scope}
    (h : close? v depth i ls = some (c, inner)) (ks : List Line) :
    close? v depth i (ls ++ ks) = some (c, inner) := by
  obtain ⟨body, closer, rest, rfl, hbody, hc, hi, rfl⟩ := exists_body h
  rw [List.append_assoc, List.cons_append]
  exact hbody.close? hc hi _

/-- If all headers of a body are indented deeper than the body is, then the body by itself holds the
scopes that it holds in its place: none of them is passed over as a plain line. -/
theorem Body.search {depth i : Nat} {body : List Line} {inner : List Scope}
    (h : Body v depth i body inner)
    (hd : ∀ l ∈ body, v.isHeader l = true → depth < l.indent) :
    (search v i body).filterMap Finding.scope? = inner := by
  induction h with
  | nil depth i => simp [Scope.search]
  | @plain depth i l ls scopes ho hc h ih =>
    have hl : v.isHeader l = false := by
      cases hh : v.isHeader l with
      | false => rfl
      | true => simp [hh, hd l (by simp) hh] at ho
    rw [Scope.search, hl]
    simp only [Bool.false_eq_true, ↓reduceIte]
    exact ih fun k hk => hd k (by simp [hk])
  | @nested depth i header closer body ls inner scopes hh hlt inside hc hi behind ihi ihb =>
    rw [Scope.search, if_pos hh, inside.close? hc hi]
    simp only [drop_body, List.filterMap_cons, Finding.scope?]
    rw [ihb fun k hk => hd k (by simp [hk])]

/-- A scope of some lines, the first of which has number `i`: its header, its body and its closer stand
there under the numbers that it gives. -/
def StandsIn (v : Vocabulary) (i : Nat) (ls : List Line) (s : Scope) : Prop :=
  ∃ before header body closer behind, ls = before ++ header :: (body ++ closer :: behind) ∧
    s.header = i + before.length ∧ s.closer = s.header + 1 + body.length ∧
    v.isHeader header = true ∧ v.isCloser closer = true ∧ closer.indent = header.indent ∧
    Body v header.indent (s.header + 1) body s.children

theorem StandsIn.append {i : Nat} {ls : List Line} {s : Scope} (xs : List Line)
    (h : StandsIn v (i + xs.length) ls s) (ys : List Line) : StandsIn v i (xs ++ ls ++ ys) s := by
  obtain ⟨before, header, body, closer, behind, rfl, hs, h⟩ := h
  refine ⟨xs ++ before, header, body, closer, behind ++ ys, by simp, ?_, h⟩
  rw [hs, List.length_append, Nat.add_assoc]

theorem StandsIn.cons {i : Nat} {l : Line} {ls : List Line} {s : Scope}
    (h : StandsIn v (i + 1) ls s) : StandsIn v i (l :: ls) s := by
  have happ := StandsIn.append [l] h []
  rwa [List.append_nil] at happ

/-- A scope behind another one stands in the lines of both. -/
theorem StandsIn.behind {i : Nat} {header closer : Line} {body ls : List Line} {s : Scope}
    (h : StandsIn v (i + 1 + body.length + 1) ls s) :
    StandsIn v i (header :: (body ++ closer :: ls)) s := by
  have hnum : i + 1 + body.length + 1 = i + (header :: (body ++ [closer])).length := by
    simp only [List.length_cons, List.length_append, List.length_nil]
    omega
  rw [hnum] at h
  simpa using StandsIn.append _ h []

theorem Body.standsIn {depth i : Nat} {ls : List Line} {scopes : List Scope}
    (h : Body v depth i ls scopes) : ∀ s ∈ tree scopes, StandsIn v i ls s := by
  induction h with
  | nil depth i => simp [tree]
  | plain ho hc h ih => exact fun s hs => (ih s hs).cons
  | @nested depth i header closer body ls inner scopes hh hd inside hc hi behind ihi ihb =>
    intro s hs
    simp only [tree, List.mem_cons, List.mem_append] at hs
    rcases hs with rfl | hs | hs
    · exact ⟨[], header, body, closer, ls, rfl, rfl, rfl, hh, hc, hi, inside⟩
    · exact StandsIn.append [header] (ihi s hs) (closer :: ls)
    · exact (ihb s hs).behind

theorem search_standsIn (v : Vocabulary) (i : Nat) (ls : List Line) :
    ∀ s ∈ tree ((search v i ls).filterMap Finding.scope?), StandsIn v i ls s := by
  fun_induction search v i ls with
  | case1 i => simp [tree]
  | case2 i l ls hh c inner hc ih =>
    obtain ⟨body, closer, rest, rfl, hbody, hcl, hind, rfl⟩ := exists_body hc
    rw [drop_body] at ih ⊢
    intro s hs
    simp only [List.filterMap_cons, Finding.scope?, tree, List.mem_cons, List.mem_append] at hs
    rcases hs with rfl | hs | hs
    · exact ⟨[], l, body, closer, rest, rfl, rfl, rfl, hh, hcl, hind, hbody⟩
    · exact StandsIn.append [l] (hbody.standsIn s hs) (closer :: rest)
    · exact (ih s hs).behind
  | case3 i l ls hh hc ih => exact fun s hs => (ih s hs).cons
  | case4 i l ls hh ih => exact fun s hs => (ih s hs).cons

/-- Every scope of a text, at any depth, stands at the lines that it gives. -/
theorem locate_standsIn (v : Vocabulary) (ls : List Line) :
    ∀ s ∈ tree (locate v ls), StandsIn v 0 ls s :=
  search_standsIn v 0 ls

end Scope

end GemOrder
