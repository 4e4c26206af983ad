import GemOrder.Proofs.Blocks
import GemOrder.Proofs.Structure

namespace GemOrder

variable {v : Vocabulary} {next : Option Line}

namespace Region

/-- What follows a region has no part in how it is read, but for the line that stops it. -/
theorem Scanned.replace_left {ls trailing left left' : List Line} {es : List Entry}
    (h : Scanned v ls es trailing left) (hh : left'.head? = left.head?) :
    Scanned v (es.flatMap Entry.lines ++ trailing ++ left') es trailing left' := by
  induction h with
  | stop formatting left hf hl => exact .stop formatting left' hf (by rwa [hh])
  | @entry formatting first tail rest es trailing left hf hd ht hr h ih =>
    have hrest : (es.flatMap Entry.lines ++ trailing ++ left').head? = rest.head? := by
      simp only [h.lines, List.head?_append, hh]
    have hentry := Scanned.entry formatting first tail _ hf hd ht (by rwa [hrest]) (ih hh)
    simpa using hentry

/-- Taking the blank lines away changes nothing else of the entries. -/
theorem map_takeBlanks {α : Type} (f : Entry → α) (hf : ∀ e : Entry, f { e with blanks := [] } = f e)
    (es : List Entry) : (takeBlanks es).2.map f = es.map f := by
  cases es with
  | nil => rfl
  | cons e es => rw [takeBlanks, List.map_cons, List.map_cons, hf]

theorem emitted_ordered {r : Region} (h : r.sortable = true) :
    (r.emitted.map Entry.key).Pairwise fun a b => Entry.keyLE a b = true := by
  rw [emitted, if_pos h, List.pairwise_map]
  exact List.pairwise_mergeSort Entry.le_trans Entry.le_total r.entries

theorem scan_left_of_read {r : Region} {start : Nat} {left : List Line}
    (h : read v start next (r.lines ++ left) = r) : (scan v (r.lines ++ left)).2.2 = left := by
  have hl := read_lines v start next (r.lines ++ left)
  rw [h] at hl
  exact (List.append_cancel_left hl).symm

theorem read_congr {r : Region} {start : Nat} {left left' : List Line}
    (h : read v start next (r.lines ++ left) = r) (hh : left'.head? = left.head?) :
    read v start next (r.lines ++ left') = r := by
  have hs := scan_scanned v (r.lines ++ left)
  have hleft := scan_left_of_read h
  have hlines : r.lines = (scan v (r.lines ++ left)).1.flatMap Entry.lines ++
      (scan v (r.lines ++ left)).2.1 := by
    have hl := hs.lines
    rw [hleft] at hl
    exact List.append_cancel_right hl
  rw [hleft] at hs
  have hs' := (hs.replace_left hh).scan_eq
  rw [← hlines] at hs'
  have hempty : left'.isEmpty = left.isEmpty := by
    cases left with
    | nil => rw [List.head?_eq_none_iff.mp hh]
    | cons l left =>
      obtain ⟨rest, rfl⟩ := List.head?_eq_some_iff.mp hh
      rfl
  conv_rhs => rw [← h]
  simp only [read, hs', hleft, hempty]

end Region

namespace Sorter

theorem opensRegion_cons (l : Line) (ls : List Line) :
    opensRegion v (l :: ls) = (v.isDeclaration l || (v.isComment l && opensRegion v ls)) := by
  cases hc : v.isComment l with
  | true =>
    have hd : v.isDeclaration l = false := by simp [Vocabulary.isDeclaration, hc]
    rw [opensRegion, List.dropWhile_cons_of_pos hc, hd]
    rfl
  | false => simp [opensRegion, List.dropWhile_cons_of_neg, hc]

/-- Whether a region opens is decided before the first line that cannot stand in one. -/
theorem opensRegion_append {ls left left' : List Line} (hh : left'.head? = left.head?)
    (hl : ∀ l ∈ left.head?, v.isLive l = false) :
    opensRegion v (ls ++ left') = opensRegion v (ls ++ left) := by
  induction ls with
  | nil =>
    cases left with
    | nil => rw [List.head?_eq_none_iff.mp hh]
    | cons l left =>
      obtain ⟨rest, rfl⟩ := List.head?_eq_some_iff.mp hh
      have hc := hl l (by simp)
      simp only [Vocabulary.isLive, Vocabulary.isFormatting, Bool.or_eq_false_iff] at hc
      simp [opensRegion_cons, hc.1.2]
  | cons l ls ih => rw [List.cons_append, List.cons_append, opensRegion_cons, opensRegion_cons, ih]

theorem opensRegion_head {ls : List Line} (h : opensRegion v ls = true) :
    ∃ l ∈ ls.head?, v.isLive l = true := by
  cases ls with
  | nil => simp [opensRegion] at h
  | cons l ls =>
    refine ⟨l, rfl, ?_⟩
    rw [opensRegion_cons, Bool.or_eq_true, Bool.and_eq_true] at h
    rcases h with h | h
    · simp [Vocabulary.isLive, h]
    · simp [Vocabulary.isLive, Vocabulary.isFormatting, h.1]

/-- Pieces that lines without a scope are taken apart into, the first of which has number `i`. -/
inductive Run (v : Vocabulary) (next : Option Line) : Nat → List Piece → Prop where
  | nil (i : Nat) : Run v next i []
  | text {i : Nat} {l : Line} {ps : List Piece}
      (h : opensRegion v (l :: ps.flatMap Piece.lines) = false) (hps : Run v next (i + 1) ps) :
      Run v next i (.text [l] :: ps)
  | region {r : Region} {ps : List Piece}
      (h : opensRegion v (r.lines ++ ps.flatMap Piece.lines) = true)
      (hr : Region.read v r.start next (r.lines ++ ps.flatMap Piece.lines) = r)
      (hps : Run v next r.stop ps) : Run v next r.start (.region r :: ps)

theorem runFrom_run (v : Vocabulary) (next : Option Line) (i : Nat) (ls : List Line) :
    Run v next i (runFrom v next i ls) := by
  fun_induction runFrom v next i ls with
  | case1 i => exact .nil i
  | case2 i l ls h r ih =>
    rw [drop_read h] at ih ⊢
    have hl : r.lines ++ (runFrom v next r.stop (Region.scan v (l :: ls)).2.2).flatMap Piece.lines =
        l :: ls := by
      rw [(runFrom_layout v next _ _).lines, ← Region.read_lines]
    exact .region (r := r) (by rwa [hl]) (by rw [hl]; rfl) ih
  | case3 i l ls h ih =>
    refine .text ?_ ih
    rw [(runFrom_layout v next _ _).lines]
    exact Bool.eq_false_iff.mpr h

variable {i : Nat} {ps : List Piece}

theorem Run.behind {before : List Piece} (h : Run v next i (before ++ ps)) :
    Run v next (i + (before.flatMap Piece.lines).length) ps := by
  induction before generalizing i with
  | nil => exact h
  | cons p before ih =>
    have hadd (n : Nat) : i + ((p :: before).flatMap Piece.lines).length =
        i + p.lines.length + (before.flatMap Piece.lines).length := by
      simp [Nat.add_assoc]
    rw [hadd i]
    cases h with
    | text _ hps => exact ih hps
    | region _ _ hps => exact ih hps

theorem Run.formed (h : Run v next i ps) : ∀ r ∈ ps.filterMap Piece.region?, r.Formed v := by
  induction h with
  | nil i => simp
  | text _ _ ih => simpa [Piece.region?] using ih
  | region _ hr _ ih =>
    have hf := hr ▸ Region.read_formed v _ _ _
    simp only [List.filterMap_cons, Piece.region?, List.mem_cons, forall_eq_or_imp]
    exact ⟨hf, ih⟩

theorem Run.lines_ne (h : Run v next i ps) : ∀ p ∈ ps, p.lines ≠ [] := by
  induction h with
  | nil i => simp
  | text _ _ ih => simpa [Piece.lines] using ih
  | region h hr _ ih =>
    have hne := hr ▸ read_lines_ne h _ _
    simpa [Piece.lines] using ⟨hne, ih⟩

theorem Run.length_pos {before : List Piece} (h : Run v next i (before ++ ps)) (hne : before ≠ []) :
    0 < (before.flatMap Piece.lines).length := by
  obtain ⟨p, hp⟩ := List.exists_mem_of_ne_nil before hne
  rw [List.length_pos_iff, Ne, List.flatMap_eq_nil_iff]
  exact fun hall => h.lines_ne p (by simp [hp]) (hall p hp)

theorem Run.tail {r : Region} (h : Run v next i (.region r :: ps)) : Run v next r.stop ps := by
  cases h
  assumption

/-- Behind a region stands a line that cannot stand in one. -/
theorem Run.stops {r : Region} (h : Run v next i (.region r :: ps)) :
    ∀ l ∈ (ps.flatMap Piece.lines).head?, v.isLive l = false := by
  cases h with
  | region _ hr _ =>
    have hs := (Region.scan_scanned v (r.lines ++ ps.flatMap Piece.lines)).left_head
    rw [Region.scan_left_of_read hr] at hs
    intro l hl
    simp [Vocabulary.isLive, hs l hl]

/-- A line that cannot stand in a region does not move. -/
theorem Run.render_head (h : Run v next i ps)
    (hs : ∀ l ∈ (ps.flatMap Piece.lines).head?, v.isLive l = false) :
    (ps.flatMap Piece.render).head? = (ps.flatMap Piece.lines).head? := by
  cases h with
  | nil i => rfl
  | text _ _ => rfl
  | region h _ _ =>
    obtain ⟨l, hl, hlive⟩ := opensRegion_head h
    have := hs l (by simpa [Piece.lines] using hl)
    simp [hlive] at this

/-- A comment that stands outside all regions stays outside. -/
theorem Run.opensRegion_of_render (h : Run v next i ps)
    (ho : opensRegion v (ps.flatMap Piece.render) = true) :
    opensRegion v (ps.flatMap Piece.lines) = true := by
  induction h with
  | nil i => exact ho
  | @text i l ps h _ ih =>
    simp only [List.flatMap_cons, Piece.render, Piece.lines, List.singleton_append, opensRegion_cons,
      Bool.or_eq_true, Bool.and_eq_true] at ho ⊢
    exact ho.imp_right fun hc => ⟨hc.1, ih hc.2⟩
  | region h _ _ _ => simpa [Piece.lines] using h

end Sorter

namespace Piece

def blocks : Piece → List (List Line)
  | .text ls => singles ls
  | .region r => r.blocks

theorem blocks_flatten {ps : List Piece} (h : ∀ r ∈ ps.filterMap Piece.region?, r.Formed v) :
    (ps.flatMap Piece.blocks).flatten = ps.flatMap Piece.render := by
  induction ps with
  | nil => rfl
  | cons p ps ih =>
    rw [List.flatMap_cons, List.flatten_append, List.flatMap_cons]
    cases p with
    | text ls => rw [ih (by simpa [region?] using h), Piece.blocks, singles_flatten, Piece.render]
    | region r =>
      simp only [List.filterMap_cons, region?, List.mem_cons, forall_eq_or_imp] at h
      rw [ih h.2, Piece.blocks, h.1.blocks_flatten, Piece.render]

end Piece

namespace Sorter

variable {i : Nat} {ps : List Piece}

theorem Run.blocks_block (h : Run v next i ps) : ∀ b ∈ ps.flatMap Piece.blocks, Block v b := by
  induction h with
  | nil i => simp
  | @text i l ps h _ ih =>
    intro b hb
    rcases List.mem_append.mp (List.flatMap_cons ▸ hb) with hb | hb
    · obtain rfl : b = [l] := by simpa [Piece.blocks, singles] using hb
      rw [opensRegion_cons, Bool.or_eq_false_iff] at h
      exact .line l h.1
    · exact ih b hb
  | region _ hr _ ih =>
    have hf := hr ▸ Region.read_formed v _ _ _
    intro b hb
    rcases List.mem_append.mp (List.flatMap_cons ▸ hb) with hb | hb
    · exact (hf.blocks_block b hb).1
    · exact ih b hb

/-- Blocks that are left when reading stops are those of the pieces behind some point. -/
theorem Run.suffix_blocks (h : Run v next i ps) {left : List (List Line)}
    (hs : left <:+ ps.flatMap Piece.blocks) (hleft : ∀ l ∈ left.flatten.head?, v.isLive l = false) :
    ∃ before behind, ps = before ++ behind ∧ left = behind.flatMap Piece.blocks := by
  induction h with
  | nil i => exact ⟨[], [], rfl, List.suffix_nil.mp hs⟩
  | @text i l ps h _ ih =>
    rcases List.suffix_cons_iff.mp hs with rfl | hs
    · exact ⟨[], _, rfl, rfl⟩
    · obtain ⟨before, behind, rfl, hb⟩ := ih hs
      exact ⟨.text [l] :: before, behind, rfl, hb⟩
  | @region r ps _ hr _ ih =>
    have hf := hr ▸ Region.read_formed v _ _ _
    rw [List.flatMap_cons] at hs
    obtain ⟨before, behind, rfl, hb⟩ := ih (Block.suffix_of_live
      (fun b hb => (hf.blocks_block b hb).1) (fun b hb => (hf.blocks_block b hb).2) hleft hs)
    exact ⟨.region r :: before, behind, rfl, hb⟩

end Sorter

namespace Region

/-- A region that starts inside another one and ends behind it. -/
def Overruns (r' r : Region) : Prop :=
  r.Covers r'.start ∧ r.stop < r'.stop

/-- An entry of the region would run on into the line behind the region if it were the last. -/
def RunsOn (v : Vocabulary) (r : Region) (behind : Option Line) : Prop :=
  ∃ e ∈ r.entries, ∃ first ∈ e.statement.head?, ∃ l ∈ behind,
    ∀ k ∈ r.trailing ++ [l], v.continues first k = true

theorem Formed.runsOn {r : Region} (h : r.Formed v) {before behind : List (List Line)} {first l : Line}
    {tail left : List Line} (hb : before ++ (first :: tail) :: behind <:+ r.blocks)
    (hd : v.isDeclaration first = true) (hl : l ∈ left.head?)
    (hc : ∀ k ∈ behind.flatten ++ [l], v.continues first k = true) : r.RunsOn v left.head? := by
  have hsuf : (first :: tail) :: behind <:+ r.blocks := (List.suffix_append _ _).trans hb
  have hmem : first :: tail ∈ r.blocks := hsuf.subset (by simp)
  have hnf := Vocabulary.isDeclaration_not_formatting hd
  have hno : first :: tail ∉ singles r.trailing := by
    intro hm
    obtain ⟨k, hk, he⟩ := List.mem_map.mp hm
    obtain rfl : k = first := (List.cons.inj he).1
    rw [h.trailing k hk] at hnf
    contradiction
  -- the formatting behind the last entry comes after the statement that runs on
  have htrail : singles r.trailing <:+ behind := by
    rcases List.suffix_or_suffix_of_suffix (List.suffix_append _ _ : singles r.trailing <:+ r.blocks)
      hsuf with hs | hs
    · rcases List.suffix_cons_iff.mp hs with he | hs
      · rw [he] at hno
        simp at hno
      · exact hs
    · exact absurd (hs.subset (by simp)) hno
  obtain ⟨e, he, hs⟩ : ∃ e ∈ r.entries, first :: tail = e.statement := by
    rcases h.mem_blocks hmem with ⟨k, hk, hf⟩ | he
    · obtain rfl : first = k := (List.cons.inj hk).1
      rw [hf] at hnf
      contradiction
    · exact he
  refine ⟨e, he, first, by simp [← hs], l, hl, fun k hk => hc k ?_⟩
  rw [List.mem_append] at hk ⊢
  refine hk.imp_left fun hk => ?_
  obtain ⟨c, rfl⟩ := htrail
  rw [List.flatten_append, singles_flatten]
  exact List.mem_append_right _ hk

end Region

namespace Sorter

variable {i : Nat} {ps : List Piece}

/-- A region that starts in a sorted region of some pieces and ends behind it. -/
def Crossing (v : Vocabulary) (ps : List Piece) (r' : Region) : Prop :=
  ∃ before r behind, ps = before ++ .region r :: behind ∧ r.sortable = true ∧ r'.Overruns r ∧
    r.RunsOn v (behind.flatMap Piece.lines).head?

theorem Crossing.append_left {r' : Region} (h : Crossing v ps r') (qs : List Piece) :
    Crossing v (qs ++ ps) r' := by
  obtain ⟨before, r, behind, rfl, h⟩ := h
  exact ⟨qs ++ before, r, behind, by simp, h⟩

/-- How far reading goes that starts at a block of a sorted region: to the end of the region, with keys
that are in order there, or over it to the end of some piece behind, since an entry runs on. -/
theorem Run.scan_blocks (hv : v.Usable) {r : Region} (h : Run v next i (.region r :: ps))
    {bs : List (List Line)} (hb : bs <:+ r.blocks) :
    ∃ before behind, ps = before ++ behind ∧
      (Region.scan v (bs.flatten ++ ps.flatMap Piece.render)).2.2 = behind.flatMap Piece.render ∧
      (before = [] → ((Region.scan v (bs.flatten ++ ps.flatMap Piece.render)).1.map Entry.key).Sublist
        (r.emitted.map Entry.key)) ∧
      (before ≠ [] → r.RunsOn v (ps.flatMap Piece.lines).head?) := by
  have hr : r.Formed v := h.formed r (by simp [Piece.region?])
  have hstops := h.stops
  have hps := h.tail
  have hblock : ∀ b ∈ bs, Block v b := fun b hm => (hr.blocks_block b (hb.subset hm)).1
  have hlive : ∀ b ∈ bs, ∀ l ∈ b.head?, v.isLive l = true := fun b hm =>
    (hr.blocks_block b (hb.subset hm)).2
  have hall : ∀ b ∈ bs ++ ps.flatMap Piece.blocks, Block v b :=
    List.forall_mem_append.mpr ⟨hblock, hps.blocks_block⟩
  obtain ⟨taken, left, es, trailing, he, hs, hk⟩ := Region.scanned_blocks hv hall
  have hdead : ∀ l ∈ left.flatten.head?, v.isLive l = false := fun l hl => by
    simp [Vocabulary.isLive, hs.left_head l hl]
  obtain ⟨before, behind, rfl, rfl⟩ := hps.suffix_blocks
    (Block.suffix_of_live hblock hlive hdead ⟨taken, he.symm⟩) hdead
  have hflat := Piece.blocks_flatten hps.formed
  have hflat' := Piece.blocks_flatten hps.behind.formed
  rw [List.flatten_append, hflat, hflat'] at hs
  have hscan := hs.scan_eq
  refine ⟨before, behind, rfl, by rw [hscan], ?_, ?_⟩
  · rintro rfl
    rw [List.nil_append] at he
    rw [hscan, ← hr.keys_blocks]
    obtain rfl := List.append_cancel_right he
    refine hk.trans ?_
    exact ((hb.sublist.filterMap _).filter _).map _
  · intro hne
    have hhead := hps.render_head hstops
    rw [← hhead] at hstops ⊢
    rcases Region.scanned_live hv hblock hlive hstops with
      ⟨es', trailing', hs'⟩ | ⟨c, first, tail, d, rfl, hd, l, hl, hc⟩
    · -- reading would stop at the end of the region, before the pieces that it has gone over
      have hlen := congrArg (fun s => s.2.2.length) (hscan.symm.trans hs'.scan_eq)
      simp only [List.flatMap_append, List.length_append] at hlen
      have hpos := hps.length_pos hne
      rw [← Piece.render_length before] at hpos
      omega
    · exact hr.runsOn hb hd hl hc

/-- A region that is read anew from a block of a sorted region on. -/
theorem Run.reread_front (hv : v.Usable) {r : Region} (h : Run v next i (.region r :: ps))
    (hsort : r.sortable = true) {taken bs : List (List Line)} (hb : taken ++ bs = r.blocks)
    (hne : bs ≠ []) (j : Nat) (hj : j = r.start + taken.flatten.length) :
    ∃ before behind, ps = before ++ behind ∧
      (Region.scan v (bs.flatten ++ ps.flatMap Piece.render)).2.2 = behind.flatMap Piece.render ∧
      (Region.read v j next (bs.flatten ++ ps.flatMap Piece.render)).stop =
        r.stop + (before.flatMap Piece.lines).length ∧
      ((Region.read v j next (bs.flatten ++ ps.flatMap Piece.render)).Settled ∨
        Crossing v (.region r :: ps) (Region.read v j next (bs.flatten ++ ps.flatMap Piece.render))) := by
  have hr : r.Formed v := h.formed r (by simp [Piece.region?])
  obtain ⟨before, behind, hps, hleft, hord, hrun⟩ := h.scan_blocks hv (hb ▸ List.suffix_append taken bs)
  have hlen : r.stop = j + bs.flatten.length := by
    rw [Region.stop, ← r.render_length, ← hr.blocks_flatten, ← hb, hj, List.flatten_append,
      List.length_append, Nat.add_assoc]
  have hlines := congrArg List.length
    (Region.read_lines v j next (bs.flatten ++ ps.flatMap Piece.render))
  rw [hleft, List.length_append, List.length_append, Piece.render_length, Piece.render_length, hps,
    List.flatMap_append, List.length_append] at hlines
  rw [← hps] at hlines
  have hstop : (Region.read v j next (bs.flatten ++ ps.flatMap Piece.render)).stop =
      r.stop + (before.flatMap Piece.lines).length := by
    rw [Region.stop, Region.read_start]
    omega
  refine ⟨before, behind, hps, hleft, hstop, ?_⟩
  by_cases hnil : before = []
  · left
    right
    have hkeys := (Region.emitted_ordered hsort).sublist (hord hnil)
    rw [← Region.map_takeBlanks Entry.key fun _ => rfl, List.pairwise_map] at hkeys
    exact hkeys
  · right
    refine ⟨[], r, ps, rfl, hsort, ⟨⟨?_, ?_⟩, ?_⟩, hrun hnil⟩
    · rw [Region.read_start]
      omega
    · obtain ⟨b, hbm⟩ := List.exists_mem_of_ne_nil bs hne
      have hbne := (hr.blocks_block b (by simp [← hb, hbm])).1.ne_nil
      have hpos : 0 < bs.flatten.length := by
        rw [List.length_pos_iff, Ne, List.flatten_eq_nil_iff]
        exact fun hall => hbne (hall b hbm)
      rw [Region.read_start]
      omega
    · rw [hps] at h
      have hpos := h.tail.length_pos hnil
      omega

/-- From a block of a sorted region on, every region that is read anew is settled or crosses the end of
a sorted one, provided that this holds from each piece behind the region on. -/
theorem Run.reread_blocks (hv : v.Usable) {r : Region} (h : Run v next i (.region r :: ps))
    (hsort : r.sortable = true)
    (hbehind : ∀ before behind, ps = before ++ behind →
      ∀ r' ∈ (runFrom v next (r.stop + (before.flatMap Piece.lines).length)
        (behind.flatMap Piece.render)).filterMap Piece.region?,
        r'.Settled ∨ Crossing v (.region r :: ps) r')
    {taken bs : List (List Line)} (hb : taken ++ bs = r.blocks) :
    ∀ r' ∈ (runFrom v next (r.start + taken.flatten.length)
      (bs.flatten ++ ps.flatMap Piece.render)).filterMap Piece.region?,
      r'.Settled ∨ Crossing v (.region r :: ps) r' := by
  have hr : r.Formed v := h.formed r (by simp [Piece.region?])
  induction bs generalizing taken with
  | nil =>
    have hstop : r.start + taken.flatten.length = r.stop := by
      rw [Region.stop, ← r.render_length, ← hr.blocks_flatten, ← hb, List.append_nil]
    rw [hstop]
    exact hbehind [] ps rfl
  | cons b bs ih =>
    cases ho : opensRegion v ((b :: bs).flatten ++ ps.flatMap Piece.render) with
    | true =>
      obtain ⟨before, behind, hps, hleft, hstop, hread⟩ :=
        h.reread_front hv hsort hb (by simp) _ rfl
      rw [runFrom_region ho, hleft, hstop]
      simp only [List.filterMap_cons, Piece.region?, List.mem_cons, forall_eq_or_imp]
      exact ⟨hread, hbehind before behind hps⟩
    | false =>
      cases (hr.blocks_block b (by simp [← hb])).1 with
      | line l _ =>
        have hb' : taken ++ [[l]] ++ bs = r.blocks := by simpa using hb
        have hmore := ih hb'
        simp only [List.flatten_append, List.flatten_singleton, List.length_append,
          List.length_singleton, ← Nat.add_assoc] at hmore
        rw [List.flatten_cons, List.append_assoc, List.singleton_append] at ho ⊢
        rw [runFrom_text ho]
        simpa [Piece.region?] using hmore
      | statement first tail hd _ =>
        rw [List.flatten_cons, List.cons_append, List.cons_append, opensRegion_cons, hd] at ho
        contradiction

/-- A line that opens no region opens none in sorted lines either. -/
theorem Run.text_stays {l : Line} (h : Run v next i (.text [l] :: ps)) :
    runFrom v next i (l :: ps.flatMap Piece.render) =
      .text [l] :: runFrom v next (i + 1) (ps.flatMap Piece.render) := by
  apply runFrom_text
  apply Bool.eq_false_iff.mpr
  intro hopen
  have hbefore := h.opensRegion_of_render hopen
  cases h with
  | text ho _ => simp [Piece.lines, ho] at hbefore

/-- A region that is not sorted is read again as it was. -/
theorem Run.region_stays {r : Region} (h : Run v next i (.region r :: ps)) (hsort : r.sortable = false) :
    runFrom v next i (r.render ++ ps.flatMap Piece.render) =
      .region r :: runFrom v next r.stop (ps.flatMap Piece.render) := by
  have hstops := h.stops
  cases h with
  | region ho hread hps =>
    have hhead := hps.render_head hstops
    have hsame := Region.read_congr hread hhead
    have hopen : opensRegion v (r.lines ++ ps.flatMap Piece.render) = true := by
      rw [opensRegion_append hhead hstops, ho]
    rw [Region.render_of_not_sortable hsort, runFrom_region hopen, hsame,
      Region.scan_left_of_read hsame]

/-- A region that is read from sorted lines is settled, or crosses the end of a sorted region. -/
theorem Run.reread (hv : v.Usable) (h : Run v next i ps) :
    ∀ r' ∈ (runFrom v next i (ps.flatMap Piece.render)).filterMap Piece.region?,
      r'.Settled ∨ Crossing v ps r' := by
  induction hn : ps.length using Nat.strong_induction_on generalizing i ps with
  | _ n ih =>
    cases h with
    | nil => simp [runFrom]
    | @text _ l qs ho hqs =>
      have hstay := (Run.text ho hqs).text_stays
      intro r' hr'
      have hmem : r' ∈ (runFrom v next (i + 1) (qs.flatMap Piece.render)).filterMap Piece.region? := by
        simpa [Piece.render, hstay, Piece.region?] using hr'
      exact (ih qs.length (by simp [← hn]) hqs rfl r' hmem).imp_right fun hc =>
        hc.append_left [.text [l]]
    | @region r qs ho hread hqs =>
      have hrun := Run.region ho hread hqs
      cases hsort : r.sortable with
      | true =>
        have hr : r.Formed v := hrun.formed r (by simp [Piece.region?])
        have hall := hrun.reread_blocks hv hsort (by
          intro before behind hps r' hr'
          subst hps
          have hlt : behind.length < n := by
            simp only [← hn, List.length_cons, List.length_append]
            omega
          exact (ih behind.length hlt hqs.behind rfl r' hr').imp_right fun hc =>
            hc.append_left (.region r :: before)) (List.nil_append r.blocks)
        rw [hr.blocks_flatten] at hall
        simpa [Piece.render] using hall
      | false =>
        rw [List.flatMap_cons, Piece.render, hrun.region_stays hsort]
        simp only [List.filterMap_cons, Piece.region?, List.mem_cons, forall_eq_or_imp]
        refine ⟨Or.inl (Region.settled_of_not_sortable hsort), fun r' hr' => ?_⟩
        exact (ih qs.length (by simp [← hn]) hqs rfl r' hr').imp_right fun hc =>
          hc.append_left [.region r]

/-- What holds between the pieces of each run and those that are read from it when it is sorted holds
between the pieces of a span with all scopes in it, before sorting and after. -/
theorem span_lift {P : List Piece → List Piece → Prop}
    (happend : ∀ ps ps' qs qs', P ps qs → P ps' qs' → P (ps ++ ps') (qs ++ qs'))
    (htext : ∀ ls, P [.text ls] [.text ls])
    (hrun : ∀ next i ps, Run v next i ps → P ps (runFrom v next i (ps.flatMap Piece.render)))
    {ls out : List Line} (hlen : out.length = ls.length)
    {start stop : Nat} {scopes : List Scope} (h : Scope.Fits start stop scopes)
    (hs : stop ≤ ls.length) (hnext : out[stop]? = ls[stop]?)
    (hout : slice out start stop = (span v ls start stop scopes).flatMap Piece.render) :
    P (span v ls start stop scopes) (span v out start stop scopes) := by
  have hreread {a b : Nat} (hb : out[b]? = ls[b]?)
      (ho : slice out a b = (run v ls a b).flatMap Piece.render) : P (run v ls a b) (run v out a b) := by
    have hp := hrun _ _ _ (runFrom_run v ls[b]? a (slice ls a b))
    have hagain : run v out a b = runFrom v ls[b]? a ((run v ls a b).flatMap Piece.render) := by
      rw [run, hb, ho]
    rw [hagain]
    exact hp
  induction h with
  | nil h =>
    rw [span] at hout ⊢
    rw [span]
    exact hreread hnext hout
  | @cons lo hi header closer children scopes h inside behind ihi ihb =>
    have hin := inside.le
    have hbe := behind.le
    have hfirst : ((run v ls lo header).flatMap Piece.render).length = header - lo := by
      rw [Piece.render_length, run_length (by omega)]
    have hbody : ((span v ls (header + 1) closer children).flatMap Piece.render).length =
        closer - (header + 1) := by
      rw [Piece.render_length, span_length inside (by omega)]
    have hone {i : Nat} (hi : i < ls.length) : (slice ls i (i + 1)).length = i + 1 - i :=
      slice_length (by omega)
    simp only [span, List.flatMap_append, List.flatMap_cons, Piece.render, List.append_assoc] at hout
    obtain ⟨hfront, hout⟩ := slice_split h (by omega) (by omega) hfirst hout
    obtain ⟨hheader, hout⟩ := slice_split (by omega) (by omega) (by omega) (hone (by omega)) hout
    obtain ⟨hchildren, hout⟩ := slice_split hin (by omega) (by omega) hbody hout
    obtain ⟨hcloser, hrest⟩ := slice_split (by omega) (by omega) (by omega) (hone (by omega)) hout
    have hh : out[header]? = ls[header]? := by rw [← slice_head, hheader, slice_head]
    have hc : out[closer]? = ls[closer]? := by rw [← slice_head, hcloser, slice_head]
    have hinner := happend _ _ _ _ (htext (slice ls header (header + 1))) (ihi (by omega) hc hchildren)
    have houter := happend _ _ _ _ (htext (slice ls closer (closer + 1))) (ihb hs hnext hrest)
    rw [span, span, hheader, hcloser]
    exact happend _ _ _ _ (happend _ _ _ _ (hreread hh hfront) hinner) houter

/-- Sorted lines have their scopes where they were, so that all pieces can be compared run by run. -/
theorem pieces_lift (hv : v.Usable) (ha : v.Apart) {P : List Piece → List Piece → Prop}
    (happend : ∀ ps ps' qs qs', P ps qs → P ps' qs' → P (ps ++ ps') (qs ++ qs'))
    (htext : ∀ ls, P [.text ls] [.text ls])
    (hrun : ∀ next i ps, Run v next i ps → P ps (runFrom v next i (ps.flatMap Piece.render)))
    (ls : List Line) : P (pieces v ls) (pieces v (sortLines v ls)) := by
  have hlen : (sortLines v ls).length = ls.length := (sortLines_perm v ls).length_eq
  rw [pieces, pieces, locate_sortLines hv ha, hlen]
  apply span_lift happend htext hrun hlen (Scope.locate_fits v ls) (Nat.le_refl _)
  · rw [List.getElem?_eq_none (by omega), List.getElem?_eq_none (by omega)]
  · rw [← hlen, slice_all, hlen]
    rfl

end Sorter

end GemOrder
