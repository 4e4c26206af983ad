import GemOrder.Proofs.Idempotence
import Mathlib

namespace GemOrder

variable {v : Vocabulary}

/-- The indent of the declaration of an entry. -/
def Entry.indent (e : Entry) : Option Nat :=
  e.statement.head?.map Line.indent

namespace Region

/-- The declarations of all entries stand at one indent. -/
def Level (r : Region) : Prop :=
  ∀ e ∈ r.entries, ∀ f ∈ r.entries, e.indent = f.indent

instance (r : Region) : Decidable r.Level :=
  inferInstanceAs (Decidable (∀ e ∈ r.entries, ∀ f ∈ r.entries, e.indent = f.indent))

end Region

/-- Of the line that opens a statement only the indent decides what continues it. -/
theorem Vocabulary.continues_congr {first second : Line} (h : first.indent = second.indent) (l : Line) :
    v.continues first l = v.continues second l := by
  rw [continues, continues, h]

/-- No declaration continues a statement that stands at its indent. -/
theorem Vocabulary.declaration_not_continues (hv : v.Usable) {first l : Line}
    (hd : v.isDeclaration l = true) (hi : l.indent ≤ first.indent) : v.continues first l = false := by
  apply Bool.eq_false_iff.mpr
  intro hc
  have hdeeper := (continues_iff_follows.mp hc).declaration_deeper hv hd
  omega

namespace Region

variable {ls trailing left : List Line} {es : List Entry}

/-- Formatting can be taken away in front without a change to the names. -/
theorem Scanned.drop_formatting {formatting : List Line}
    (hf : ∀ l ∈ formatting, v.isFormatting l = true) (h : Scanned v (formatting ++ ls) es trailing left) :
    ∃ es' trailing', Scanned v ls es' trailing' left ∧ es'.map Entry.name = es.map Entry.name := by
  induction formatting generalizing es trailing with
  | nil => exact ⟨es, trailing, h, rfl⟩
  | cons l formatting ih =>
    -- lines are taken apart in one way only, so that putting the line back gives what was read
    have hs := scan_scanned v (formatting ++ ls)
    obtain ⟨es', trailing', hs', hn⟩ := hs.cons_formatting (hf l (by simp))
    have heq := hs'.scan_eq.symm.trans h.scan_eq
    simp only [Prod.mk.injEq] at heq
    obtain ⟨rfl, rfl, hleft⟩ := heq
    rw [hleft] at hs
    rw [hn]
    exact ih (fun k hk => hf k (by simp [hk])) hs

/-- Before the declaration of the first entry there is formatting only. -/
theorem Scanned.exists_first (h : Scanned v ls es trailing left) (hne : es ≠ []) :
    ∃ formatting first behind, ls = formatting ++ first :: behind ∧
      (∀ l ∈ formatting, v.isFormatting l = true) ∧ v.isDeclaration first = true := by
  cases h with
  | stop formatting left hf hl => contradiction
  | entry formatting first tail rest hf hd ht hr h =>
    exact ⟨formatting, first, tail ++ rest, by simp, hf, hd⟩

/-- The line behind the last entry does not continue its statement. -/
theorem Scanned.last_stops (h : Scanned v ls es trailing left) :
    ∀ e ∈ es.getLast?, ∀ first ∈ e.statement.head?, ∀ l ∈ (trailing ++ left).head?,
      v.continues first l = false := by
  induction h with
  | stop formatting left hf hl => simp
  | @entry formatting first tail rest es trailing left hf hd ht hr h ih =>
    cases es with
    | nil =>
      have hrest := h.lines
      rw [List.flatMap_nil, List.nil_append] at hrest
      rw [← hrest]
      simpa [Entry.new] using hr
    | cons e es =>
      rw [List.getLast?_cons_cons]
      exact ih

/-- The line behind a region continues none of its entries if they stand at one indent. -/
theorem read_level_stops {start : Nat} {next : Option Line} {r : Region} (hr : read v start next ls = r)
    {d : Nat} (hd : ∀ e ∈ r.entries, e.indent = some d) (hne : r.entries ≠ []) :
    ∀ first : Line, first.indent = d → ∀ l ∈ (r.trailing ++ (scan v ls).2.2).head?,
      v.continues first l = false := by
  have hlast := (scan_scanned v ls).last_stops
  have htrailing : (scan v ls).2.1 = r.trailing := congrArg Region.trailing hr
  have hstatements : (scan v ls).1.map Entry.statement = r.entries.map Entry.statement := by
    rw [← hr]
    exact (map_takeBlanks Entry.statement (fun _ => rfl) _).symm
  rw [htrailing] at hlast
  intro first hfirst l hl
  have hend := congrArg List.getLast? hstatements
  rw [List.getLast?_map, List.getLast?_map, List.getLast?_eq_some_getLast hne, Option.map_some] at hend
  obtain ⟨f, hf, hs⟩ := Option.map_eq_some_iff.mp hend
  obtain ⟨last, hhead, hi⟩ := Option.map_eq_some_iff.mp (hd _ (List.getLast_mem hne))
  rw [Vocabulary.continues_congr (hfirst.trans hi.symm)]
  exact hlast f hf last (hs ▸ hhead) l hl

/-- A statement takes no more than formatting of the entries behind it if they stand at its indent. -/
theorem taken_formatting (hv : v.Usable) {first : Line} {behind : List Line}
    (hes : ∀ e ∈ es, e.Formed v) (hd : ∀ e ∈ es, e.indent = some first.indent)
    (hstop : ∀ l ∈ behind.head?, v.continues first l = false) :
    ∀ l ∈ (es.flatMap Entry.lines ++ behind).takeWhile (v.continues first),
      v.isFormatting l = true := by
  cases es with
  | nil =>
    cases behind with
    | nil => simp
    | cons l behind => simp [hstop l (by simp)]
  | cons e es =>
    have he := hes e (by simp)
    obtain ⟨second, tail, hs, hdecl, -, -⟩ := he.statement
    have hi : second.indent = first.indent := by simpa [Entry.indent, hs] using hd e (by simp)
    have hsecond := Vocabulary.declaration_not_continues hv hdecl (Nat.le_of_eq hi)
    intro l hl
    have hlines : (e :: es).flatMap Entry.lines ++ behind =
        (e.blanks ++ e.formatting) ++ second :: (tail ++ es.flatMap Entry.lines ++ behind) := by
      simp [Entry.lines, hs]
    rw [hlines, List.takeWhile_append, List.takeWhile_cons_of_neg (by simp [hsecond]),
      List.append_nil] at hl
    have hmem : l ∈ e.blanks ++ e.formatting := by
      split at hl
      · exact hl
      · exact (List.takeWhile_sublist _).subset hl
    rcases List.mem_append.mp hmem with hm | hm
    · simp [Vocabulary.isFormatting, he.blanks l hm]
    · exact he.formatting l hm

/-- Entries whose declarations stand at one indent are read with their names, in whatever order they
stand, if the line behind them continues none of them. -/
theorem scanned_level (hv : v.Usable) {d : Nat} (hes : ∀ e ∈ es, e.Formed v)
    (hd : ∀ e ∈ es, e.indent = some d) (ht : ∀ l ∈ trailing, v.isFormatting l = true)
    (hl : ∀ l ∈ left.head?, v.isFormatting l = false ∧ v.isDeclaration l = false)
    (hstop : ∀ first : Line, first.indent = d → ∀ l ∈ (trailing ++ left).head?,
      v.continues first l = false) :
    ∃ es' trailing', Scanned v (es.flatMap Entry.lines ++ (trailing ++ left)) es' trailing' left ∧
      es'.map Entry.name = es.map Entry.name := by
  induction es with
  | nil => exact ⟨[], trailing, .stop trailing left ht hl, rfl⟩
  | cons e es ih =>
    have he := hes e (by simp)
    obtain ⟨first, tail, hs, hdecl, htail, hname⟩ := he.statement
    have hfirst : first.indent = d := by simpa [Entry.indent, hs] using hd e (by simp)
    have hes' : ∀ f ∈ es, f.Formed v := fun f hf => hes f (by simp [hf])
    have hd' : ∀ f ∈ es, f.indent = some first.indent := by
      intro f hf
      rw [hfirst]
      exact hd f (by simp [hf])
    obtain ⟨found, trailing', hscan, hn⟩ := ih hes' fun f hf => hd f (by simp [hf])
    have hmore := taken_formatting hv hes' hd' (hstop first hfirst)
    generalize hrest : es.flatMap Entry.lines ++ (trailing ++ left) = rest at hscan hmore
    -- what the statement takes is formatting, and without it the same names are read
    rw [← List.takeWhile_append_dropWhile (p := v.continues first) (l := rest)] at hscan
    obtain ⟨found', trailing'', hscan', hn'⟩ := hscan.drop_formatting hmore
    have hformatting : ∀ l ∈ e.blanks ++ e.formatting, v.isFormatting l = true := by
      refine List.forall_mem_append.mpr ⟨fun l hl => ?_, he.formatting⟩
      simp [Vocabulary.isFormatting, he.blanks l hl]
    have hentry := Scanned.entry (e.blanks ++ e.formatting) first
      (tail ++ rest.takeWhile (v.continues first)) (rest.dropWhile (v.continues first)) hformatting hdecl
      (List.forall_mem_append.mpr ⟨htail, fun l hl => List.mem_takeWhile_imp hl⟩)
      (Text.head?_dropWhile _ _) hscan'
    have hlines : (e :: es).flatMap Entry.lines ++ (trailing ++ left) =
        e.blanks ++ e.formatting ++ first :: (tail ++ rest) := by
      simp [Entry.lines, hs, ← hrest]
    rw [List.append_assoc tail, List.takeWhile_append_dropWhile, ← hlines] at hentry
    refine ⟨_, _, hentry, ?_⟩
    · rw [List.map_cons, List.map_cons, hn', hn, hname]
      rfl

/-- Entries the way they are written: the region's leading lines stand before the first one, and the
blank lines of that one before the second. -/
def handOver (leading : List Line) : List Entry → List Entry
  | e :: f :: es => { e with blanks := leading } :: { f with blanks := e.blanks ++ f.blanks } :: es
  | es => es

theorem map_handOver {α : Type} (g : Entry → α)
    (hg : ∀ (e : Entry) (blanks : List Line), g { e with blanks } = g e) (leading : List Line)
    (es : List Entry) : (handOver leading es).map g = es.map g := by
  rcases es with _ | ⟨e, _ | ⟨f, es⟩⟩
  · rfl
  · rfl
  · simp only [handOver, List.map_cons, hg]

theorem handOver_formed {leading : List Line} (hl : ∀ l ∈ leading, l.isBlank = true)
    (hes : ∀ e ∈ es, e.Formed v) : ∀ e ∈ handOver leading es, e.Formed v := by
  rcases es with _ | ⟨e, _ | ⟨f, es⟩⟩
  · exact hes
  · exact hes
  · have he := hes e (by simp)
    have hf := hes f (by simp)
    simp only [handOver, List.mem_cons, forall_eq_or_imp]
    refine ⟨⟨hl, he.formatting, he.visible, he.statement⟩, ⟨?_, hf.formatting, hf.visible, hf.statement⟩,
      fun g hg => hes g (by simp [hg])⟩
    exact List.forall_mem_append.mpr ⟨he.blanks, hf.blanks⟩

theorem handOver_lines {r : Region} (h : r.sortable = true) :
    (handOver r.leading r.emitted).flatMap Entry.lines ++ r.trailing = r.render := by
  obtain ⟨e, f, es, he⟩ := exists_emitted h
  rw [render_of_sortable h, he]
  simp [handOver, arrange, Entry.lines]

end Region

namespace Sorter

/-- Formatting before a declaration is passed over up to the line where the region opens. -/
theorem runFrom_opens (next : Option Line) (i : Nat) {formatting : List Line}
    (hf : ∀ l ∈ formatting, v.isFormatting l = true) {first : Line}
    (hd : v.isDeclaration first = true) (ls : List Line) :
    ∃ skipped rest, formatting = skipped ++ rest ∧
      (runFrom v next i (formatting ++ first :: ls)).filterMap Piece.region? =
        Region.read v (i + skipped.length) next (rest ++ first :: ls) ::
          (runFrom v next (Region.read v (i + skipped.length) next (rest ++ first :: ls)).stop
            (Region.scan v (rest ++ first :: ls)).2.2).filterMap Piece.region? := by
  induction formatting generalizing i with
  | nil =>
    have ho : opensRegion v (first :: ls) = true := by rw [opensRegion_cons, hd, Bool.true_or]
    refine ⟨[], [], rfl, ?_⟩
    rw [List.nil_append, runFrom_region ho]
    rfl
  | cons l formatting ih =>
    cases ho : opensRegion v (l :: (formatting ++ first :: ls)) with
    | true =>
      refine ⟨[], l :: formatting, rfl, ?_⟩
      rw [List.cons_append, runFrom_region ho]
      rfl
    | false =>
      obtain ⟨skipped, rest, rfl, hr⟩ := ih (i + 1) fun k hk => hf k (by simp [hk])
      refine ⟨l :: skipped, rest, rfl, ?_⟩
      rw [List.cons_append, runFrom_text ho, List.length_cons, Nat.add_comm skipped.length,
        ← Nat.add_assoc]
      exact hr

/-- If lines can be read as entries, then the first region in them has the names of these entries and
reaches as far. -/
theorem runFrom_scanned (next : Option Line) (i : Nat) {ls trailing left : List Line} {es : List Entry}
    (h : Region.Scanned v ls es trailing left) (hne : es ≠ []) :
    ∃ r, (runFrom v next i ls).filterMap Piece.region? =
        r :: (runFrom v next r.stop left).filterMap Piece.region? ∧
      r.stop + left.length = i + ls.length ∧ r.entries.map Entry.name = es.map Entry.name := by
  obtain ⟨formatting, first, behind, rfl, hf, hd⟩ := h.exists_first hne
  obtain ⟨skipped, rest, rfl, hregions⟩ := runFrom_opens next i hf hd behind
  obtain ⟨hskipped, -⟩ := List.forall_mem_append.mp hf
  rw [List.append_assoc] at h
  obtain ⟨es', trailing', hread, hn⟩ := h.drop_formatting hskipped
  have hlines := congrArg List.length
    (Region.read_lines v (i + skipped.length) next (rest ++ first :: behind))
  rw [hread.scan_eq] at hregions hlines
  refine ⟨_, hregions, ?_, ?_⟩
  · simp only [List.length_append] at hlines ⊢
    rw [Region.stop, Region.read_start]
    omega
  · rw [Region.read, hread.scan_eq]
    exact (Region.map_takeBlanks Entry.name (fun _ => rfl) es').trans hn

end Sorter

namespace Region

/-- How a region is found again in sorted lines: it ends where it did, its names stand in the order in
which they were written, and there is nothing left to sort. -/
structure Again (r r' : Region) : Prop where
  stop : r'.stop = r.stop
  names : r'.entries.map Entry.name = r.emitted.map Entry.name
  settled : r'.Settled

/-- Names in the order in which a sorted region was written leave nothing to sort. -/
theorem settled_of_names {r r' : Region} (hsort : r.sortable = true)
    (h : r'.entries.map Entry.name = r.emitted.map Entry.name) : r'.Settled := by
  right
  have hkeys := emitted_ordered hsort
  rw [← Entry.keys_of_names h, List.pairwise_map] at hkeys
  exact hkeys

theorem again_of_not_sortable {r : Region} (h : r.sortable = false) : r.Again r where
  stop := rfl
  names := by simp [emitted, h]
  settled := settled_of_not_sortable h

theorem again_map_iff {f : Line → Line} {r r' : Region} : r.Again (r'.map f) ↔ r.Again r' := by
  have hnames : (r'.map f).entries.map Entry.name = r'.entries.map Entry.name := by
    simp [map, Entry.map, Function.comp_def]
  constructor
  · intro h
    exact ⟨map_stop r' ▸ h.stop, hnames ▸ h.names, (map_settled r').mp h.settled⟩
  · intro h
    exact ⟨(map_stop r').trans h.stop, hnames.trans h.names, (map_settled r').mpr h.settled⟩

end Region

namespace Sorter

variable {next : Option Line} {i : Nat} {ps : List Piece}

/-- The line behind a region continues none of its entries if they stand at one indent, and sorting what
follows leaves that line where it is. -/
theorem Run.level_stops {r : Region} (h : Run v next i (.region r :: ps)) {d : Nat}
    (hd : ∀ e ∈ r.entries, e.indent = some d) (hne : r.entries ≠ []) :
    ∀ first : Line, first.indent = d → ∀ l ∈ (r.trailing ++ ps.flatMap Piece.render).head?,
      v.continues first l = false := by
  have hstops := h.stops
  cases h with
  | region ho hread hps =>
    have hlevel := Region.read_level_stops hread hd hne
    rw [Region.scan_left_of_read hread] at hlevel
    rw [List.head?_append, hps.render_head hstops, ← List.head?_append]
    exact hlevel

/-- Sorted lines of a region whose declarations stand at one indent are read up to where the region
ended, with the names as they are written. -/
theorem Run.scanned_again (hv : v.Usable) {r : Region} (h : Run v next i (.region r :: ps))
    (hsort : r.sortable = true) (hlevel : r.Level) :
    ∃ es trailing, Region.Scanned v (r.render ++ ps.flatMap Piece.render) es trailing
        (ps.flatMap Piece.render) ∧ es.map Entry.name = r.emitted.map Entry.name := by
  have hr : r.Formed v := h.formed r (by simp [Piece.region?])
  have hne : r.entries ≠ [] := List.ne_nil_of_length_pos (Nat.zero_lt_of_lt (Region.two_entries hsort))
  obtain ⟨e, he⟩ := List.exists_mem_of_ne_nil _ hne
  obtain ⟨first, tail, hs, -⟩ := (hr.entries e he).statement
  have hd : ∀ f ∈ r.entries, f.indent = some first.indent := by
    intro f hf
    rw [hlevel f hf e he, Entry.indent, hs]
    rfl
  have hwritten : ∀ f ∈ Region.handOver r.leading r.emitted, f.indent = some first.indent := by
    rw [← List.forall_mem_map (P := fun d => d = some first.indent),
      Region.map_handOver Entry.indent fun _ _ => rfl, List.forall_mem_map]
    exact fun f hf => hd f (r.emitted_perm.mem_iff.mp hf)
  have hformed := Region.handOver_formed hr.leading fun f hf =>
    hr.entries f (r.emitted_perm.mem_iff.mp hf)
  have hleft : ∀ l ∈ (ps.flatMap Piece.render).head?,
      v.isFormatting l = false ∧ v.isDeclaration l = false := by
    rw [h.tail.render_head h.stops]
    simpa [Vocabulary.isLive] using h.stops
  obtain ⟨es, trailing, hscan, hn⟩ :=
    Region.scanned_level hv hformed hwritten hr.trailing hleft (h.level_stops hd hne)
  rw [← List.append_assoc, Region.handOver_lines hsort] at hscan
  rw [Region.map_handOver Entry.name fun _ _ => rfl] at hn
  exact ⟨es, trailing, hscan, hn⟩

/-- A sorted region is found again if its declarations stand at one indent. -/
theorem Run.region_again (hv : v.Usable) {r : Region} (h : Run v next i (.region r :: ps))
    (hsort : r.sortable = true) (hlevel : r.Level) :
    ∃ r', (runFrom v next i (r.render ++ ps.flatMap Piece.render)).filterMap Piece.region? =
        r' :: (runFrom v next r.stop (ps.flatMap Piece.render)).filterMap Piece.region? ∧
      r.Again r' := by
  obtain ⟨es, trailing, hscan, hn⟩ := h.scanned_again hv hsort hlevel
  have hne : es ≠ [] := by
    have htwo := Region.two_entries hsort
    have hlen := congrArg List.length hn
    rw [List.length_map, List.length_map, r.emitted_perm.length_eq] at hlen
    exact List.ne_nil_of_length_pos (by omega)
  obtain ⟨r', hregions, hstop, hnames⟩ := runFrom_scanned next i hscan hne
  have hlen : r'.stop = r.stop := by
    cases h with
    | region _ _ _ =>
      rw [List.length_append, r.render_length] at hstop
      rw [Region.stop.eq_def r]
      omega
  rw [hlen] at hregions
  have hwritten := hnames.trans hn
  exact ⟨r', hregions, hlen, hwritten, Region.settled_of_names hsort hwritten⟩

theorem Run.regions_again (hv : v.Usable) (h : Run v next i ps)
    (hlevel : ∀ r ∈ ps.filterMap Piece.region?, r.sortable = true → r.Level) :
    List.Forall₂ Region.Again (ps.filterMap Piece.region?)
      ((runFrom v next i (ps.flatMap Piece.render)).filterMap Piece.region?) := by
  induction h with
  | nil i => simp [runFrom]
  | @text i l ps ho hps ih =>
    rw [List.flatMap_cons, Piece.render, List.singleton_append, (Run.text ho hps).text_stays]
    exact ih hlevel
  | @region r ps ho hread hps ih =>
    have hrun := Run.region ho hread hps
    simp only [List.filterMap_cons, Piece.region?, List.mem_cons, forall_eq_or_imp] at hlevel ⊢
    rw [List.flatMap_cons, Piece.render]
    cases hsort : r.sortable with
    | true =>
      obtain ⟨r', he, hagain⟩ := hrun.region_again hv hsort (hlevel.1 hsort)
      rw [he]
      exact .cons hagain (ih hlevel.2)
    | false =>
      rw [hrun.region_stays hsort]
      exact .cons (Region.again_of_not_sortable hsort) (ih hlevel.2)

/-- The regions of sorted lines are those of the lines before, each found again. -/
theorem regions_again (hv : v.Usable) (ha : v.Apart) {ls : List Line}
    (hlevel : ∀ r ∈ regions v ls, r.sortable = true → r.Level) :
    List.Forall₂ Region.Again (regions v ls) (regions v (sortLines v ls)) := by
  refine pieces_lift hv ha (P := fun ps qs =>
    (∀ r ∈ ps.filterMap Piece.region?, r.sortable = true → r.Level) →
      List.Forall₂ Region.Again (ps.filterMap Piece.region?) (qs.filterMap Piece.region?))
    ?_ ?_ ?_ ls hlevel
  · intro ps ps' qs qs' hq hq' hl
    rw [List.filterMap_append] at hl ⊢
    rw [List.filterMap_append]
    obtain ⟨hl, hl'⟩ := List.forall_mem_append.mp hl
    exact List.rel_append (hq hl) (hq' hl')
  · exact fun ls _ => .nil
  · exact fun next i ps hrun hl => hrun.regions_again hv hl

end Sorter

namespace Vocabulary

/-- The regions of a sorted text are those of the text before, each found again. -/
theorem regions_again (hv : v.Usable) (ha : v.Apart) {text : String}
    (hlevel : ∀ r ∈ Sorter.regions v (Source.split text.toList).lines, r.sortable = true → r.Level) :
    List.Forall₂ Region.Again (Sorter.regions v (Source.split text.toList).lines)
      (Sorter.regions v (Source.split (v.sort text).toList).lines) := by
  have hmap (rs qs : List Region) : List.Forall₂ Region.Again rs (qs.map (Region.map Line.content)) ↔
      List.Forall₂ Region.Again rs qs := by
    simp only [List.forall₂_map_right_iff, Region.again_map_iff]
  rw [← hmap, regions_sort hv, hmap]
  exact Sorter.regions_again hv ha hlevel

end Vocabulary

/-- If the declarations of each sorted region stand at one indent, then a second pass finds as many
regions as the first one. They end at the same lines, their names stand in the order in which the first
pass has written them, and there is nothing left to do. -/
theorem sort_twice_of_level {c : Config} {v : Vocabulary} (hv : c.vocabulary = .ok v) (ha : v.Apart)
    {text : String}
    (hlevel : ∀ r ∈ Sorter.regions v (Source.split text.toList).lines, r.sortable = true → r.Level) :
    List.Forall₂ (fun r r' => r'.stop = r.stop ∧ r'.entries.map Entry.name = r.emitted.map Entry.name)
        (Sorter.regions v (Source.split text.toList).lines)
        (Sorter.regions v (Source.split (v.sort text).toList).lines) ∧
      v.sort (v.sort text) = v.sort text := by
  have hagain := Vocabulary.regions_again (Config.vocabulary_usable hv) ha hlevel
  have hsettled := (List.forall₂_and_left _ _).mp (hagain.flip.imp fun r' r h => ⟨h.settled, h⟩)
  exact ⟨hagain.imp fun _ _ h => ⟨h.stop, h.names⟩, Vocabulary.sort_of_settled hsettled.1⟩

set_option maxRecDepth 20000 in
/-- The second pass reads the deep comment as a part of the statement before it, and the comment that
stands alone as a line outside the region. -/
theorem sort_twice_of_level_comments :
    Config.vocabulary {} = .ok Vocabulary.standard ∧ Vocabulary.standard.Apart ∧
      (∀ r ∈ Sorter.regions Vocabulary.standard (Source.split
        "    # deep\ngem 'b'\n# one\n\n# two\ngem 'a'\n".toList).lines, r.sortable = true → r.Level) ∧
      Vocabulary.standard.sort "    # deep\ngem 'b'\n# one\n\n# two\ngem 'a'\n" =
        "# one\n\n# two\ngem 'a'\n    # deep\ngem 'b'\n" ∧
      Vocabulary.standard.sort "# one\n\n# two\ngem 'a'\n    # deep\ngem 'b'\n" =
        "# one\n\n# two\ngem 'a'\n    # deep\ngem 'b'\n" := by
  have hlevel : ∀ r ∈ Sorter.regions Vocabulary.standard (Source.split
      "    # deep\ngem 'b'\n# one\n\n# two\ngem 'a'\n".toList).lines, r.sortable = true → r.Level := by
    have hall : (Sorter.regions Vocabulary.standard (Source.split
        "    # deep\ngem 'b'\n# one\n\n# two\ngem 'a'\n".toList).lines).all (fun r =>
          r.entries.all fun e => r.entries.all fun f => e.indent == f.indent) = true := by cbv
    simp only [List.all_eq_true, beq_iff_eq] at hall
    exact fun r hr _ => hall r hr
  have hsort : Vocabulary.standard.sort "    # deep\ngem 'b'\n# one\n\n# two\ngem 'a'\n" =
      "# one\n\n# two\ngem 'a'\n    # deep\ngem 'b'\n" := by cbv
  have hv := Config.vocabulary_standard
  have ha := Vocabulary.standard_apart
  have htwice := (sort_twice_of_level hv ha hlevel).2
  rw [hsort] at htwice
  exact ⟨hv, ha, hlevel, hsort, htwice⟩

/-- Sorting leaves all scopes where they are, at every depth. -/
theorem locate_sort {c : Config} {v : Vocabulary} (hv : c.vocabulary = .ok v) (ha : v.Apart)
    (text : String) :
    Scope.locate v (Source.split (v.sort text).toList).lines =
      Scope.locate v (Source.split text.toList).lines := by
  have hu := Config.vocabulary_usable hv
  have hc := Vocabulary.unseen_content hu
  calc Scope.locate v (Source.split (v.sort text).toList).lines
    _ = Scope.locate v ((Source.split (v.sort text).toList).lines.map Line.content) :=
      (Sorter.locate_map hc _).symm
    _ = Scope.locate v ((Sorter.sortLines v (Source.split text.toList).lines).map Line.content) := by
      rw [Source.split_contents, Vocabulary.sort_toList, Sorter.cut_sortText]
    _ = Scope.locate v (Sorter.sortLines v (Source.split text.toList).lines) := Sorter.locate_map hc _
    _ = Scope.locate v (Source.split text.toList).lines := Sorter.locate_sortLines hu ha _

set_option maxRecDepth 20000 in
theorem locate_sort_nested :
    Config.vocabulary {} = .ok Vocabulary.standard ∧ Vocabulary.standard.Apart ∧
      Scope.locate Vocabulary.standard (Source.split (Vocabulary.standard.sort
        "group :t do\n gem 'b'\n group :u do\n end\n gem 'd'\n gem 'c'\nend").toList).lines =
        [⟨0, 6, [⟨2, 3, []⟩]⟩] := by
  have hloc : Scope.locate Vocabulary.standard (Source.split
      "group :t do\n gem 'b'\n group :u do\n end\n gem 'd'\n gem 'c'\nend".toList).lines =
      [⟨0, 6, [⟨2, 3, []⟩]⟩] := by cbv
  have hv := Config.vocabulary_standard
  have ha := Vocabulary.standard_apart
  exact ⟨hv, ha, (locate_sort hv ha _).trans hloc⟩

end GemOrder
