import GemOrder.Proofs.Extents
import Mathlib

namespace GemOrder

variable {ls : List Line} {start stop : Nat}

theorem slice?_eq_some_iff {part : List Line} :
    slice? ls start stop = some part ↔ start ≤ stop ∧ stop ≤ ls.length ∧ part = slice ls start stop := by
  unfold slice?
  constructor
  · intro h
    split at h
    · rename_i hbounds
      simp only [Bool.and_eq_true, decide_eq_true_eq] at hbounds
      exact ⟨hbounds.1, hbounds.2, (Option.some.inj h).symm⟩
    · contradiction
  · rintro ⟨hle, hlen, rfl⟩
    simp [hle, hlen]

/-- Behind the last line there is nothing more to be read. -/
theorem slice_clip (start : Nat) (h : ls.length ≤ stop) :
    slice ls start stop = slice ls start ls.length := by
  have hlen : (ls.drop start).length = ls.length - start := List.length_drop
  rw [slice, slice, List.take_of_length_le (by omega), List.take_of_length_le (by omega)]

namespace Region

variable {v : Vocabulary}

theorem start_le_stop (r : Region) : r.start ≤ r.stop :=
  Nat.le_add_right _ _

/-- In a range that ends behind all lines, the region is that of the lines up to the last one. -/
theorem read_clip (v : Vocabulary) (start : Nat) (h : ls.length ≤ stop) :
    read v start ls[stop]? (slice ls start stop) =
      read v start ls[ls.length]? (slice ls start ls.length) := by
  rw [slice_clip start h, List.getElem?_eq_none h, List.getElem?_eq_none (Nat.le_refl _)]

/-- Reading fails exactly if it starts behind the lines or would go on behind the last one. -/
theorem at?_eq_none_iff :
    at? v ls start stop = none ↔ ls.length < stop ∧ start < stop ∧
      (ls.length ≤ start ∨ ∃ r, at? v ls start ls.length = some r ∧ r.stop = ls.length) := by
  have hmiss : at? v ls start stop = none ↔
      Misses ls stop (read v start ls[stop]? (slice ls start stop)).stop := by
    rw [at?_eq, ite_eq_left_iff]
    simp
  have hwhole : at? v ls start ls.length = some (read v start ls[ls.length]? (slice ls start ls.length)) :=
    at?_of_le v (Nat.le_refl _)
  have hfrom : start ≤ (read v start ls[stop]? (slice ls start stop)).stop :=
    start_le_stop (read v start ls[stop]? (slice ls start stop))
  rw [hmiss]
  constructor
  · rintro ⟨hlt, hle⟩
    refine ⟨by omega, by omega, ?_⟩
    rcases Nat.lt_or_ge start ls.length with hs | hs
    · right
      refine ⟨_, hwhole, ?_⟩
      have hend := read_stop_le v start ls[ls.length]? (slice ls start ls.length)
      rw [slice_length (Nat.le_refl _)] at hend
      rw [read_clip v start (by omega)] at hle
      omega
    · exact Or.inl hs
  · rintro ⟨hlen, hlt, hs | ⟨r, hr, hstop⟩⟩
    · -- there is nothing to read, so that reading ends where it starts
      have hend := read_stop_le v start ls[stop]? (slice ls start stop)
      rw [slice_of_length_le stop hs, List.length_nil, Nat.add_zero] at hend
      rw [slice_of_length_le stop hs] at hfrom ⊢
      exact ⟨by omega, by omega⟩
    · rw [hwhole, Option.some.injEq] at hr
      rw [read_clip v start (Nat.le_of_lt hlen), hr, hstop]
      exact ⟨hlen, Nat.le_refl _⟩

theorem sort?_eq_some_iff {out : List Line} :
    sort? v ls start stop = some out ↔ ∃ r, at? v ls start stop = some r ∧
      r.stop ≤ stop ∧ stop ≤ ls.length ∧ out = r.render ++ slice ls r.stop stop := by
  simp only [sort?, Option.bind_eq_bind, Option.bind_eq_some_iff, slice?_eq_some_iff, pure,
    Option.some.injEq]
  constructor
  · rintro ⟨r, hr, part, ⟨hle, hlen, rfl⟩, rfl⟩
    exact ⟨r, hr, hle, hlen, rfl⟩
  · rintro ⟨r, hr, hle, hlen, rfl⟩
    exact ⟨r, hr, _, ⟨hle, hlen, rfl⟩, rfl⟩

theorem start_of_at? {r : Region} (h : at? v ls start stop = some r) : r.start = start := by
  rw [at?_eq] at h
  split at h
  · contradiction
  · cases h
    rfl

theorem isSome_sort?_iff :
    (sort? v ls start stop).isSome = true ↔ start ≤ stop ∧ stop ≤ ls.length := by
  rw [Option.isSome_iff_exists]
  constructor
  · rintro ⟨out, hout⟩
    obtain ⟨r, hr, hle, hlen, -⟩ := sort?_eq_some_iff.mp hout
    have hstart := r.start_le_stop
    rw [start_of_at? hr] at hstart
    exact ⟨Nat.le_trans hstart hle, hlen⟩
  · rintro ⟨hle, hlen⟩
    have hend := read_stop_le v start ls[stop]? (slice ls start stop)
    rw [slice_length hlen, Nat.add_sub_cancel' hle] at hend
    exact ⟨_, sort?_eq_some_iff.mpr ⟨_, at?_of_le v hlen, hend, hlen, rfl⟩⟩

/-- Sorting the region at the front of a range moves lines of the range, and none behind the region. -/
theorem sort?_relocates {out : List Line} (h : sort? v ls start stop = some out) :
    ∃ r, at? v ls start stop = some r ∧ out.Perm (slice ls start stop) ∧
      out.drop (r.stop - start) = slice ls r.stop stop := by
  obtain ⟨hle, hlen⟩ := isSome_sort?_iff.mp (Option.isSome_of_mem h)
  obtain ⟨r, hr, hstop, -, rfl⟩ := sort?_eq_some_iff.mp h
  have hstart := start_of_at? hr
  have hfrom := r.start_le_stop
  rw [hstart] at hfrom
  refine ⟨r, hr, ?_, ?_⟩
  · rw [at?_of_le v hlen, Option.some.injEq] at hr
    have hlines := (slice_read v ls[stop]? hle hlen).1
    rw [hr] at hlines
    calc (r.render ++ slice ls r.stop stop).Perm (r.lines ++ slice ls r.stop stop) :=
          r.render_perm.append_right _
      _ = slice ls start stop := by rw [← hlines, slice_append hfrom hstop]
  · have hsize : r.stop - start = r.render.length := by
      rw [r.render_length, Region.stop, hstart, Nat.add_sub_cancel_left]
    rw [hsize, List.drop_left]

end Region

/-- Sorting a region is possible exactly in the ranges of the lines. It gives the lines of the range,
moved up to where the region ends and as they were behind it. Reading a region alone fails exactly if
the range ends behind the lines and either starts there as well or has nothing in it that ends the
region. -/
theorem region_sort_defined (v : Vocabulary) (ls : List Line) (start stop : Nat) :
    ((Region.sort? v ls start stop).isSome = true ↔ start ≤ stop ∧ stop ≤ ls.length) ∧
      (∀ out, Region.sort? v ls start stop = some out →
        ∃ r, Region.at? v ls start stop = some r ∧ out.Perm (slice ls start stop) ∧
          out.drop (r.stop - start) = slice ls r.stop stop) ∧
      (Region.at? v ls start stop = none ↔ ls.length < stop ∧ start < stop ∧
        (ls.length ≤ start ∨
          ∃ r, Region.at? v ls start ls.length = some r ∧ r.stop = ls.length)) := by
  refine ⟨Region.isSome_sort?_iff, ?_, Region.at?_eq_none_iff⟩
  intro out hout
  exact Region.sort?_relocates hout

set_option maxRecDepth 20000 in
/-- A directive ends the region before the search runs over the lines, so that the region can be read
but not sorted. Without the directive it cannot be read either. -/
theorem region_sort_defined_directive :
    (Region.at? .standard ["gem 'b'\n".toList, "gem 'a'\n".toList, "source 's'\n".toList] 0 5).map
        Region.stop = some 2 ∧
      Region.sort? .standard ["gem 'b'\n".toList, "gem 'a'\n".toList, "source 's'\n".toList] 0 5 =
        none ∧
      Region.sort? .standard ["gem 'b'\n".toList, "gem 'a'\n".toList, "source 's'\n".toList] 0 3 =
        some ["gem 'a'\n".toList, "gem 'b'\n".toList, "source 's'\n".toList] ∧
      Region.at? .standard ["gem 'b'\n".toList, "gem 'a'\n".toList] 0 5 = none := by
  have hwhole : (Region.at? .standard ["gem 'b'\n".toList, "gem 'a'\n".toList] 0 2).map Region.stop =
      some 2 := by cbv
  obtain ⟨r, hr, hstop⟩ := Option.map_eq_some_iff.mp hwhole
  refine ⟨by cbv, ?_, by cbv, ?_⟩
  · have hno := (region_sort_defined .standard
      ["gem 'b'\n".toList, "gem 'a'\n".toList, "source 's'\n".toList] 0 5).1
    rw [← Option.not_isSome_iff_eq_none, hno]
    decide
  · have hno := (region_sort_defined .standard ["gem 'b'\n".toList, "gem 'a'\n".toList] 0 5).2.2
    exact hno.mpr ⟨by decide, by decide, Or.inr ⟨r, hr, hstop⟩⟩

end GemOrder
