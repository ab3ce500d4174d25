import EntitySql.Proofs.Statement.Paging
import EntitySql.Proofs.Statement.RowOrder

/-
  How many ranks lie on a page, and how many classes of rows
  that tie have them.

  Key theorems include:
    * `Page.countP_holds`
    * `countP_denseRank`
    * `tieClasses_filter`
    * `length_eq_countP_tieClasses`
    * `countP_tieClasses_eq_one`
-/

namespace EntitySql

open Std (OrientedCmp TransCmp)

------------------------------------------------------------
-- Ranks on a page
------------------------------------------------------------

namespace Page

variable {p : Page}

/- The numbers up to a last one that lie between two bounds. -/
theorem countP_between
    {above below : Nat}
    (hBounds : above ≤ below)
    (last : Nat) :
    (List.range' 1 last).countP
        (fun k => above < k && k ≤ below) =
      min (below - above) (last - above) := by
  induction last with
  | zero => simp
  | succ last ih =>
      rw [List.range'_concat, List.countP_append, ih,
        List.countP_singleton]
      by_cases hHolds : above < last + 1 ∧ last + 1 ≤ below
      · rw [if_pos (by simp; omega)]
        omega
      · rw [if_neg (by simp; omega)]
        omega

/-
  A page is full, unless too few numbers are left after those
  of the pages before it.
-/
theorem countP_holds
    {last : Nat}
    (hNumber : p.number ≠ 0)
    (hLast : last < greatestRow) :
    (List.range' 1 last).countP p.holds =
      min p.size.toNat
        (last - (p.number.toNat - 1) * p.size.toNat) := by
  have hHolds :
      ∀ k ∈ List.range' 1 last,
        (p.holds k = true ↔
          (decide ((p.number.toNat - 1) * p.size.toNat < k) &&
            decide (k ≤ p.number.toNat * p.size.toNat)) = true) := by
    intro k hMem
    rw [List.mem_range'_1] at hMem
    rw [holds_iff hNumber (by omega), Bool.and_eq_true,
      decide_eq_true_eq, decide_eq_true_eq]
  rw [List.countP_congr hHolds, mul_size_eq hNumber,
    countP_between (Nat.le_add_right _ _), Nat.add_sub_cancel_left]

end Page

------------------------------------------------------------
-- Classes of rows
------------------------------------------------------------

variable {α β : Type}
variable {cmp cmp' : α → α → Ordering}
variable {rows : List α}
variable {p : α → Bool}

/- Orders with the same ties have the same classes. -/
theorem tieClasses_congr
    (hTies :
      ∀ r ∈ rows, ∀ s ∈ rows, cmp r s = .eq ↔ cmp' r s = .eq) :
    tieClasses cmp rows = tieClasses cmp' rows := by
  unfold tieClasses
  induction rows with
  | nil => rfl
  | cons r rows ih =>
      have hRest :=
        ih fun s hs t ht =>
          hTies s (List.mem_cons_of_mem _ hs) t (List.mem_cons_of_mem _ ht)
      have hFirst :
          (∀ s ∈ rows.pwFilter fun r s => cmp r s ≠ .eq,
              cmp r s ≠ .eq) ↔
            ∀ s ∈ rows.pwFilter fun r s => cmp' r s ≠ .eq,
              cmp' r s ≠ .eq := by
        rw [hRest]
        apply forall₂_congr
        intro s hs
        have hMem := (List.pwFilter_sublist rows).mem hs
        rw [ne_eq, ne_eq, hTies r List.mem_cons_self s
          (List.mem_cons_of_mem _ hMem)]
      by_cases hNew :
          ∀ s ∈ rows.pwFilter fun r s => cmp r s ≠ .eq,
            cmp r s ≠ .eq
      · rw [List.pwFilter_cons_of_pos hNew,
          List.pwFilter_cons_of_pos (hFirst.mp hNew), hRest]
      · rw [List.pwFilter_cons_of_neg hNew,
          List.pwFilter_cons_of_neg (mt hFirst.mpr hNew), hRest]

/- A test that ties cannot tell apart drops whole classes. -/
theorem tieClasses_filter
    (hTies :
      ∀ r ∈ rows, ∀ s ∈ rows, cmp r s = .eq → p r = p s) :
    tieClasses cmp (rows.filter p) =
      (tieClasses cmp rows).filter p := by
  unfold tieClasses
  induction rows with
  | nil => rfl
  | cons r rows ih =>
      have hRest :=
        ih fun s hs t ht =>
          hTies s (List.mem_cons_of_mem _ hs) t (List.mem_cons_of_mem _ ht)
      cases hp : p r with
      | false =>
          rw [List.filter_cons_of_neg (by simp [hp]), hRest]
          by_cases hNew :
              ∀ s ∈ rows.pwFilter fun r s => cmp r s ≠ .eq,
                cmp r s ≠ .eq
          · rw [List.pwFilter_cons_of_pos hNew,
              List.filter_cons_of_neg (by simp [hp])]
          · rw [List.pwFilter_cons_of_neg hNew]
      | true =>
          rw [List.filter_cons_of_pos hp]
          by_cases hNew :
              ∀ s ∈ rows.pwFilter fun r s => cmp r s ≠ .eq,
                cmp r s ≠ .eq
          · rw [List.pwFilter_cons_of_pos hNew,
              List.pwFilter_cons_of_pos, hRest,
              List.filter_cons_of_pos hp]
            rw [hRest]
            intro s hs
            exact hNew s (List.mem_of_mem_filter hs)
          · rw [List.pwFilter_cons_of_neg hNew,
              List.pwFilter_cons_of_neg, hRest]
            rw [hRest]
            intro hOther
            apply hNew
            intro s hs hTie
            have hMem := (List.pwFilter_sublist rows).mem hs
            have hps := hTies r List.mem_cons_self s
              (List.mem_cons_of_mem _ hMem) hTie
            exact hOther s (List.mem_filter.mpr ⟨hs, hps ▸ hp⟩) hTie

variable [TransCmp cmp]

/- As many classes lie on a page as there are ranks on it. -/
theorem countP_denseRank
    (cmp : α → α → Ordering)
    [TransCmp cmp]
    (rows : List α)
    (holds : Nat → Bool) :
    (tieClasses cmp rows).countP
        (fun r => holds (denseRank cmp rows r)) =
      (List.range' 1 (tieClasses cmp rows).length).countP holds := by
  rw [← (map_denseRank_perm cmp rows).countP_eq, List.countP_map]
  rfl

/-
  Different values of the rows that pass a test, if rows have
  the same value where they tie: one for each of their classes.
-/
theorem length_eq_countP_tieClasses
    {f : α → β}
    {values : List β}
    (hTies :
      ∀ r ∈ rows, ∀ s ∈ rows, cmp r s = .eq ↔ f r = f s)
    (hTest :
      ∀ r ∈ rows, ∀ s ∈ rows, cmp r s = .eq → p r = p s)
    (hNodup : values.Nodup)
    (hValues : ∀ v, v ∈ values ↔ ∃ r ∈ rows, p r = true ∧ f r = v) :
    values.length = (tieClasses cmp rows).countP p := by
  have hDifferent :
      (((tieClasses cmp rows).filter p).map f).Nodup := by
    apply List.Nodup.map_on _ ((nodup_tieClasses cmp rows).filter _)
    intro r hr s hs hSame
    have hr := List.mem_of_mem_filter hr
    have hs := List.mem_of_mem_filter hs
    exact eq_of_mem_tieClasses hr hs
      ((hTies r (mem_of_mem_tieClasses hr) s
        (mem_of_mem_tieClasses hs)).mpr hSame)
  have hPerm :
      values.Perm (((tieClasses cmp rows).filter p).map f) := by
    rw [List.perm_ext_iff_of_nodup hNodup hDifferent]
    intro v
    rw [hValues, List.mem_map]
    constructor
    · rintro ⟨r, hr, hp, rfl⟩
      rcases exists_mem_tieClasses cmp hr with ⟨own, hOwn, hTie⟩
      have hIn := mem_of_mem_tieClasses hOwn
      refine ⟨own, List.mem_filter.mpr ⟨hOwn, ?_⟩,
        ((hTies r hr own hIn).mp hTie).symm⟩
      rwa [← hTest r hr own hIn hTie]
    · rintro ⟨r, hr, rfl⟩
      rw [List.mem_filter] at hr
      exact ⟨r, mem_of_mem_tieClasses hr.1, hr.2, rfl⟩
  rw [hPerm.length_eq, List.length_map, List.countP_eq_length_filter]

/- The rows that tie with one row are one class. -/
theorem countP_tieClasses_eq_one
    {r : α}
    (hr : r ∈ rows)
    (hTest : ∀ s ∈ rows, p s = true ↔ cmp r s = .eq) :
    (tieClasses cmp rows).countP p = 1 := by
  rcases exists_mem_tieClasses cmp hr with ⟨own, hOwn, hTie⟩
  rw [List.countP_eq_length_filter, List.length_eq_one_iff]
  refine ⟨own, List.perm_singleton.mp ?_⟩
  rw [List.perm_ext_iff_of_nodup
    ((nodup_tieClasses cmp rows).filter _) (List.nodup_singleton _)]
  intro s
  rw [List.mem_filter, List.mem_singleton]
  constructor
  · rintro ⟨hMem, hp⟩
    have hSame := (hTest s (mem_of_mem_tieClasses hMem)).mp hp
    exact (eq_of_mem_tieClasses hOwn hMem
      (TransCmp.eq_trans (OrientedCmp.eq_symm hTie) hSame)).symm
  · rintro rfl
    exact ⟨hOwn, (hTest s (mem_of_mem_tieClasses hOwn)).mpr hTie⟩

end EntitySql
