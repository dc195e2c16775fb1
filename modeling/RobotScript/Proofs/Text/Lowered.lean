import RobotScript.Proofs.Text.Feeds

/-!
Texts in lower case.

A character is in lower case if lowering leaves it as it is, and a text of such characters is its
own lower-case form, whatever the places where words end (`lowercase_of_isLower`). That lowering
gives only such characters (`isLower_of_mem_lowercase`) is a fact about the table of runs: the forms
of a run lie between the forms of its ends, two apart where its code points are, and no run has a
code point there (`caseRuns_miss_forms`).
-/

namespace RobotScript.Text

/-- A character that lowering leaves as it is. -/
def IsLower (c : Char) : Prop := lowerChar c = [c]

instance (c : Char) : Decidable (IsLower c) := inferInstanceAs (Decidable (_ = _))

section Table

variable {c : Char} {lo hi code : Nat} {even : Bool} {run : CaseRun}

/-- Whether a run has no code point from `lo` to `hi`, or none at an even distance from `lo`. -/
def CaseRun.misses (lo hi : Nat) (even : Bool) (run : CaseRun) : Bool :=
  Nat.blt run.last lo || Nat.blt hi run.first ||
    even && Nat.beq run.stride 2 && Nat.beq ((lo + run.first) % 2) 1

lemma CaseRun.covers_of_misses (h : run.misses lo hi even) (hlo : lo ≤ code) (hhi : code ≤ hi)
    (heven : even → (code - lo) % 2 = 0) : run.covers code = false := by
  by_contra hcovers
  simp only [Bool.not_eq_false, covers, Bool.and_eq_true, decide_eq_true_eq, beq_iff_eq] at hcovers
  simp only [misses, Bool.or_eq_true, Bool.and_eq_true, Nat.blt_eq, Nat.beq_eq] at h
  obtain ⟨⟨hfirst, hlast⟩, hstride⟩ := hcovers
  rcases h with (hbehind | hbefore) | ⟨⟨hpick, htwo⟩, hodd⟩
  · omega
  · omega
  · -- of two code points at an even distance from `lo` and from the run's first one, one is odd
    have hdistance := heven hpick
    rw [htwo] at hstride
    omega

/-- **No run of the table has a code point among the lower-case forms of a run.** A run of one code
point has only one form, so it counts as one that goes in steps of two. -/
lemma caseRuns_miss_forms :
    ∀ run ∈ caseRuns, caseRuns.all (CaseRun.misses (run.first + run.shift).toNat
      (run.last + run.shift).toNat (Nat.beq run.stride 2 || Nat.beq run.first run.last)) := by
  decide +kernel

/-- Nor is the dotted capital I among the forms of a run. -/
lemma dotted_misses_forms :
    ∀ run ∈ caseRuns, run.last + run.shift < 'İ'.toNat ∨ 'İ'.toNat < run.first + run.shift := by
  decide +kernel

lemma isLower_of_uncovered (hdotted : c ≠ 'İ') (h : ∀ run ∈ caseRuns, run.covers c.toNat = false) :
    IsLower c := by
  have hnone : caseRuns.find? (·.covers c.toNat) = none := by
    rw [List.find?_eq_none]
    intro run hrun
    simp [h run hrun]
  rw [IsLower, lowerChar, if_neg hdotted, hnone]

/-- The lower-case form of a code point of a run is in lower case. -/
lemma isLower_form (hrun : run ∈ caseRuns) (h : run.covers code) :
    IsLower (Char.ofNat (code + run.shift).toNat) := by
  simp only [CaseRun.covers, Bool.and_eq_true, decide_eq_true_eq, beq_iff_eq] at h
  obtain ⟨⟨hfirst, hlast⟩, hstride⟩ := h
  obtain ⟨-, hfeed⟩ := feed_lt_of_mem_caseRuns run hrun
  have hcode := toNat_ofNat_eq_or (code + run.shift).toNat
  refine isLower_of_uncovered ?_ fun other hother => ?_
  · intro hdotted
    have hapart := dotted_misses_forms run hrun
    have hvalue : 'İ'.toNat = 304 := rfl
    rw [hdotted, hvalue] at hcode
    omega
  · rcases hcode with hcode | hcode
    · rw [hcode]
      refine CaseRun.covers_of_misses (List.all_eq_true.1 (caseRuns_miss_forms run hrun) _ hother)
        (by omega) (by omega) fun heven => ?_
      simp only [Bool.or_eq_true, Nat.beq_eq] at heven
      rcases heven with htwo | hsingle
      · rw [htwo] at hstride
        omega
      · omega
    · have hbehind := (feed_lt_of_mem_caseRuns other hother).1
      rw [hcode]
      simp only [CaseRun.covers, Bool.and_eq_false_iff, decide_eq_false_iff_not]
      omega

/-- **Lowering a character gives characters in lower case.** -/
theorem isLower_of_mem_lowerChar {d : Char} (h : d ∈ lowerChar c) : IsLower d := by
  unfold lowerChar at h
  split at h
  · have hforms : IsLower 'i' ∧ IsLower '\u0307' := by decide +kernel
    rcases List.mem_pair.1 h with rfl | rfl
    · exact hforms.1
    · exact hforms.2
  · next hdotted =>
    split at h
    · next run hrun =>
      have hcovers := List.find?_some hrun
      obtain rfl := List.mem_singleton.1 h
      exact isLower_form (List.mem_of_find?_eq_some hrun) hcovers
    · next hnone =>
      obtain rfl := List.mem_singleton.1 h
      rw [IsLower, lowerChar, if_neg hdotted, hnone]

end Table

section Texts

variable {c : Char} {s : List Char}

lemma lowercaseAfter_of_isLower (h : ∀ c ∈ s, IsLower c) (before : List Char) :
    lowercaseAfter before s = s := by
  induction s generalizing before with
  | nil => rfl
  | cons c s ih =>
    obtain ⟨hc, hs⟩ := List.forall_mem_cons.1 h
    have hsigma : c ≠ 'Σ' := by
      rintro rfl
      revert hc
      decide +kernel
    rw [lowercaseAfter_cons before hsigma, hc, ih hs]
    rfl

/-- **A text in lower case is its own lower-case form.** -/
theorem lowercase_of_isLower (h : ∀ c ∈ s, IsLower c) : lowercase s = s :=
  lowercaseAfter_of_isLower h []

lemma isLower_of_mem_lowercaseAfter (before s : List Char) :
    ∀ c ∈ lowercaseAfter before s, IsLower c := by
  induction s generalizing before with
  | nil => exact List.forall_mem_nil _
  | cons c s ih =>
    rw [lowercaseAfter, List.forall_mem_append]
    refine ⟨?_, ih (c :: before)⟩
    have hsigmas : IsLower 'ς' ∧ IsLower 'σ' := by decide +kernel
    split
    · split
      · simpa using hsigmas.1
      · simpa using hsigmas.2
    · exact fun d => isLower_of_mem_lowerChar

/-- **A lowered text is in lower case.** -/
theorem isLower_of_mem_lowercase (h : c ∈ lowercase s) : IsLower c :=
  isLower_of_mem_lowercaseAfter [] s c h

end Texts

end RobotScript.Text
