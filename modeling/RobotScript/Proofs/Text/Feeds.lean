import Mathlib.Data.List.Basic
import RobotScript.Text.Lines
import RobotScript.Text.Lowercase

/-!
Line feeds cut a text in two.

A search for a cased letter does not go past a line feed, so what stands before one is lowered
without a look at what stands behind it (`lowercase_append_feed`), and lowering neither takes line
feeds away nor makes any (`count_lowercase`). Nor do the lines before a line feed depend on what
stands behind it (`lines_append_feed`); there is one more of them than line feeds
(`length_lines_feed`). The facts about lines go from one line feed to the next, by
`feed_induction`.
-/

namespace RobotScript.Text

/-! ### Lower-casing -/

section Lowercase

variable {c : Char}

lemma meetsCased_cons (c : Char) (s : List Char) :
    meetsCased (c :: s) = if isCaseIgnorable c then meetsCased s else isCased c := by
  unfold meetsCased
  rw [List.dropWhile_cons]
  by_cases hc : isCaseIgnorable c
  · rw [if_pos hc, if_pos hc]
  · rw [if_neg hc, if_neg hc]

/-- **A search for a cased letter stops at a line feed.** -/
lemma meetsCased_append_feed (s t : List Char) : meetsCased (s ++ '\n' :: t) = meetsCased s := by
  induction s with
  | nil =>
    have hignorable : isCaseIgnorable '\n' = false := by decide +kernel
    have hcased : isCased '\n' = false := by decide +kernel
    rw [List.nil_append, meetsCased_cons, hignorable, hcased]
    rfl
  | cons c s ih => rw [List.cons_append, meetsCased_cons, meetsCased_cons, ih]

lemma lowerChar_feed : lowerChar '\n' = ['\n'] := by decide

/-- What stands before a line feed is lowered without a look at what stands behind it. -/
lemma lowercaseAfter_append_feed (before s t : List Char) :
    lowercaseAfter before (s ++ '\n' :: t) =
      lowercaseAfter before s ++ '\n' :: lowercaseAfter ('\n' :: (s.reverse ++ before)) t := by
  induction s generalizing before with
  | nil =>
    rw [List.nil_append, lowercaseAfter_cons before (by decide) t, lowerChar_feed]
    rfl
  | cons c s ih =>
    have hword : endsWord before (s ++ '\n' :: t) = endsWord before s := by
      rw [endsWord, meetsCased_append_feed, endsWord]
    rw [List.cons_append, lowercaseAfter, lowercaseAfter, ih, hword]
    simp

/-- What stands behind a line feed is lowered without a look at what stands before it. -/
lemma lowercaseAfter_behind_feed (before rest s : List Char) :
    lowercaseAfter (before ++ '\n' :: rest) s = lowercaseAfter before s := by
  induction s generalizing before with
  | nil => rfl
  | cons c s ih =>
    have hword : endsWord (before ++ '\n' :: rest) s = endsWord before s := by
      rw [endsWord, meetsCased_append_feed, endsWord]
    have hrest := ih (c :: before)
    rw [List.cons_append] at hrest
    rw [lowercaseAfter, lowercaseAfter, hword, hrest]

/-- **The two sides of a line feed are lowered on their own.** -/
theorem lowercase_append_feed (s t : List Char) :
    lowercase (s ++ '\n' :: t) = lowercase s ++ '\n' :: lowercase t := by
  have hbehind := lowercaseAfter_behind_feed [] (s.reverse ++ []) t
  rw [List.nil_append] at hbehind
  rw [lowercase, lowercaseAfter_append_feed, hbehind, lowercase, lowercase]

/-- The code points with a lower-case form lie behind the line feed, and so do these forms. -/
lemma feed_lt_of_mem_caseRuns :
    ∀ run ∈ caseRuns, 10 < run.first ∧ (10 : Int) < run.first + run.shift := by
  decide +kernel

/-- A number is the code point of its character, or there is none and it stands for zero. -/
lemma toNat_ofNat_eq_or (n : Nat) : (Char.ofNat n).toNat = n ∨ (Char.ofNat n).toNat = 0 := by
  by_cases hvalid : n.isValidChar
  · left
    rw [Char.ofNat, dif_pos hvalid]
    rfl
  · right
    rw [Char.ofNat, dif_neg hvalid]
    rfl

/-- **No other character is lowered to a line feed.** -/
lemma count_lowerChar (c : Char) : (lowerChar c).count '\n' = if c = '\n' then 1 else 0 := by
  unfold lowerChar
  by_cases hdotted : c = 'İ'
  · subst hdotted
    decide
  · rw [if_neg hdotted]
    split
    · next run hrun =>
      have hcovers := List.find?_some hrun
      simp only [CaseRun.covers, Bool.and_eq_true, decide_eq_true_eq] at hcovers
      obtain ⟨hfirst, hform⟩ := feed_lt_of_mem_caseRuns run (List.mem_of_find?_eq_some hrun)
      have hcode : '\n'.toNat = 10 := rfl
      have hne : Char.ofNat (c.toNat + run.shift).toNat ≠ '\n' := by
        intro heq
        have hten := toNat_ofNat_eq_or (c.toNat + run.shift).toNat
        rw [heq, hcode] at hten
        omega
      have hfeed : c ≠ '\n' := by
        rintro rfl
        omega
      simp [hne, hfeed]
    · simp only [List.count_singleton, beq_iff_eq]

lemma count_lowercaseAfter (before s : List Char) :
    (lowercaseAfter before s).count '\n' = s.count '\n' := by
  induction s generalizing before with
  | nil => rfl
  | cons c s ih =>
    rw [lowercaseAfter, List.count_append, ih, List.count_cons]
    by_cases hsigma : c = 'Σ'
    · subst hsigma
      rw [if_pos rfl]
      split
      · exact Nat.add_comm _ _
      · exact Nat.add_comm _ _
    · simp only [hsigma, if_false, count_lowerChar, beq_iff_eq]
      omega

/-- **Lowering keeps the line feeds and makes none.** -/
theorem count_lowercase (s : List Char) : (lowercase s).count '\n' = s.count '\n' :=
  count_lowercaseAfter [] s

end Lowercase

/-! ### Lines -/

/-- A text is cut at its first line feed, or it has none. -/
theorem feed_induction {P : List Char → Prop} (last : ∀ s, '\n' ∉ s → P s)
    (feed : ∀ s t, '\n' ∉ s → P t → P (s ++ '\n' :: t)) (s : List Char) : P s := by
  induction hn : s.length using Nat.strongRecOn generalizing s with
  | ind n ih =>
    by_cases hmem : '\n' ∈ s
    · obtain ⟨front, rest, rfl, hfront⟩ := List.eq_append_cons_of_mem hmem
      rw [List.length_append, List.length_cons] at hn
      exact feed front rest hfront (ih rest.length (by omega) rest rfl)
    · exact last s hmem

/-- What is in front of a line feed without the carriage return that belongs to the line end. -/
def chomp (s : List Char) : List Char := if s.getLast? = some '\r' then s.dropLast else s

section Lines

variable {c : Char} {s t : List Char}

lemma chomp_cons (c : Char) (hne : s ≠ []) : chomp (c :: s) = c :: chomp s := by
  obtain ⟨d, s, rfl⟩ := List.exists_cons_of_ne_nil hne
  unfold chomp
  rw [List.getLast?_cons_cons]
  by_cases hreturn : (d :: s).getLast? = some '\r'
  · rw [if_pos hreturn, if_pos hreturn]
    rfl
  · rw [if_neg hreturn, if_neg hreturn]

lemma eq_chomp_or (s : List Char) : s = chomp s ∨ s = chomp s ++ ['\r'] := by
  unfold chomp
  by_cases hreturn : s.getLast? = some '\r'
  · rw [if_pos hreturn]
    exact Or.inr (List.dropLast_append_getLast? '\r' hreturn).symm
  · rw [if_neg hreturn]
    exact Or.inl rfl

/-- A character that is no line end with the one behind it belongs to the line it starts. -/
lemma lines_cons_of_next (hn : c ≠ '\n') (hr : c = '\r' → s.head? ≠ some '\n') :
    lines (c :: s) = (c :: (lines s).headD []) :: (lines s).tail := by
  rw [lines]
  · cases lines s <;> rfl
  · exact hn
  · rintro rest hc rfl
    exact hr hc rfl

/-- A text without line feeds is one line, unless it is empty. -/
lemma lines_of_feedless (h : '\n' ∉ s) : lines s = if s = [] then [] else [s] := by
  induction s with
  | nil => rfl
  | cons c s ih =>
    have hc := List.ne_of_not_mem_cons h
    have hs := List.not_mem_of_not_mem_cons h
    have hnext : s.head? ≠ some '\n' := fun hhead => hs (List.mem_of_mem_head? hhead)
    rw [lines_cons_of_next (Ne.symm hc) fun _ => hnext, ih hs]
    by_cases hnil : s = []
    · simp [hnil]
    · simp [hnil]

/-- **What is in front of the first line feed is a line.** -/
theorem lines_feedless_append (h : '\n' ∉ s) (t : List Char) :
    lines (s ++ '\n' :: t) = chomp s :: lines t := by
  induction s with
  | nil => exact lines_feed t
  | cons c s ih =>
    have hc := List.ne_of_not_mem_cons h
    have hs := List.not_mem_of_not_mem_cons h
    by_cases hend : c = '\r' ∧ s = []
    · obtain ⟨rfl, rfl⟩ := hend
      rfl
    · have hnext : c = '\r' → (s ++ '\n' :: t).head? ≠ some '\n' := by
        intro hreturn hhead
        have hne : s ≠ [] := fun hnil => hend ⟨hreturn, hnil⟩
        obtain ⟨d, s, rfl⟩ := List.exists_cons_of_ne_nil hne
        rw [List.cons_append, List.head?_cons] at hhead
        exact hs (by simp_all)
      rw [List.cons_append, lines_cons_of_next (Ne.symm hc) hnext, ih hs]
      by_cases hnil : s = []
      · have hreturn : c ≠ '\r' := fun hreturn => hend ⟨hreturn, hnil⟩
        simp [hnil, chomp, hreturn]
      · rw [chomp_cons c hnil]
        rfl

/-- **The lines before a line feed do not depend on what stands behind it.** -/
theorem lines_append_feed (s t : List Char) :
    lines (s ++ '\n' :: t) = lines (s ++ ['\n']) ++ lines t := by
  induction s using feed_induction with
  | last s h => rw [lines_feedless_append h, lines_feedless_append h]; rfl
  | feed s s' h ih =>
    rw [List.append_assoc, List.append_assoc, List.cons_append, List.cons_append,
      lines_feedless_append h, lines_feedless_append h, ih, List.cons_append]

/-- There is one more line before a line feed than line feeds before it. -/
theorem length_lines_feed (s : List Char) :
    (lines (s ++ ['\n'])).length = s.count '\n' + 1 := by
  induction s using feed_induction with
  | last s h =>
    rw [lines_feedless_append h, List.count_eq_zero.2 h]
    rfl
  | feed s s' h ih =>
    rw [List.append_assoc, List.cons_append, lines_feedless_append h, List.length_cons, ih,
      List.count_append, List.count_cons_self, List.count_eq_zero.2 h]
    omega

/-- **A line feed at the end of a text ends the last line**: it takes a carriage return off it, or
makes an empty line if there is nothing behind the line feed before. -/
theorem lines_append_last_feed (s : List Char) :
    ∃ before rest, lines (s ++ ['\n']) = before ++ [chomp rest] ∧
      lines s = before ++ if rest = [] then [] else [rest] := by
  induction s using feed_induction with
  | last s h => exact ⟨[], s, lines_feedless_append h [], lines_of_feedless h⟩
  | feed s s' h ih =>
    obtain ⟨before, rest, hfeed, hlines⟩ := ih
    refine ⟨chomp s :: before, rest, ?_, ?_⟩
    · rw [List.append_assoc, List.cons_append, lines_feedless_append h, hfeed, List.cons_append]
    · rw [lines_feedless_append h, hlines, List.cons_append]

end Lines

end RobotScript.Text
