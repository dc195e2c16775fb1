import RobotScript.Proofs.Text.Feeds
import RobotScript.Proofs.Text.Words

/-!
Texts taken apart and joined again.

The words of a text together are its characters without the blanks (`flatten_words`), so each of
them is a word of its own, and words that are joined by blanks come apart as they were
(`words_unwords`). The same holds of lines that are joined by line feeds, as long as none is empty
or has a line end in it (`lines_intercalate`).
-/

namespace RobotScript.Text

variable {c : Char} {s w l : List Char} {ws ls : List (List Char)}

/-- A joined text has the characters of its parts and those between them. -/
lemma mem_intercalate {sep : List Char} (h : c ∈ sep.intercalate ls) :
    c ∈ sep ∨ ∃ l ∈ ls, c ∈ l := by
  induction ls with
  | nil => cases h
  | cons l ls ih =>
    cases ls with
    | nil =>
      rw [List.intercalate_singleton] at h
      exact Or.inr ⟨l, List.mem_cons_self, h⟩
    | cons l' ls =>
      rw [List.intercalate_cons_cons, List.mem_append, List.mem_append] at h
      rcases h with (hfirst | hsep) | hrest
      · exact Or.inr ⟨l, List.mem_cons_self, hfirst⟩
      · exact Or.inl hsep
      · refine (ih hrest).imp_right ?_
        rintro ⟨part, hpart, hc⟩
        exact ⟨part, List.mem_cons_of_mem l hpart, hc⟩

/-! ### Words -/

/-- **The words of a text together are the text without its blanks.** -/
theorem flatten_words (s : List Char) : (words s).flatten = s.filter (!isBlank ·) := by
  rw [words, List.flatten_filter_not_isEmpty]
  induction s with
  | nil => rfl
  | cons c s ih =>
    rw [List.splitOnP_cons_eq_if_modifyHead]
    by_cases hc : isBlank c
    · simp [hc, ih]
    · -- the character goes in front of the first of the pieces of the rest
      obtain ⟨first, rest, hsplit⟩ := List.exists_cons_of_ne_nil (List.splitOnP_ne_nil isBlank s)
      rw [hsplit, List.flatten_cons] at ih
      simp [hc, hsplit, ih]

lemma mem_of_mem_words (hw : w ∈ words s) (hc : c ∈ w) : c ∈ s ∧ isBlank c = false := by
  have hflat : c ∈ (words s).flatten := List.mem_flatten.2 ⟨w, hw, hc⟩
  rw [flatten_words, List.mem_filter] at hflat
  simpa using hflat

lemma isWord_of_mem_words (hw : w ∈ words s) : IsWord w := by
  refine ⟨?_, fun c hc => (mem_of_mem_words hw hc).2⟩
  rintro rfl
  simp [words] at hw

/-- **Joined words come apart as they were.** -/
theorem words_unwords (h : ∀ w ∈ ws, IsWord w) : words (unwords ws) = ws := by
  induction ws with
  | nil => rfl
  | cons w ws ih =>
    obtain ⟨hw, hws⟩ := List.forall_mem_cons.1 h
    cases ws with
    | nil => rw [unwords, List.intercalate_singleton, words_of_isWord hw]
    | cons w' ws =>
      rw [unwords, List.intercalate_cons_cons, List.append_assoc, List.singleton_append,
        words_append_cons (by decide), words_of_isWord hw, ← unwords, ih hws]
      rfl

/-! ### Lines -/

lemma mem_of_mem_chomp (h : c ∈ chomp s) : c ∈ s := by
  unfold chomp at h
  split at h
  · exact List.dropLast_subset s h
  · exact h

lemma mem_of_mem_lines (hl : l ∈ lines s) (hc : c ∈ l) : c ∈ s := by
  induction s using feed_induction with
  | last s h =>
    rw [lines_of_feedless h] at hl
    split at hl
    · cases hl
    · rwa [← List.mem_singleton.1 hl]
  | feed s t h ih =>
    rw [lines_feedless_append h, List.mem_cons] at hl
    rcases hl with rfl | hl
    · exact List.mem_append_left _ (mem_of_mem_chomp hc)
    · exact List.mem_append_right _ (List.mem_cons_of_mem _ (ih hl))

/-- **Joined lines come apart as they were.** -/
theorem lines_intercalate (h : ∀ l ∈ ls, l ≠ [] ∧ '\n' ∉ l ∧ '\r' ∉ l) :
    lines (['\n'].intercalate ls) = ls := by
  induction ls with
  | nil => rfl
  | cons l ls ih =>
    obtain ⟨⟨hne, hfeed, hreturn⟩, hls⟩ := List.forall_mem_cons.1 h
    cases ls with
    | nil => rw [List.intercalate_singleton, lines_of_feedless hfeed, if_neg hne]
    | cons l' ls =>
      have hchomp : chomp l = l := if_neg fun hlast => hreturn (List.mem_of_getLast? hlast)
      rw [List.intercalate_cons_cons, List.append_assoc, List.singleton_append,
        lines_feedless_append hfeed, hchomp, ih hls]

end RobotScript.Text
