import Mathlib.Data.List.DropRight
import Mathlib.Data.List.TakeWhile
import RobotScript.Text.Blank

/-!
The words of a text.

A word that stands at the front of a text, with nothing or a blank after it, is the first word of
the text (`words_word_append`); all else follows, since words can be read backwards
(`words_reverse`) and blanks around a text belong to no word.
-/

namespace RobotScript.Text

/-- Characters that can be a word: there are some, and none is blank. -/
def IsWord (w : List Char) : Prop := w ≠ [] ∧ ∀ c ∈ w, isBlank c = false

instance (w : List Char) : Decidable (IsWord w) :=
  decidable_of_iff (w ≠ [] ∧ w.all (!isBlank ·)) (by simp [IsWord])

/-- A word may end before this text: it is empty or starts with a blank. -/
def Breaks (s : List Char) : Prop := ∀ c ∈ s.head?, isBlank c

variable {s t w b : List Char} {c : Char}

lemma IsWord.reverse (h : IsWord w) : IsWord w.reverse :=
  ⟨by simpa using h.1, fun c hc => h.2 c (List.mem_reverse.1 hc)⟩

lemma breaks_nil : Breaks [] := by simp [Breaks]

lemma breaks_cons : Breaks (c :: s) ↔ isBlank c := by simp [Breaks]

/-! ### Words at the front -/

lemma words_of_isWord (h : IsWord w) : words w = [w] := by
  rw [words, List.splitOnP_eq_singleton h.2]
  simp [h.1]

/-- **A word followed by nothing or by a blank is the first word.** -/
theorem words_word_append (hw : IsWord w) (hs : Breaks s) : words (w ++ s) = w :: words s := by
  cases s with
  | nil => rw [List.append_nil, words_of_isWord hw, words_nil]
  | cons c s =>
    have hc : isBlank c := breaks_cons.1 hs
    rw [words_append_cons hc, words_of_isWord hw, words_cons_of_isBlank hc]
    rfl

lemma words_blank_append (hb : ∀ c ∈ b, isBlank c) (s : List Char) : words (b ++ s) = words s := by
  induction b with
  | nil => rfl
  | cons c b ih =>
    rw [List.cons_append, words_cons_of_isBlank (hb c List.mem_cons_self)]
    exact ih fun a ha => hb a (List.mem_cons_of_mem c ha)

/-! ### Cutting a text after its first word -/

/-- The characters up to the first blank. -/
def firstWord (s : List Char) : List Char := s.takeWhile (!isBlank ·)

/-- The characters from the first blank on. -/
def afterWord (s : List Char) : List Char := s.dropWhile (!isBlank ·)

lemma firstWord_append_afterWord (s : List Char) : firstWord s ++ afterWord s = s :=
  List.takeWhile_append_dropWhile

lemma breaks_afterWord (s : List Char) : Breaks (afterWord s) := by
  intro c hc
  have h := List.head?_dropWhile_not (!isBlank ·) s
  rw [show (s.dropWhile (!isBlank ·)).head? = some c from hc] at h
  simpa using h

lemma isWord_firstWord (hc : isBlank c = false) (s : List Char) : IsWord (firstWord (c :: s)) := by
  refine ⟨by simp [firstWord, hc], fun a ha => ?_⟩
  have h := List.mem_takeWhile_imp ha
  simpa using h

lemma words_cons_eq (hc : isBlank c = false) (s : List Char) :
    words (c :: s) = firstWord (c :: s) :: words (afterWord (c :: s)) := by
  rw [← words_word_append (isWord_firstWord hc s) (breaks_afterWord _),
    firstWord_append_afterWord]

lemma firstWord_word_append (hw : IsWord w) (hs : Breaks s) : firstWord (w ++ s) = w := by
  have hstop : s.takeWhile (!isBlank ·) = [] := by
    cases s with
    | nil => rfl
    | cons c s => simp [breaks_cons.1 hs]
  rw [firstWord, List.takeWhile_append_of_pos (by simpa using hw.2), hstop, List.append_nil]

lemma afterWord_word_append (hw : IsWord w) (hs : Breaks s) : afterWord (w ++ s) = s := by
  have h := firstWord_append_afterWord (w ++ s)
  rw [firstWord_word_append hw hs] at h
  exact List.append_cancel_left h

/-- **Words are the same read backwards.** -/
theorem words_reverse (s : List Char) : words s.reverse = (words s).reverse.map List.reverse := by
  induction hn : s.length using Nat.strong_induction_on generalizing s with
  | _ n ih =>
    cases s with
    | nil => rfl
    | cons c s =>
      have hlen : s.length + 1 = n := hn
      rcases hc : isBlank c with _ | _
      · -- the rest after the first word is shorter, and it starts with a blank if it is not empty
        have hword := isWord_firstWord hc s
        have hsplit := firstWord_append_afterWord (c :: s)
        have hbreak := breaks_afterWord (c :: s)
        rcases hrest : afterWord (c :: s) with _ | ⟨d, t⟩
        · rw [hrest, List.append_nil] at hsplit
          rw [← hsplit, words_of_isWord hword.reverse, words_of_isWord hword]
          rfl
        · rw [hrest] at hsplit hbreak
          have hd : isBlank d := breaks_cons.1 hbreak
          have ht : t.length < n := by
            have := congrArg List.length hsplit
            simp only [List.length_append, List.length_cons] at this
            omega
          rw [← hsplit, List.reverse_append, List.reverse_cons, List.append_assoc,
            List.singleton_append, words_append_cons hd, words_append_cons hd, ih _ ht t rfl,
            words_of_isWord hword.reverse, words_of_isWord hword]
          simp
      · rw [List.reverse_cons, words_append_cons hc, words_nil, List.append_nil,
          words_cons_of_isBlank hc, ih _ (by omega) s rfl]

/-! ### Trimming -/

lemma trimLeft_eq_self_iff : trimLeft s = s ↔ ∀ c ∈ s.head?, isBlank c = false := by
  cases s with
  | nil => simp [trimLeft]
  | cons c s =>
    rcases hc : isBlank c with _ | _
    · simp [trimLeft, hc]
    · have hlen := List.length_dropWhile_le isBlank s
      have hne : trimLeft (c :: s) ≠ c :: s := by
        intro h
        rw [trimLeft, List.dropWhile_cons_of_pos hc] at h
        have := congrArg List.length h
        rw [List.length_cons] at this
        omega
      simp [hne, hc]

lemma trimRight_reverse (s : List Char) : trimRight s.reverse = (trimLeft s).reverse := by
  rw [trimRight, List.reverse_reverse, trimLeft]

lemma trimRight_eq (s : List Char) : trimRight s = (trimLeft s.reverse).reverse := rfl

lemma trimLeft_idem (s : List Char) : trimLeft (trimLeft s) = trimLeft s :=
  List.dropWhile_idempotent _ _

lemma trimRight_idem (s : List Char) : trimRight (trimRight s) = trimRight s := by
  rw [trimRight_eq s, trimRight_reverse, trimLeft_idem]

lemma words_trimLeft (s : List Char) : words (trimLeft s) = words s := by
  have hb : ∀ c ∈ s.takeWhile isBlank, isBlank c := fun c hc => List.mem_takeWhile_imp hc
  have h := words_blank_append hb (trimLeft s)
  rw [trimLeft, List.takeWhile_append_dropWhile] at h
  exact h.symm

lemma words_trimRight (s : List Char) : words (trimRight s) = words s := by
  rw [trimRight_eq, words_reverse, words_trimLeft, words_reverse]
  simp [List.map_reverse]

@[simp] lemma words_trim (s : List Char) : words (trim s) = words s := by
  rw [trim, words_trimRight, words_trimLeft]

/-- A text without blanks around it. -/
def Trimmed (s : List Char) : Prop := trimLeft s = s ∧ trimRight s = s

/-- A text that starts like another one starts with no blank if the other does not. -/
lemma trimLeft_of_startsWith (h : trimLeft t = t) (hs : s <+: t) : trimLeft s = s := by
  rw [trimLeft_eq_self_iff] at h ⊢
  obtain ⟨r, rfl⟩ := hs
  cases s with
  | nil => simp
  | cons c s => exact h

lemma trimRight_of_endsWith (h : trimRight t = t) (hs : s <:+ t) : trimRight s = s := by
  rw [trimRight_eq, List.reverse_eq_iff] at h ⊢
  have hback : s.reverse <+: t.reverse := List.reverse_prefix.2 hs
  exact trimLeft_of_startsWith h hback

lemma isPrefix_trimRight (s : List Char) : trimRight s <+: s := by
  rw [trimRight_eq, ← List.reverse_suffix, List.reverse_reverse]
  exact List.dropWhile_suffix _

lemma trimmed_trim (s : List Char) : Trimmed (trim s) :=
  ⟨trimLeft_of_startsWith (trimLeft_idem s) (isPrefix_trimRight _), trimRight_idem _⟩

lemma IsWord.trim_eq (h : IsWord w) : trim w = w := by
  have hleft : ∀ {w : List Char}, IsWord w → trimLeft w = w := fun hw =>
    trimLeft_eq_self_iff.2 fun c hc => hw.2 c (List.mem_of_mem_head? hc)
  rw [trim, hleft h, trimRight_eq, hleft h.reverse, List.reverse_reverse]

/-- A trimmed text is a piece of the text. -/
lemma isInfix_trim (s : List Char) : trim s <:+: s :=
  (isPrefix_trimRight _).isInfix.trans (List.dropWhile_suffix _).isInfix

lemma words_eq_nil_iff (hs : trimLeft s = s) : words s = [] ↔ s = [] := by
  constructor
  · intro h
    cases s with
    | nil => rfl
    | cons c s =>
      have hc : isBlank c = false := trimLeft_eq_self_iff.1 hs c rfl
      rw [words_cons_eq hc] at h
      cases h
  · rintro rfl
    rfl

/-! ### The first word and the last -/

/-- What comes after the first word has the other words. -/
lemma words_afterWord (hs : trimLeft s = s) : words (afterWord s) = (words s).tail := by
  cases s with
  | nil => rfl
  | cons c s => rw [words_cons_eq (trimLeft_eq_self_iff.1 hs c rfl), List.tail_cons]

lemma head?_words (hs : trimLeft s = s) (hne : s ≠ []) : (words s).head? = some (firstWord s) := by
  obtain ⟨c, s, rfl⟩ := List.exists_cons_of_ne_nil hne
  rw [words_cons_eq (trimLeft_eq_self_iff.1 hs c rfl), List.head?_cons]

/-- **The first word of a text**, where the text has no blank in front. -/
theorem head?_words_eq_some_iff (hs : trimLeft s = s) (hw : IsWord w) :
    (words s).head? = some w ↔ ∃ r, w ++ r = s ∧ Breaks r := by
  constructor
  · intro h
    have hne : s ≠ [] := by
      rintro rfl
      cases h
    rw [head?_words hs hne] at h
    obtain rfl := Option.some.inj h
    exact ⟨afterWord s, firstWord_append_afterWord s, breaks_afterWord s⟩
  · rintro ⟨r, rfl, hr⟩
    rw [words_word_append hw hr, List.head?_cons]

/-- **The last word of a text**, where the text has no blank at its end. -/
theorem getLast?_words_eq_some_iff (hs : trimRight s = s) (hw : IsWord w) :
    (words s).getLast? = some w ↔ ∃ r, r ++ w = s ∧ Breaks r.reverse := by
  have hleft : trimLeft s.reverse = s.reverse := by rwa [trimRight_eq, List.reverse_eq_iff] at hs
  have hback : (words s).getLast? = some w ↔ (words s.reverse).head? = some w.reverse := by
    rw [words_reverse, List.head?_map, List.head?_reverse]
    cases (words s).getLast? <;> simp
  rw [hback, head?_words_eq_some_iff hleft hw.reverse]
  constructor
  · rintro ⟨r, hr, hb⟩
    refine ⟨r.reverse, ?_, by rwa [List.reverse_reverse]⟩
    rw [← List.reverse_inj, ← hr]
    simp
  · rintro ⟨r, rfl, hb⟩
    exact ⟨r.reverse, by simp, hb⟩

end RobotScript.Text
