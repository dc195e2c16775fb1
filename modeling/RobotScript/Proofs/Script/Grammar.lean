import RobotScript.Proofs.Text.Words
import RobotScript.Script.Source

/-!
The grammar of a script, word by word.

Reading works on characters: it cuts off prefixes and suffixes and looks at what is next to them.
The grammar is about whole words. `Source.Yields` has one rule for each kind of line;
`Source.readLine_eq_iff` says that a line is read as the grammar says, and `ofSource_grammar` says
the same of a whole script.
-/

namespace RobotScript

/-! ### The longest word a text starts with -/

namespace Vocabulary

/-- **The longest word of the vocabulary that a text starts with.** -/
structure IsLongest (v : Vocabulary) (text : List Char) (k : String) : Prop where
  known : (v.find? k).isSome
  starts : k.toList <+: text
  longest {k' : String} : (v.find? k').isSome → k'.toList <+: text → k'.length ≤ k.length

section Longest

variable {v : Vocabulary} {text : List Char} {ks : List String} {k k' : String}

lemma mem_keywords : k ∈ v.keywords ↔ (v.find? k).isSome := by
  rw [keywords, Std.ExtTreeMap.mem_keys, Std.ExtTreeMap.mem_iff_isSome_getElem?]
  rfl

lemma longestPrefix?_eq_none_iff :
    longestPrefix? text ks = none ↔ ∀ k ∈ ks, ¬ k.toList <+: text := by
  induction ks with
  | nil => simp [longestPrefix?]
  | cons k ks ih =>
    rw [longestPrefix?, List.forall_mem_cons, ← ih, ← List.isPrefixOf_iff_prefix]
    rcases longestPrefix? text ks with _ | best
    · simp
    · simp only [reduceCtorEq, and_false, iff_false]
      split <;> simp

lemma longestPrefix?_eq_some (h : longestPrefix? text ks = some k) :
    k ∈ ks ∧ k.toList <+: text ∧ ∀ k' ∈ ks, k'.toList <+: text → k'.length ≤ k.length := by
  induction ks generalizing k with
  | nil => cases h
  | cons first ks ih =>
    rw [longestPrefix?] at h
    rcases hbest : longestPrefix? text ks with _ | best
    · have hnone := longestPrefix?_eq_none_iff.1 hbest
      simp only [hbest, Option.ite_none_right_eq_some, Option.some.injEq] at h
      obtain ⟨hstarts, rfl⟩ := h
      refine ⟨List.mem_cons_self, List.isPrefixOf_iff_prefix.1 hstarts, fun k' hk' hpre => ?_⟩
      rcases List.mem_cons.1 hk' with rfl | hk'
      · exact Nat.le_refl _
      · exact absurd hpre (hnone k' hk')
    · obtain ⟨hmem, hstarts, hlongest⟩ := ih hbest
      simp only [hbest, Bool.and_eq_true, decide_eq_true_eq] at h
      split at h
      · next hfirst =>
        obtain rfl := Option.some.inj h
        refine ⟨List.mem_cons_self, List.isPrefixOf_iff_prefix.1 hfirst.1, fun k' hk' hpre => ?_⟩
        rcases List.mem_cons.1 hk' with rfl | hk'
        · exact Nat.le_refl _
        · have := hlongest k' hk' hpre
          omega
      · next hfirst =>
        obtain rfl := Option.some.inj h
        refine ⟨List.mem_cons_of_mem _ hmem, hstarts, fun k' hk' hpre => ?_⟩
        rcases List.mem_cons.1 hk' with rfl | hk'
        · have hle : ¬ best.length < k'.length := fun hlt =>
            hfirst ⟨List.isPrefixOf_iff_prefix.2 hpre, hlt⟩
          omega
        · exact hlongest k' hk' hpre

/-- Two words of one length that a text starts with are equal. -/
lemma eq_of_starts (hk : k.toList <+: text) (hk' : k'.toList <+: text)
    (hlen : k.length = k'.length) : k = k' := by
  rw [← String.length_toList, ← String.length_toList] at hlen
  have hpre := List.prefix_of_prefix_length_le hk hk' hlen.le
  exact String.toList_inj.1 (hpre.eq_of_length hlen)

/-- **The vocabulary finds the longest word**, and there is only one. -/
theorem longestMatch?_eq_some_iff : v.longestMatch? text = some k ↔ v.IsLongest text k := by
  constructor
  · intro h
    obtain ⟨hmem, hstarts, hlongest⟩ := longestPrefix?_eq_some h
    exact ⟨mem_keywords.1 hmem, hstarts, fun hk' => hlongest _ (mem_keywords.2 hk')⟩
  · intro h
    rcases hfound : v.longestMatch? text with _ | found
    · exact absurd h.starts (longestPrefix?_eq_none_iff.1 hfound k (mem_keywords.2 h.known))
    · obtain ⟨hmem, hstarts, hlongest⟩ := longestPrefix?_eq_some hfound
      have hle := hlongest k (mem_keywords.2 h.known) h.starts
      have hge := h.longest (mem_keywords.1 hmem) hstarts
      rw [eq_of_starts hstarts h.starts (by omega)]

theorem longestMatch?_eq_none_iff :
    v.longestMatch? text = none ↔ ∀ k, (v.find? k).isSome → ¬ k.toList <+: text := by
  rw [longestMatch?, longestPrefix?_eq_none_iff]
  exact forall_congr' fun k => by rw [mem_keywords]

end Longest

end Vocabulary

namespace Source

open Text

/-! ### What is left of a line -/

/-- A text without its first word. -/
def withoutFirst (s : List Char) : List Char := trim (afterWord (trimLeft s))

/-- A text without its last word. -/
def withoutLast (s : List Char) : List Char := (withoutFirst s.reverse).reverse

/-- A text without the word `нач` in front. -/
def withoutOpening (s : List Char) : List Char :=
  if (words s).head? = some Keyword.opening.toList then withoutFirst s else s

/-- A text without the word `кон` at its end. -/
def withoutClosing (s : List Char) : List Char :=
  if (words s).getLast? = some Keyword.closing.toList then withoutLast s else s

/-- What is left of the text of a line without `нач` in front and then without `кон` at its end. -/
def bodyText (line : List Char) : List Char := withoutClosing (withoutOpening (trim line))

/-- What is left of the words of a line without `нач` first and then without `кон` last. -/
def bodyWords (line : List Char) : List (List Char) :=
  let ws := words line
  let ws := if ws.head? = some Keyword.opening.toList then ws.tail else ws
  if ws.getLast? = some Keyword.closing.toList then ws.dropLast else ws

section Body

variable {s w : List Char}

lemma words_withoutFirst (s : List Char) : words (withoutFirst s) = (words s).tail := by
  rw [withoutFirst, words_trim, words_afterWord (trimLeft_idem s), words_trimLeft]

lemma words_withoutLast (s : List Char) : words (withoutLast s) = (words s).dropLast := by
  rw [withoutLast, words_reverse, words_withoutFirst, words_reverse]
  simp [List.map_dropLast]

/-- **The words of what is left of a line are the words that are left.** -/
theorem words_bodyText (line : List Char) : words (bodyText line) = bodyWords line := by
  have hopen : words (withoutOpening (trim line)) =
      if (words line).head? = some Keyword.opening.toList then (words line).tail
      else words line := by
    rw [withoutOpening, apply_ite words, words_withoutFirst, words_trim]
  rw [bodyText, withoutClosing, apply_ite words, words_withoutLast, hopen]
  rfl

lemma trimmed_withoutFirst (s : List Char) : Trimmed (withoutFirst s) := trimmed_trim _

lemma trimmed_withoutLast (s : List Char) : Trimmed (withoutLast s) := by
  obtain ⟨hl, hr⟩ := trimmed_withoutFirst s.reverse
  refine ⟨?_, ?_⟩
  · rw [trimRight_eq, List.reverse_eq_iff] at hr
    exact hr
  · rw [withoutLast, trimRight_reverse, hl]

lemma trimmed_withoutOpening (h : Trimmed s) : Trimmed (withoutOpening s) := by
  unfold withoutOpening
  split
  · exact trimmed_withoutFirst s
  · exact h

lemma trimmed_bodyText (line : List Char) : Trimmed (bodyText line) := by
  unfold bodyText withoutClosing
  split
  · exact trimmed_withoutLast _
  · exact trimmed_withoutOpening (trimmed_trim line)

lemma isInfix_withoutFirst (s : List Char) : withoutFirst s <:+: s :=
  (isInfix_trim _).trans ((List.dropWhile_suffix _).trans (List.dropWhile_suffix _)).isInfix

lemma isInfix_withoutLast (s : List Char) : withoutLast s <:+: s := by
  rw [← List.reverse_infix, withoutLast, List.reverse_reverse]
  exact isInfix_withoutFirst s.reverse

/-- What is left of a line is a piece of it. -/
lemma isInfix_bodyText (line : List Char) : bodyText line <:+: line := by
  have hopen : withoutOpening (trim line) <:+: line := by
    refine List.IsInfix.trans ?_ (isInfix_trim line)
    unfold withoutOpening
    split
    · exact isInfix_withoutFirst _
    · exact List.infix_rfl
  refine List.IsInfix.trans ?_ hopen
  unfold bodyText withoutClosing
  split
  · exact isInfix_withoutLast _
  · exact List.infix_rfl

lemma breaks_iff : Breaks s ↔ atBoundary s := by
  cases s with
  | nil => simp [breaks_nil, atBoundary]
  | cons c s => exact breaks_cons

/-- What is behind the first word of a trimmed text has no blank at its end. -/
lemma withoutFirst_word_append (hw : IsWord w) (hs : Breaks s) (ht : Trimmed (w ++ s)) :
    withoutFirst (w ++ s) = trimLeft s := by
  rw [withoutFirst, ht.1, afterWord_word_append hw hs, trim]
  exact trimRight_of_endsWith ht.2 ((List.dropWhile_suffix _).trans (List.suffix_append w s))

lemma withoutLast_append_word (hw : IsWord w) (hs : Breaks s.reverse) (ht : Trimmed (s ++ w)) :
    withoutLast (s ++ w) = trimRight s := by
  have hback : Trimmed (w.reverse ++ s.reverse) := by
    obtain ⟨hl, hr⟩ := ht
    rw [← List.reverse_append]
    refine ⟨?_, ?_⟩
    · rwa [trimRight_eq, List.reverse_eq_iff] at hr
    · rw [trimRight_reverse, hl]
  rw [withoutLast, List.reverse_append, withoutFirst_word_append hw.reverse hs hback, trimRight_eq]

lemma isWord_opening : IsWord Keyword.opening.toList := by decide

lemma isWord_closing : IsWord Keyword.closing.toList := by decide

/-- Taking `нач` off a text takes off its first word. -/
lemma stripOpening_eq (ht : Trimmed s) : stripOpening s = withoutOpening s := by
  unfold stripOpening withoutOpening
  split
  · next rest hrest =>
    rw [List.isPrefixOf?_eq_some_iff_append_eq] at hrest
    split
    · next hb =>
      have hbreaks := breaks_iff.2 hb
      rw [if_pos ((head?_words_eq_some_iff ht.1 isWord_opening).2 ⟨rest, hrest, hbreaks⟩)]
      subst hrest
      exact (withoutFirst_word_append isWord_opening hbreaks ht).symm
    · -- glued to what follows, `нач` is the beginning of another word
      next hb =>
      rw [if_neg]
      intro hhead
      obtain ⟨r, hr, hbreaks⟩ := (head?_words_eq_some_iff ht.1 isWord_opening).1 hhead
      obtain rfl : r = rest := List.append_cancel_left (hr.trans hrest.symm)
      exact hb (breaks_iff.1 hbreaks)
  · next hnone =>
    rw [if_neg]
    intro hhead
    obtain ⟨r, hr, -⟩ := (head?_words_eq_some_iff ht.1 isWord_opening).1 hhead
    rw [List.isPrefixOf?_eq_some_iff_append_eq.2 hr] at hnone
    cases hnone

/-- Taking `кон` off a text takes off its last word. -/
lemma stripClosing_eq (ht : Trimmed s) : stripClosing s = withoutClosing s := by
  unfold stripClosing withoutClosing
  split
  · next rest hrest =>
    rw [List.isSuffixOf?_eq_some_iff_append_eq] at hrest
    split
    · next hb =>
      have hbreaks := breaks_iff.2 hb
      rw [if_pos ((getLast?_words_eq_some_iff ht.2 isWord_closing).2 ⟨rest, hrest, hbreaks⟩)]
      subst hrest
      exact (withoutLast_append_word isWord_closing hbreaks ht).symm
    · next hb =>
      rw [if_neg]
      intro hlast
      obtain ⟨r, hr, hbreaks⟩ := (getLast?_words_eq_some_iff ht.2 isWord_closing).1 hlast
      obtain rfl : r = rest := List.append_cancel_right (hr.trans hrest.symm)
      exact hb (breaks_iff.1 hbreaks)
  · next hnone =>
    rw [if_neg]
    intro hlast
    obtain ⟨r, hr, -⟩ := (getLast?_words_eq_some_iff ht.2 isWord_closing).1 hlast
    rw [List.isSuffixOf?_eq_some_iff_append_eq.2 hr] at hnone
    cases hnone

/-- **Cutting the marks off a line leaves the text without the words.** -/
theorem strip_eq_bodyText (line : List Char) :
    stripClosing (stripOpening (trim line)) = bodyText line := by
  have htrimmed := trimmed_withoutOpening (trimmed_trim line)
  rw [stripOpening_eq (trimmed_trim line), stripClosing_eq htrimmed, bodyText]

end Body

/-! ### The rules of the grammar -/

/-- The words are those of a line that opens or closes a block. -/
def IsBlockLine (ws : List (List Char)) : Prop :=
  ws.head? = some Keyword.loopStart.toList ∨ ws.head? = some Keyword.ifStart.toList ∨
    ws = [Keyword.loopEnd.toList] ∨ ws = [Keyword.ifEnd.toList]

/-- **What a line in lower case holds, by the grammar.** -/
inductive Yields (v : Vocabulary) (line : List Char) : Line → Prop
  | nothing (ws : bodyWords line = []) : Yields v line .nothing
  | loopStart {guard : List (List Char)} (ws : bodyWords line = Keyword.loopStart.toList :: guard) :
      Yields v line (.instruction (.loopStart (String.ofList (unwords guard))))
  | ifStart {condition : List (List Char)}
      (ws : bodyWords line = Keyword.ifStart.toList :: condition) :
      Yields v line (.instruction (.ifStart (String.ofList (unwords
        (condition.takeWhile (· ≠ Keyword.ifThen.toList))))))
  | loopEnd (ws : bodyWords line = [Keyword.loopEnd.toList]) : Yields v line (.instruction .loopEnd)
  | ifEnd (ws : bodyWords line = [Keyword.ifEnd.toList]) : Yields v line (.instruction .ifEnd)
  | command {k : String} (ws : bodyWords line ≠ []) (noBlock : ¬ IsBlockLine (bodyWords line))
      (word : v.IsLongest (bodyText line) k) : Yields v line (.instruction (.command k))
  | unknown (ws : bodyWords line ≠ []) (noBlock : ¬ IsBlockLine (bodyWords line))
      (word : ∀ k, (v.find? k).isSome → ¬ k.toList <+: bodyText line) : Yields v line .unknown

section Rules

variable {v : Vocabulary} {line text head : List Char} {rest : List (List Char)} {r : Line}

/-- The operation on a trimmed text, by its words. -/
lemma readOp?_eq (ht : Trimmed text) (hw : words text = head :: rest) :
    readOp? v text =
      if head = Keyword.loopStart.toList then some (.loopStart (String.ofList (unwords rest)))
      else if head = Keyword.ifStart.toList then
        some (.ifStart (String.ofList (unwords (rest.takeWhile (· ≠ Keyword.ifThen.toList)))))
      else if head = Keyword.loopEnd.toList ∧ rest = [] then some .loopEnd
      else if head = Keyword.ifEnd.toList ∧ rest = [] then some .ifEnd
      else (v.longestMatch? text).map .command := by
  have hne : text ≠ [] := by
    rintro rfl
    cases hw
  have hhead : firstWord text = head := by
    have h := head?_words ht.1 hne
    rw [hw, List.head?_cons] at h
    exact (Option.some.inj h).symm
  have hrest : words (afterWord text) = rest := by rw [words_afterWord ht.1, hw, List.tail_cons]
  have hempty : trim (afterWord text) = [] ↔ rest = [] := by
    rw [← words_eq_nil_iff (trimmed_trim _).1, words_trim, hrest]
  have hwords : words (trim (afterWord text)) = rest := by rw [words_trim, hrest]
  simp only [firstWord, afterWord] at hhead hempty hwords
  unfold readOp?
  simp only [hhead, hempty, hwords]

lemma readLine_of_nil (h : bodyWords line = []) : readLine v line = .nothing := by
  rw [← words_bodyText, words_eq_nil_iff (trimmed_bodyText line).1] at h
  unfold readLine
  rw [strip_eq_bodyText]
  exact if_pos h

lemma readLine_of_cons (h : bodyWords line ≠ []) :
    readLine v line =
      match readOp? v (bodyText line) with
      | some op => .instruction op
      | none => .unknown := by
  have hne : bodyText line ≠ [] := by
    rwa [← words_bodyText, Ne, words_eq_nil_iff (trimmed_bodyText line).1] at h
  unfold readLine
  rw [strip_eq_bodyText]
  exact if_neg hne

/-- A line with words but no block word is a command or unknown. -/
lemma readOp?_of_noBlock (hne : bodyWords line ≠ []) (h : ¬ IsBlockLine (bodyWords line)) :
    readOp? v (bodyText line) = (v.longestMatch? (bodyText line)).map .command := by
  obtain ⟨head, rest, hw⟩ := List.exists_cons_of_ne_nil hne
  rw [readOp?_eq (trimmed_bodyText line) (by rw [words_bodyText, hw])]
  simp only [IsBlockLine, hw, List.head?_cons, Option.some.injEq, List.cons.injEq, not_or] at h
  obtain ⟨hloop, hif, hloopEnd, hifEnd⟩ := h
  rw [if_neg hloop, if_neg hif, if_neg hloopEnd, if_neg hifEnd]

/-- A line is read as some rule of the grammar says. -/
lemma yields_readLine (v : Vocabulary) (line : List Char) : Yields v line (readLine v line) := by
  rcases hw : bodyWords line with _ | ⟨head, rest⟩
  · rw [readLine_of_nil hw]
    exact .nothing hw
  · have hne : bodyWords line ≠ [] := by simp [hw]
    rw [readLine_of_cons hne]
    by_cases hblock : IsBlockLine (bodyWords line)
    · rw [readOp?_eq (trimmed_bodyText line) (by rw [words_bodyText, hw])]
      rw [hw] at hblock
      rcases hblock with hhead | hhead | hall | hall
      · obtain rfl : head = _ := by simpa using hhead
        exact .loopStart hw
      · obtain rfl : head = _ := by simpa using hhead
        exact .ifStart hw
      · obtain ⟨rfl, rfl⟩ := List.cons.inj hall
        exact .loopEnd hw
      · obtain ⟨rfl, rfl⟩ := List.cons.inj hall
        exact .ifEnd hw
    · rw [readOp?_of_noBlock hne hblock]
      rcases hmatch : v.longestMatch? (bodyText line) with _ | k
      · exact .unknown hne hblock (Vocabulary.longestMatch?_eq_none_iff.1 hmatch)
      · exact .command hne hblock (Vocabulary.longestMatch?_eq_some_iff.1 hmatch)

/-- No two rules of the grammar disagree on a line. -/
lemma readLine_of_yields (h : Yields v line r) : readLine v line = r := by
  have hop : ∀ head rest, bodyWords line = head :: rest → readLine v line =
      match readOp? v (bodyText line) with
      | some op => .instruction op
      | none => .unknown := by
    intro head rest hw
    exact readLine_of_cons (by simp [hw])
  have hread : ∀ head rest, bodyWords line = head :: rest →
      words (bodyText line) = head :: rest := by
    intro head rest hw
    rw [words_bodyText, hw]
  cases h with
  | nothing ws => exact readLine_of_nil ws
  | loopStart ws | ifStart ws | loopEnd ws | ifEnd ws =>
    rw [hop _ _ ws, readOp?_eq (trimmed_bodyText line) (hread _ _ ws)]
    rfl
  | command ws noBlock word =>
    rw [readLine_of_cons ws, readOp?_of_noBlock ws noBlock,
      Vocabulary.longestMatch?_eq_some_iff.2 word]
    rfl
  | unknown ws noBlock word =>
    rw [readLine_of_cons ws, readOp?_of_noBlock ws noBlock,
      Vocabulary.longestMatch?_eq_none_iff.2 word]
    rfl

/-- **A line is read as the grammar says.** -/
theorem readLine_eq_iff : readLine v line = r ↔ Yields v line r :=
  ⟨fun h => h ▸ yields_readLine v line, readLine_of_yields⟩

/-- A known word alone on a line is a command, unless it is one that opens or closes something. -/
lemma readLine_keyword {k : String} (known : (v.find? k).isSome) (word : IsWord k.toList)
    (free : k ∉ [Keyword.opening, Keyword.closing, Keyword.loopStart, Keyword.ifStart,
      Keyword.loopEnd, Keyword.ifEnd]) :
    readLine v k.toList = .instruction (.command k) := by
  simp only [← String.toList_inj, List.mem_cons, List.not_mem_nil, or_false, not_or] at free
  obtain ⟨hopening, hclosing, hloop, hif, hloopEnd, hifEnd⟩ := free
  have hwords : words k.toList = [k.toList] := words_of_isWord word
  have htext : bodyText k.toList = k.toList := by
    simp [bodyText, withoutOpening, withoutClosing, word.trim_eq, hwords, hopening, hclosing]
  have hbody : bodyWords k.toList = [k.toList] := by rw [← words_bodyText, htext, hwords]
  refine readLine_of_yields (.command ?_ ?_ ?_)
  · simp [hbody]
  · simp [IsBlockLine, hbody, hloop, hif, hloopEnd, hifEnd]
  · rw [htext]
    refine ⟨known, List.prefix_rfl, fun {k'} _ hstarts => ?_⟩
    have hlength := hstarts.length_le
    rwa [String.length_toList, String.length_toList] at hlength

end Rules

/-! ### The numbers of the lines -/

section Numbers

variable {v : Vocabulary} {source : String}

lemma mem_readLines {r : Line} {n : Nat} :
    (r, n) ∈ readLines v source ↔
      ∃ k line, n = k + 1 ∧ (lines (lowercase source.toList))[k]? = some line ∧
        Yields v line r := by
  rw [readLines, List.mk_mem_zipIdx_iff_le_and_getElem?_sub]
  simp only [List.getElem?_map, Option.map_eq_some_iff, readLine_eq_iff]
  constructor
  · rintro ⟨hn, line, hline, hy⟩
    exact ⟨n - 1, line, by omega, hline, hy⟩
  · rintro ⟨k, line, rfl, hline, hy⟩
    exact ⟨by omega, line, by simpa using hline, hy⟩

lemma pairwise_readLines (v : Vocabulary) (source : String) :
    (readLines v source).Pairwise (·.2 < ·.2) := by
  have hsnd : ((readLines v source).map Prod.snd).Pairwise (· < ·) := by
    rw [readLines, List.zipIdx_map_snd]
    exact List.pairwise_lt_range'
  exact List.pairwise_map.1 hsnd

lemma eq_of_mem_readLines {r r' : Line} {n : Nat} (h : (r, n) ∈ readLines v source)
    (h' : (r', n) ∈ readLines v source) : r = r' := by
  obtain ⟨k, line, rfl, hline, hy⟩ := mem_readLines.1 h
  obtain ⟨k', line', hk, hline', hy'⟩ := mem_readLines.1 h'
  obtain rfl : k = k' := by omega
  obtain rfl : line = line' := Option.some.inj (hline.symm.trans hline')
  rw [← readLine_of_yields hy, readLine_of_yields hy']

lemma mem_instructions {op : Op} {n : Nat} :
    ⟨op, n⟩ ∈ (Program.ofSource v source).instructions ↔
      (.instruction op, n) ∈ readLines v source := by
  rw [Program.ofSource, List.mem_filterMap]
  constructor
  · rintro ⟨⟨r, m⟩, hmem, hr⟩
    cases r with
    | instruction op' =>
      cases hr
      exact hmem
    | nothing | unknown => cases hr
  · exact fun h => ⟨_, h, rfl⟩

lemma mem_skipped {n : Nat} :
    n ∈ (Program.ofSource v source).skipped ↔ (.unknown, n) ∈ readLines v source := by
  rw [Program.ofSource, List.mem_filterMap]
  constructor
  · rintro ⟨⟨r, m⟩, hmem, hr⟩
    cases r with
    | unknown =>
      cases hr
      exact hmem
    | nothing | instruction => cases hr
  · exact fun h => ⟨_, h, rfl⟩

/-- What is picked from the lines with its number is in their order. -/
lemma pairwise_picked {β : Type} {pick : Line × Nat → Option β} (number : β → Nat)
    (h : ∀ r n b, pick (r, n) = some b → number b = n) :
    ((readLines v source).filterMap pick).Pairwise (number · < number ·) := by
  refine List.Pairwise.filterMap _ ?_ (pairwise_readLines v source)
  rintro ⟨r, n⟩ ⟨r', n'⟩ hlt b hb b' hb'
  rw [h r n b hb, h r' n' b' hb']
  exact hlt

lemma pairwise_instructions (v : Vocabulary) (source : String) :
    (Program.ofSource v source).instructions.Pairwise (·.line < ·.line) := by
  refine pairwise_picked Instruction.line fun r n i hi => ?_
  cases r <;> cases hi
  rfl

lemma pairwise_skipped (v : Vocabulary) (source : String) :
    (Program.ofSource v source).skipped.Pairwise (· < ·) := by
  refine pairwise_picked id fun r n k hk => ?_
  cases r <;> cases hk
  rfl

end Numbers

end Source

section Scripts

open Source Text

/-- **A script is read as the grammar says.** What is left of the text of a line is the piece of the
line with the words that are left. The instructions are what the rules yield on the lines of the
script in lower case, with the numbers of the lines from 1 on and in their order, and so are the
skipped lines. No line is both, and a line is one of them exactly if it has a word left. -/
theorem ofSource_grammar (v : Vocabulary) (source : String) :
    (∀ line, bodyText line <:+: line ∧ words (bodyText line) = bodyWords line ∧
      Trimmed (bodyText line)) ∧
    (∀ op n, ⟨op, n⟩ ∈ (Program.ofSource v source).instructions ↔
      ∃ k line, n = k + 1 ∧ (lines (lowercase source.toList))[k]? = some line ∧
        Yields v line (.instruction op)) ∧
    (∀ n, n ∈ (Program.ofSource v source).skipped ↔
      ∃ k line, n = k + 1 ∧ (lines (lowercase source.toList))[k]? = some line ∧
        Yields v line .unknown) ∧
    (Program.ofSource v source).instructions.Pairwise (·.line < ·.line) ∧
    (Program.ofSource v source).skipped.Pairwise (· < ·) ∧
    (∀ i ∈ (Program.ofSource v source).instructions,
      i.line ∉ (Program.ofSource v source).skipped) ∧
    ∀ k line, (lines (lowercase source.toList))[k]? = some line →
      (bodyWords line ≠ [] ↔ (∃ i ∈ (Program.ofSource v source).instructions, i.line = k + 1) ∨
        k + 1 ∈ (Program.ofSource v source).skipped) := by
  refine ⟨fun line => ⟨isInfix_bodyText line, words_bodyText line, trimmed_bodyText line⟩,
    fun op n => mem_instructions.trans mem_readLines, fun n => mem_skipped.trans mem_readLines,
    pairwise_instructions v source, pairwise_skipped v source, ?_, ?_⟩
  · rintro ⟨op, n⟩ hi hn
    cases eq_of_mem_readLines (mem_instructions.1 hi) (mem_skipped.1 hn)
  · intro k line hline
    have hread : (readLine v line, k + 1) ∈ readLines v source :=
      mem_readLines.2 ⟨k, line, rfl, hline, yields_readLine v line⟩
    constructor
    · intro hne
      rcases hr : readLine v line with _ | op | _
      · rw [readLine_eq_iff] at hr
        cases hr with
        | nothing ws => exact absurd ws hne
      · exact Or.inl ⟨⟨op, k + 1⟩, mem_instructions.2 (hr ▸ hread), rfl⟩
      · exact Or.inr (mem_skipped.2 (hr ▸ hread))
    · rintro hin hnil
      have hnothing : (.nothing, k + 1) ∈ readLines v source := readLine_of_nil hnil ▸ hread
      rcases hin with ⟨⟨op, n⟩, hi, rfl⟩ | hskip
      · cases eq_of_mem_readLines hnothing (mem_instructions.1 hi)
      · cases eq_of_mem_readLines hnothing (mem_skipped.1 hskip)

/-- Both marks around a block word, with tabs and capital letters. -/
theorem ofSource_grammar_of_marks :
    let source := "НАЧ\n нач\t кц  КОН"
    let line := " нач\t кц  кон".toList
    (lines (lowercase source.toList))[1]? = some line ∧ bodyWords line = ["кц".toList] ∧
      ⟨.loopEnd, 2⟩ ∈ (Program.ofSource .standard source).instructions := by
  intro source line
  have hline : (lines (lowercase source.toList))[1]? = some line := by decide +kernel
  have hwords : bodyWords line = ["кц".toList] := by decide +kernel
  exact ⟨hline, hwords, ((ofSource_grammar _ _).2.1 _ _).2 ⟨1, line, rfl, hline, .loopEnd hwords⟩⟩

end Scripts

end RobotScript
