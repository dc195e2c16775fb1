import RobotScript.Proofs.Script.Registration
import RobotScript.Proofs.Text.Joined
import RobotScript.Proofs.Text.Plain

/-!
Programs written out and read again.

The listing of a program has the line of each operation, in order. What can stand in such a line is
limited, since the operations come from a script in lower case: `Op.Scripted` says which operations
there are. Their lines are made of words in lower case and of plain blanks
(`Op.Scripted.tidy_display`), so lowering and cutting a listing give the lines that were put
together, and each line is read as its operation, but for the one word `кон` that every line may
end with (`Op.Scripted.readLine_display`). This holds of every program of such operations
(`comesBackAs_listing`); the main statement, on the program of a script, is `ofSource_listing`.
-/

namespace RobotScript

open Text

/-- The lines of the operations of a program, one below the other. -/
def Program.listing (p : Program) : String :=
  "\n".intercalate (p.instructions.map (·.op.display))

namespace Op

/-- **A loop with a condition that ends with the word `кон`.** -/
def EndsInClosing : Op → Prop
  | loopStart condition => (words condition.toList).getLast? = some Keyword.closing.toList
  | _ => False

/-- What the line of an operation is read as: the condition of a loop loses the word `кон` at its
end. -/
def reread : Op → Op
  | loopStart condition =>
    if (words condition.toList).getLast? = some Keyword.closing.toList then
      loopStart (String.ofList (unwords (words condition.toList).dropLast))
    else loopStart condition
  | op => op

/-- **An operation comes back as it was unless it ends with `кон`.** -/
theorem reread_eq_self_iff {op : Op} : op.reread = op ↔ ¬ op.EndsInClosing := by
  cases op with
  | command | loopEnd | ifStart | ifEnd => simp [reread, EndsInClosing]
  | loopStart condition =>
    by_cases hlast : (words condition.toList).getLast? = some Keyword.closing.toList
    · refine iff_of_false (fun heq => ?_) (not_not_intro hlast)
      rw [reread, if_pos hlast] at heq
      -- one word less is another text
      have hwords := congrArg (fun text => words text.toList) (loopStart.inj heq)
      simp only [String.toList_ofList] at hwords
      rw [words_unwords fun w hw => isWord_of_mem_words (List.dropLast_subset _ hw)] at hwords
      have hlength := congrArg List.length hwords
      have hne : words condition.toList ≠ [] := by
        intro hnil
        rw [hnil] at hlast
        cases hlast
      have hpos := List.length_pos_iff.2 hne
      rw [List.length_dropLast] at hlength
      omega
    · exact iff_of_true (if_neg hlast) hlast

end Op

/-! ### Operations of a script -/

/-- Words in lower case. -/
def LowerWords (ws : List (List Char)) : Prop := ∀ w ∈ ws, IsWord w ∧ ∀ c ∈ w, IsLower c

/-- **The operations that a script can have.** Conditions are given by words in lower case, and none
of the words in the condition of a conditional is `то`. -/
inductive Op.Scripted (v : Vocabulary) : Op → Prop
  | command {k : String} (known : (v.find? k).isSome) : Scripted v (.command k)
  | loopStart {ws : List (List Char)} (lower : LowerWords ws) :
      Scripted v (.loopStart (String.ofList (unwords ws)))
  | loopEnd : Scripted v .loopEnd
  | ifStart {ws : List (List Char)} (lower : LowerWords ws) (noThen : Keyword.ifThen.toList ∉ ws) :
      Scripted v (.ifStart (String.ofList (unwords ws)))
  | ifEnd : Scripted v .ifEnd

namespace Source

variable {v : Vocabulary} {source : String} {line w : List Char} {ws : List (List Char)}

lemma lowerWords_bodyWords (h : line ∈ lines (lowercase source.toList)) :
    LowerWords (bodyWords line) := by
  intro w hw
  rw [← words_bodyText] at hw
  refine ⟨isWord_of_mem_words hw, fun c hc => ?_⟩
  have hline : c ∈ line := (isInfix_bodyText line).subset (mem_of_mem_words hw hc).1
  exact isLower_of_mem_lowercase (mem_of_mem_lines h hline)

/-- **The operations of a script are among those that a script can have.** -/
theorem scripted_of_mem {i : Instruction} (h : i ∈ (Program.ofSource v source).instructions) :
    i.op.Scripted v := by
  obtain ⟨op, n⟩ := i
  obtain ⟨k, line, -, hline, hyields⟩ := mem_readLines.1 (mem_instructions.1 h)
  have hlower := lowerWords_bodyWords (List.mem_of_getElem? hline)
  cases hyields with
  | loopStart ws =>
    rw [ws] at hlower
    exact .loopStart (List.forall_mem_cons.1 hlower).2
  | ifStart ws =>
    rw [ws] at hlower
    refine .ifStart (fun w hw => ?_) fun hthen => ?_
    · exact (List.forall_mem_cons.1 hlower).2 w ((List.takeWhile_sublist _).subset hw)
    · have hne := List.mem_takeWhile_imp hthen
      simp at hne
  | loopEnd => exact .loopEnd
  | ifEnd => exact .ifEnd
  | command _ _ word => exact .command word.known

/-- What is left of the words of a line whose first word is no mark. -/
lemma bodyWords_of_words (h : words line = w :: ws) (hopening : w ≠ Keyword.opening.toList)
    (hclosing : w ≠ Keyword.closing.toList) :
    bodyWords line =
      w :: if ws.getLast? = some Keyword.closing.toList then ws.dropLast else ws := by
  cases ws with
  | nil => simp [bodyWords, h, hopening, hclosing]
  | cons next ws =>
    simp only [bodyWords, h, List.head?_cons, Option.some.injEq, hopening, if_false,
      List.getLast?_cons_cons, List.dropLast_cons_cons]
    split <;> rfl

end Source

/-! ### The line of an operation -/

lemma Vocabulary.isSome_find?_standard {k : String} :
    (standard.find? k).isSome ↔ k ∈ standardEntries.map (·.1) := by
  have hlowered : standardEntries.map (fun e => lowered e.1) = standardEntries.map (·.1) := by
    have hplain : ∀ e ∈ standardEntries, e.1.toList.all isPlain := by decide
    exact List.map_congr_left fun e he => lowered_of_isPlain (hplain e he)
  have hempty : empty.find? k = none := by simp [empty, find?]
  rw [standard, addStandard, isSome_find?_assignAll, hlowered, hempty]
  simp

/-- The standard words are none of those that open or close something. -/
lemma Vocabulary.standard_word {k : String} (known : (standard.find? k).isSome) :
    IsWord k.toList ∧ k.toList.all isPlain ∧
      k ∉ [Keyword.opening, Keyword.closing, Keyword.loopStart, Keyword.ifStart, Keyword.loopEnd,
        Keyword.ifEnd] := by
  have hwords : ∀ k ∈ standardEntries.map (·.1), IsWord k.toList ∧ k.toList.all isPlain ∧
      k ∉ [Keyword.opening, Keyword.closing, Keyword.loopStart, Keyword.ifStart, Keyword.loopEnd,
        Keyword.ifEnd] := by
    decide
  exact hwords k (isSome_find?_standard.1 known)

/-- A character of a line that is put together from words in lower case. -/
def IsTidy (c : Char) : Prop := (c = ' ' ∨ isBlank c = false) ∧ IsLower c

lemma tidy_blank : IsTidy ' ' := ⟨Or.inl rfl, isLower_of_isPlain rfl⟩

lemma tidy_of_isPlain {w : List Char} (hword : IsWord w) (hplain : w.all isPlain) :
    ∀ c ∈ w, IsTidy c := by
  intro c hc
  exact ⟨Or.inr (hword.2 c hc), isLower_of_isPlain (List.all_eq_true.1 hplain c hc)⟩

lemma LowerWords.tidy_unwords {ws : List (List Char)} (h : LowerWords ws) :
    ∀ c ∈ unwords ws, IsTidy c := by
  intro c hc
  rcases mem_intercalate hc with hblank | ⟨w, hw, hc⟩
  · rw [List.mem_singleton.1 hblank]
    exact tidy_blank
  · obtain ⟨hword, hlower⟩ := h w hw
    exact ⟨Or.inr (hword.2 c hc), hlower c hc⟩

lemma LowerWords.words_unwords {ws : List (List Char)} (h : LowerWords ws) :
    words (unwords ws) = ws :=
  Text.words_unwords fun w hw => (h w hw).1

namespace Op

/-- The words of the line that opens a loop. -/
lemma words_display_loopStart {ws : List (List Char)} (h : LowerWords ws) :
    words (loopStart (String.ofList (unwords ws))).display.toList =
      Keyword.loopStart.toList :: ws := by
  have hword : words Keyword.loopStart.toList = [Keyword.loopStart.toList] :=
    words_of_isWord (by decide)
  have hwords := h.words_unwords
  rw [display]
  split
  · next hempty =>
    rw [String.ofList_eq_empty_iff] at hempty
    rw [hempty] at hwords
    rw [hword, ← hwords]
    rfl
  · have hblank : " ".toList = [' '] := rfl
    rw [String.toList_append, String.toList_append, hblank, String.toList_ofList,
      List.append_assoc, List.singleton_append, words_append_cons (by decide), hword, hwords]
    rfl

/-- The words of the line that opens a conditional. -/
lemma words_display_ifStart {ws : List (List Char)} (h : LowerWords ws) :
    words (ifStart (String.ofList (unwords ws))).display.toList =
      Keyword.ifStart.toList :: (ws ++ [Keyword.ifThen.toList]) := by
  have hhead : words Keyword.ifStart.toList = [Keyword.ifStart.toList] :=
    words_of_isWord (by decide)
  have hthen : words Keyword.ifThen.toList = [Keyword.ifThen.toList] := words_of_isWord (by decide)
  have hblank : " ".toList = [' '] := rfl
  rw [display, String.toList_append, String.toList_append, String.toList_append,
    String.toList_append, hblank, String.toList_ofList, List.append_assoc, List.append_assoc,
    List.append_assoc, List.singleton_append, List.singleton_append, words_append_cons (by decide),
    words_append_cons (by decide), hhead, hthen, h.words_unwords]
  rfl

namespace Scripted

variable {op : Op}

/-- **The line of an operation is read as the operation, but for a `кон` at its end.** -/
theorem readLine_display (h : op.Scripted .standard) :
    Source.readLine .standard op.display.toList = .instruction op.reread := by
  cases h with
  | command known =>
    obtain ⟨hword, -, hfree⟩ := Vocabulary.standard_word known
    exact Source.readLine_keyword known hword hfree
  | @loopStart ws lower =>
    have hbody := Source.bodyWords_of_words (words_display_loopStart lower) (by decide) (by decide)
    rw [reread, String.toList_ofList, lower.words_unwords]
    by_cases hlast : ws.getLast? = some Keyword.closing.toList
    · rw [if_pos hlast] at hbody ⊢
      exact Source.readLine_of_yields (.loopStart hbody)
    · rw [if_neg hlast] at hbody ⊢
      exact Source.readLine_of_yields (.loopStart hbody)
  | @ifStart ws lower noThen =>
    have hlast : (ws ++ [Keyword.ifThen.toList]).getLast? ≠ some Keyword.closing.toList := by
      rw [List.getLast?_concat]
      decide
    have hbody := Source.bodyWords_of_words (words_display_ifStart lower) (by decide) (by decide)
    rw [if_neg hlast] at hbody
    have hcondition :
        (ws ++ [Keyword.ifThen.toList]).takeWhile (· ≠ Keyword.ifThen.toList) = ws := by
      rw [List.takeWhile_append_of_pos]
      · simp
      · intro w hw
        simpa using ne_of_mem_of_not_mem hw noThen
    have hyields := Source.Yields.ifStart (v := .standard) hbody
    rw [hcondition] at hyields
    exact Source.readLine_of_yields hyields
  | loopEnd | ifEnd => decide

/-- **The line of an operation is put together from words in lower case.** -/
theorem tidy_display (h : op.Scripted .standard) : ∀ c ∈ op.display.toList, IsTidy c := by
  have hblank : ∀ c ∈ " ".toList, IsTidy c := List.forall_mem_singleton.2 tidy_blank
  cases h with
  | command known =>
    obtain ⟨hword, hplain, -⟩ := Vocabulary.standard_word known
    exact tidy_of_isPlain hword hplain
  | loopStart lower =>
    have hkeyword := tidy_of_isPlain (w := Keyword.loopStart.toList) (by decide) (by decide)
    rw [display]
    split
    · exact hkeyword
    · simp only [String.toList_append, String.toList_ofList, List.forall_mem_append]
      exact ⟨⟨hkeyword, hblank⟩, lower.tidy_unwords⟩
  | ifStart lower =>
    have hkeyword := tidy_of_isPlain (w := Keyword.ifStart.toList) (by decide) (by decide)
    have hthen := tidy_of_isPlain (w := Keyword.ifThen.toList) (by decide) (by decide)
    simp only [display, String.toList_append, String.toList_ofList, List.forall_mem_append]
    exact ⟨⟨⟨⟨hkeyword, hblank⟩, lower.tidy_unwords⟩, hblank⟩, hthen⟩
  | loopEnd => exact tidy_of_isPlain (w := Keyword.loopEnd.toList) (by decide) (by decide)
  | ifEnd => exact tidy_of_isPlain (w := Keyword.ifEnd.toList) (by decide) (by decide)

lemma display_ne_nil (h : op.Scripted .standard) : op.display.toList ≠ [] := by
  intro hnil
  have hread := h.readLine_display
  rw [hnil] at hread
  cases hread

end Scripted

end Op

/-! ### Listings -/

section Listings

variable {p : Program}

/-- The lines of a listing are those it was put together from. -/
lemma lines_listing (h : ∀ i ∈ p.instructions, i.op.Scripted .standard) :
    lines (lowercase p.listing.toList) = p.instructions.map (·.op.display.toList) := by
  have htext :
      p.listing.toList = ['\n'].intercalate (p.instructions.map (·.op.display.toList)) := by
    rw [Program.listing, String.toList_intercalate, List.map_map]
    rfl
  have htidy : ∀ l ∈ p.instructions.map (·.op.display.toList), l ≠ [] ∧ ∀ c ∈ l, IsTidy c := by
    intro l hl
    obtain ⟨i, hi, rfl⟩ := List.mem_map.1 hl
    exact ⟨(h i hi).display_ne_nil, (h i hi).tidy_display⟩
  have hlower : ∀ c ∈ p.listing.toList, IsLower c := by
    intro c hc
    rw [htext] at hc
    rcases mem_intercalate hc with hfeed | ⟨l, hl, hc⟩
    · rw [List.mem_singleton.1 hfeed]
      exact lowerChar_feed
    · exact ((htidy l hl).2 c hc).2
  have hfeed : ¬ ('\n' = ' ' ∨ isBlank '\n' = false) := by decide
  have hreturn : ¬ ('\r' = ' ' ∨ isBlank '\r' = false) := by decide
  rw [lowercase_of_isLower hlower, htext, lines_intercalate]
  intro l hl
  obtain ⟨hne, hl⟩ := htidy l hl
  exact ⟨hne, fun hmem => hfeed (hl _ hmem).1, fun hmem => hreturn (hl _ hmem).1⟩

/-- A script with an operation on each of its lines. -/
lemma ofSource_of_lines {v : Vocabulary} {source : String} {ops : List Op}
    (h : (lines (lowercase source.toList)).map (Source.readLine v) = ops.map .instruction) :
    (Program.ofSource v source).instructions = (ops.zipIdx 1).map (fun e => ⟨e.1, e.2⟩) ∧
      (Program.ofSource v source).skipped = [] := by
  have hread : Source.readLines v source = (ops.zipIdx 1).map fun e => (.instruction e.1, e.2) := by
    rw [Source.readLines, h, List.zipIdx_map]
    rfl
  constructor
  · rw [Program.ofSource, hread, List.filterMap_map]
    exact congrFun List.filterMap_eq_map _
  · rw [Program.ofSource, hread, List.filterMap_eq_nil_iff]
    intro e he
    obtain ⟨e, -, rfl⟩ := List.mem_map.1 he
    rfl

/-- **What becomes of a program that is written out and read again.** No line is skipped, and there
are as many instructions as there were, on the lines from 1 on. The operations are those of the
program, but that the condition of a loop that ends with the word `кон` comes back without it; so
they are the same exactly if there is no such loop. -/
structure Program.ComesBackAs (p again : Program) : Prop where
  skipped : again.skipped = []
  length : again.instructions.length = p.instructions.length
  lines : again.instructions.map (·.line) = List.range' 1 p.instructions.length
  ops : again.instructions.map (·.op) = p.instructions.map (·.op.reread)
  same_iff : again.instructions.map (·.op) = p.instructions.map (·.op) ↔
    ∀ i ∈ p.instructions, ¬ i.op.EndsInClosing

lemma comesBackAs_listing (h : ∀ i ∈ p.instructions, i.op.Scripted .standard) :
    p.ComesBackAs (Program.ofSource .standard p.listing) := by
  have hread : (lines (lowercase p.listing.toList)).map (Source.readLine .standard) =
      (p.instructions.map (·.op.reread)).map .instruction := by
    rw [lines_listing h, List.map_map, List.map_map, List.map_inj_left]
    intro i hi
    rw [Function.comp_apply, (h i hi).readLine_display, Function.comp_apply]
  obtain ⟨hinstructions, hskipped⟩ := ofSource_of_lines hread
  generalize Program.ofSource .standard p.listing = again at hinstructions hskipped ⊢
  have hops : again.instructions.map (·.op) = p.instructions.map (·.op.reread) := by
    rw [hinstructions, List.map_map]
    exact List.zipIdx_map_fst 1 _
  refine ⟨hskipped, ?_, ?_, hops, ?_⟩
  · simpa using congrArg List.length hops
  · rw [hinstructions, List.map_map]
    refine (List.zipIdx_map_snd 1 _).trans ?_
    rw [List.length_map]
  · rw [hops, List.map_eq_map_iff]
    exact forall₂_congr fun i _ => Op.reread_eq_self_iff

end Listings

/-- **The program of every script is read back from its listing**, but for the words `кон` that its
loops end with. -/
theorem ofSource_listing (source : String) :
    (Program.ofSource .standard source).ComesBackAs
      (Program.ofSource .standard (Program.ofSource .standard source).listing) :=
  comesBackAs_listing fun _ hi => Source.scripted_of_mem hi

/-- One of two closing words goes when the line is read, and the other when its listing is. -/
example :
    let p := Program.ofSource .standard "НЦ  кон КОН"
    p.instructions = [⟨.loopStart "кон", 1⟩] ∧ p.listing = "нц кон" ∧
      (Program.ofSource .standard p.listing).instructions = [⟨.loopStart "", 1⟩] := by
  decide +kernel

end RobotScript
