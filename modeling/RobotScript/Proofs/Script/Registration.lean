import RobotScript.Proofs.Script.Grammar

/-!
What reading takes from a vocabulary: its words and nothing else.

Two words that begin one text are one the beginning of the other, so of all the words that begin it
there is a single longest one, in characters and in bytes alike (`longestMatch?_eq_some_iff_bytes`),
and a search finds it in whatever order it goes through the words (`longestPrefix?_eq_of_mem_iff`).
Hence a script reads the same with any two vocabularies that have the same words
(`ofSource_congr`), in particular with two that were filled by different calls
(`isSome_find?_register`).
-/

namespace RobotScript

/-! ### The one longest word -/

namespace Vocabulary

/-- The word of a vocabulary with the most bytes among those that a text starts with. -/
structure IsLongestInBytes (v : Vocabulary) (text : List Char) (k : String) : Prop where
  known : (v.find? k).isSome
  starts : k.toList <+: text
  longest {k' : String} : (v.find? k').isSome → k'.toList <+: text →
    k'.utf8ByteSize ≤ k.utf8ByteSize

section Longest

variable {v w : Vocabulary} {text : List Char} {ks : List String} {k k' : String}

/-- Of two words that a text starts with, the one with more characters has more bytes. -/
lemma utf8ByteSize_lt_of_starts (hk : k.toList <+: text) (hk' : k'.toList <+: text)
    (hlt : k.length < k'.length) : k.utf8ByteSize < k'.utf8ByteSize := by
  have hle : k.toList.length ≤ k'.toList.length := by
    rw [String.length_toList, String.length_toList]
    omega
  obtain ⟨rest, hrest⟩ := List.prefix_of_prefix_length_le hk hk' hle
  have hword : k' = k ++ String.ofList rest := by
    rw [← String.toList_inj, String.toList_append, String.toList_ofList, hrest]
  have hne : (String.ofList rest).utf8ByteSize ≠ 0 := by
    intro hzero
    rw [String.utf8ByteSize_eq_zero_iff] at hzero
    rw [hword, hzero, String.append_empty] at hlt
    omega
  rw [hword, String.utf8ByteSize_append]
  omega

/-- Bytes and characters agree on which of the words that begin a text is the longest. -/
lemma isLongestInBytes_iff : v.IsLongestInBytes text k ↔ v.IsLongest text k := by
  constructor
  · rintro ⟨hknown, hstarts, hlongest⟩
    refine ⟨hknown, hstarts, fun {k'} hknown' hstarts' => ?_⟩
    by_contra hlt
    have hbytes := utf8ByteSize_lt_of_starts hstarts hstarts' (by omega)
    have := hlongest hknown' hstarts'
    omega
  · rintro ⟨hknown, hstarts, hlongest⟩
    refine ⟨hknown, hstarts, fun {k'} hknown' hstarts' => ?_⟩
    rcases Nat.lt_or_ge k'.length k.length with hlt | hge
    · exact (utf8ByteSize_lt_of_starts hstarts' hstarts hlt).le
    · have hlen := hlongest hknown' hstarts'
      rw [eq_of_starts hstarts' hstarts (by omega)]

/-- **The word that is found is the one with the most bytes**, so there is only one. -/
theorem longestMatch?_eq_some_iff_bytes :
    v.longestMatch? text = some k ↔ v.IsLongestInBytes text k :=
  longestMatch?_eq_some_iff.trans isLongestInBytes_iff.symm

/-- A text that starts with a word starts with exactly one longest word. -/
lemma existsUnique_isLongestInBytes (hknown : (v.find? k).isSome) (hstarts : k.toList <+: text) :
    ∃! best, v.IsLongestInBytes text best := by
  have hfound : v.longestMatch? text ≠ none := by
    intro hnone
    exact longestMatch?_eq_none_iff.1 hnone k hknown hstarts
  obtain ⟨best, hbest⟩ := Option.ne_none_iff_exists'.1 hfound
  refine ⟨best, longestMatch?_eq_some_iff_bytes.1 hbest, fun other hother => ?_⟩
  have := longestMatch?_eq_some_iff_bytes.2 hother
  exact Option.some.inj (this.symm.trans hbest)

/-- **The order in which the words are gone through does not matter**, nor how often each comes. -/
theorem longestPrefix?_eq_of_mem_iff (h : ∀ k, k ∈ ks ↔ (v.find? k).isSome) :
    longestPrefix? text ks = v.longestMatch? text := by
  rcases hfound : longestPrefix? text ks with _ | k
  · symm
    rw [longestMatch?_eq_none_iff]
    intro k hk
    exact longestPrefix?_eq_none_iff.1 hfound k ((h k).2 hk)
  · symm
    rw [longestMatch?_eq_some_iff]
    obtain ⟨hmem, hstarts, hlongest⟩ := longestPrefix?_eq_some hfound
    exact ⟨(h k).1 hmem, hstarts, fun hk' => hlongest _ ((h _).2 hk')⟩

/-- **Two vocabularies have the same words**, whatever the words stand for. -/
def SameWords (v w : Vocabulary) : Prop := ∀ k, (v.find? k).isSome ↔ (w.find? k).isSome

lemma SameWords.longestMatch?_eq (h : v.SameWords w) (text : List Char) :
    v.longestMatch? text = w.longestMatch? text := by
  rw [← longestPrefix?_eq_of_mem_iff fun k => (mem_keywords.trans (h k).symm)]
  rfl

end Longest

end Vocabulary

/-! ### Reading -/

section Reading

variable {v w : Vocabulary}

lemma Source.readOp?_congr (h : v.SameWords w) (text : List Char) :
    Source.readOp? v text = Source.readOp? w text := by
  unfold Source.readOp?
  rw [h.longestMatch?_eq]

lemma Source.readLine_congr (h : v.SameWords w) (line : List Char) :
    Source.readLine v line = Source.readLine w line := by
  unfold Source.readLine
  simp only [Source.readOp?_congr h]

/-- **A script reads the same with the same words.** -/
theorem ofSource_congr (h : v.SameWords w) (source : String) :
    Program.ofSource v source = Program.ofSource w source := by
  have hread : Source.readLine v = Source.readLine w := funext (Source.readLine_congr h)
  unfold Program.ofSource Source.readLines
  rw [hread]

end Reading

/-! ### Filling a vocabulary -/

/-- A call that gives words their commands: one word, in any case of letters, or all the standard
ones. -/
inductive Registration where
  | assign (keyword : String) (command : Command)
  | addStandard

namespace Registration

/-- The words a call gives commands to, in lower case. -/
def words : Registration → List String
  | assign keyword _ => [lowered keyword]
  | addStandard => Vocabulary.standardEntries.map fun entry => lowered entry.1

/-- What a call makes of a vocabulary. -/
def apply (v : Vocabulary) : Registration → Vocabulary
  | assign keyword command => v.assign keyword command
  | addStandard => v.addStandard

end Registration

namespace Vocabulary

/-- A vocabulary after some calls. -/
def register (v : Vocabulary) (calls : List Registration) : Vocabulary :=
  calls.foldl Registration.apply v

variable {v : Vocabulary} {k : String}

lemma isSome_find?_assign (keyword : String) (command : Command) :
    ((v.assign keyword command).find? k).isSome ↔ k = lowered keyword ∨ (v.find? k).isSome := by
  rw [find?_assign]
  by_cases hk : lowered keyword = k
  · simp [hk]
  · simp [hk, Ne.symm hk]

lemma isSome_find?_assignAll (entries : List (String × Command)) :
    ((entries.foldl (fun v e => v.assign e.1 e.2) v).find? k).isSome ↔
      k ∈ entries.map (fun e => lowered e.1) ∨ (v.find? k).isSome := by
  induction entries generalizing v with
  | nil => simp
  | cons entry entries ih =>
    rw [List.foldl_cons, ih, isSome_find?_assign, List.map_cons, List.mem_cons, or_assoc, or_left_comm]

lemma isSome_find?_apply (call : Registration) :
    ((call.apply v).find? k).isSome ↔ k ∈ call.words ∨ (v.find? k).isSome := by
  cases call with
  | assign keyword command =>
    rw [Registration.words, List.mem_singleton]
    exact isSome_find?_assign keyword command
  | addStandard => rw [Registration.apply, Registration.words, addStandard, isSome_find?_assignAll]

/-- **The words after some calls are those the calls name and those there were.** -/
theorem isSome_find?_register (calls : List Registration) :
    ((v.register calls).find? k).isSome ↔
      (∃ call ∈ calls, k ∈ call.words) ∨ (v.find? k).isSome := by
  induction calls generalizing v with
  | nil => simp [register]
  | cons call calls ih =>
    have hcons : v.register (call :: calls) = (call.apply v).register calls := rfl
    rw [hcons, ih, isSome_find?_apply, List.exists_mem_cons_iff, or_assoc, or_left_comm]

/-- Calls that name the same words fill a vocabulary with the same words. -/
lemma sameWords_register {calls calls' : List Registration}
    (h : ∀ k, (∃ call ∈ calls, k ∈ call.words) ↔ ∃ call ∈ calls', k ∈ call.words)
    (v : Vocabulary) : (v.register calls).SameWords (v.register calls') := by
  intro k
  rw [isSome_find?_register, isSome_find?_register, h k]

end Vocabulary

end RobotScript
