import Mathlib.Data.List.DropRight
import RobotScript.Json.Printer
import RobotScript.Json.Reader

/-!
Reading undoes writing.

The indented text of a value is read as that value, if the value is `Plain`: other numbers and what
stands for nothing are not told apart in text. What is written goes behind what is there already, so
the text of a value can be cut out of the text of a larger one. After it comes the end, a comma or a
line feed (`Ends`), so that a number does not run on into the rest. The main statement is
`read?_pretty`.
-/

namespace RobotScript.Json

open Reader

variable {rest : List Char}

/-! ### Around a value -/

/-- What can come after the text of a value: nothing, or text that starts with a comma or a line
feed. -/
def Ends (rest : List Char) : Prop := ∀ c ∈ rest.head?, c = ',' ∨ c = '\n'

/-- What can come before the text of a value. -/
def Blanks (s : List Char) : Prop := ∀ c ∈ s, c = ' ' ∨ c = '\n'

lemma ends_cons_iff {c : Char} : Ends (c :: rest) ↔ c = ',' ∨ c = '\n' := by simp [Ends]

lemma skipBlanks_append {s : List Char} (h : Blanks s) (rest : List Char) :
    skipBlanks (s ++ rest) = skipBlanks rest := by
  refine List.dropWhile_append_of_pos fun c hc => ?_
  rcases h c hc with rfl | rfl <;> rfl

lemma skipBlanks_skipBlanks (s : List Char) : skipBlanks (skipBlanks s) = skipBlanks s :=
  List.dropWhile_idempotent _ s

lemma value?_skipBlanks (fuel : Nat) (s : List Char) :
    value? fuel (skipBlanks s) = value? fuel s := by
  cases fuel with
  | zero => simp [value?]
  | succ fuel => rw [value?, value?, skipBlanks_skipBlanks]

lemma items?_skipBlanks (fuel : Nat) (s : List Char) (read : List Json) :
    items? fuel (skipBlanks s) read = items? fuel s read := by
  cases fuel with
  | zero => simp [items?]
  | succ fuel => rw [items?, items?, value?_skipBlanks]

lemma members?_skipBlanks (fuel : Nat) (s : List Char) (read : List (String × Json))
    (readable : Bool) :
    members? fuel (skipBlanks s) read readable = members? fuel s read readable := by
  cases fuel with
  | zero => simp [members?]
  | succ fuel => rw [members?, members?, skipBlanks_skipBlanks]

lemma value?_append_blanks {s : List Char} (h : Blanks s) (fuel : Nat) (rest : List Char) :
    value? fuel (s ++ rest) = value? fuel rest := by
  rw [← value?_skipBlanks, skipBlanks_append h, value?_skipBlanks]

lemma items?_feed (fuel : Nat) (s : List Char) (read : List Json) :
    items? fuel ('\n' :: s) read = items? fuel s read := by
  rw [← items?_skipBlanks, ← items?_skipBlanks fuel s]
  rfl

lemma members?_feed (fuel : Nat) (s : List Char) (read : List (String × Json)) (readable : Bool) :
    members? fuel ('\n' :: s) read readable = members? fuel s read readable := by
  rw [← members?_skipBlanks, ← members?_skipBlanks fuel s]
  rfl

/-! ### Numbers -/

lemma digitsValue_toDigits (n : Nat) : digitsValue (Nat.toDigits 10 n) = n :=
  Nat.ofDigitChars_ten_toDigits

lemma isDigit_toDigits {n : Nat} {c : Char} (hc : c ∈ Nat.toDigits 10 n) : c.isDigit :=
  Nat.isDigit_of_mem_toDigits (by decide) (by decide) hc

lemma head?_toDigits_ne_zero {n : Nat} (h : 0 < n) : (Nat.toDigits 10 n).head? ≠ some '0' := by
  induction n using Nat.strongRecOn with
  | ind n ih =>
    rcases Nat.lt_or_ge n 10 with hn | hn
    · rw [Nat.toDigits_of_lt_base hn]
      simp [h.ne']
    · rw [Nat.toDigits_of_base_le (by decide) hn,
        List.head?_append_of_ne_nil _ Nat.toDigits_ne_nil]
      exact ih (n / 10) (by omega) (by omega)

namespace Ends

lemma takeWhile_isDigit (h : Ends rest) : rest.takeWhile Char.isDigit = [] := by
  cases rest with
  | nil => rfl
  | cons c rest => rcases h c rfl with rfl | rfl <;> rfl

lemma dropWhile_isDigit (h : Ends rest) : rest.dropWhile Char.isDigit = rest := by
  cases rest with
  | nil => rfl
  | cons c rest => rcases h c rfl with rfl | rfl <;> rfl

lemma fractionPart? (h : Ends rest) : fractionPart? rest = some ([], rest) := by
  cases rest with
  | nil => rfl
  | cons c rest => rcases h c rfl with rfl | rfl <;> rfl

lemma exponentPart? (h : Ends rest) : exponentPart? rest = some (none, rest) := by
  cases rest with
  | nil => rfl
  | cons c rest => rcases h c rfl with rfl | rfl <;> rfl

end Ends

lemma digits?_toDigits (n : Nat) (h : Ends rest) :
    digits? (Nat.toDigits 10 n ++ rest) = some (Nat.toDigits 10 n, rest) := by
  have htake : (Nat.toDigits 10 n ++ rest).takeWhile Char.isDigit = Nat.toDigits 10 n := by
    rw [List.takeWhile_append_of_pos fun c hc => isDigit_toDigits hc, h.takeWhile_isDigit,
      List.append_nil]
  have hdrop : (Nat.toDigits 10 n ++ rest).dropWhile Char.isDigit = rest := by
    rw [List.dropWhile_append_of_pos fun c hc => isDigit_toDigits hc, h.dropWhile_isDigit]
  simp [digits?, htake, hdrop, Nat.toDigits_ne_nil]

/-- A zero in front would end the number. -/
lemma wholePart?_toDigits (n : Nat) (h : Ends rest) :
    wholePart? (Nat.toDigits 10 n ++ rest) = some (Nat.toDigits 10 n, rest) := by
  rcases Nat.eq_zero_or_pos n with rfl | hn
  · rfl
  · unfold wholePart?
    split
    · next more hmore =>
      have hhead := head?_toDigits_ne_zero hn
      rw [← List.head?_append_of_ne_nil _ Nat.toDigits_ne_nil, hmore] at hhead
      exact absurd rfl hhead
    · exact digits?_toDigits n h

lemma number?_toDigits {n : Nat} (hn : n ≤ 18446744073709551615) (h : Ends rest) :
    number? (Nat.toDigits 10 n ++ rest) = some (.int n, rest) := by
  have hsign : (Nat.toDigits 10 n ++ rest).head? ≠ some '-' := by
    rw [List.head?_append_of_ne_nil _ Nat.toDigits_ne_nil]
    intro hhead
    cases isDigit_toDigits (List.mem_of_head? hhead)
  unfold number?
  split
  next negative s hs =>
  split at hs
  · next more hmore =>
    rw [hmore] at hsign
    exact absurd rfl hsign
  · cases hs
    simp [wholePart?_toDigits n h, h.fractionPart?, h.exponentPart?, numberValue,
      digitsValue_toDigits, hn]

lemma number?_neg {n : Nat} (hpos : 0 < n) (hn : n ≤ 9223372036854775808) (h : Ends rest) :
    number? ('-' :: Nat.toDigits 10 n ++ rest) = some (.int (-n), rest) := by
  simp [number?, wholePart?_toDigits n h, h.fractionPart?, h.exponentPart?, numberValue,
    digitsValue_toDigits, hn, hpos]

/-- Text that starts like a number is read as one. -/
lemma value?_eq_number? (fuel : Nat) {c : Char} (hc : c.isDigit ∨ c = '-') (s : List Char) :
    value? (fuel + 1) (c :: s) = number? (c :: s) := by
  have hskip : skipBlanks (c :: s) = c :: s := by
    refine List.dropWhile_cons_of_neg ?_
    intro hblank
    simp only [Bool.or_eq_true, decide_eq_true_eq] at hblank
    rcases hblank with ((rfl | rfl) | rfl) | rfl <;> simp at hc
  rw [value?, hskip]
  split
  all_goals first
    | rfl
    | next h =>
      cases h
      simp at hc

/-- **A whole number of 64 bits is read back**, with or without sign. -/
lemma value?_toString (fuel : Nat) {n : Int}
    (hn : -9223372036854775808 ≤ n ∧ n ≤ 18446744073709551615) (h : Ends rest) :
    value? (fuel + 1) ((toString n).toList ++ rest) = some (.int n, rest) := by
  rw [Int.toString_eq_repr, Int.repr_eq_if]
  split
  · next hpos =>
    obtain ⟨c, ds, hds⟩ := List.exists_cons_of_ne_nil (Nat.toDigits_ne_nil (n := n.toNat) (b := 10))
    have hc : c.isDigit := isDigit_toDigits (n := n.toNat) (by simp [hds])
    rw [Nat.toList_repr, hds, List.cons_append, value?_eq_number? fuel (.inl hc),
      ← List.cons_append, ← hds, number?_toDigits (by omega) h, Int.toNat_of_nonneg hpos]
  · next hneg =>
    have hread := number?_neg (n := (-n).toNat) (by omega) (by omega) h
    rw [Int.toNat_of_nonneg (by omega), Int.neg_neg] at hread
    rw [String.toList_append, Nat.toList_repr]
    exact (value?_eq_number? fuel (.inr rfl) _).trans hread

/-! ### Strings -/

lemma hexDigit?_hexChar (n : Nat) : hexDigit? (hexChar n) = some (n % 16) := by
  have hall : ∀ d < 16, hexDigit? (Nat.digitChar d) = some d := by decide
  exact hall _ (Nat.mod_lt _ (by decide))

lemma unit?_hexChar {n : Nat} (h : n < 256) :
    unit? '0' '0' (hexChar (n / 16)) (hexChar n) = some n := by
  have hzero : hexDigit? '0' = some 0 := rfl
  simp only [unit?, hzero, hexDigit?_hexChar, Option.bind_eq_bind, Option.bind_some,
    Option.pure_def, Option.some.injEq]
  omega

lemma addUnit_of_lt {d : Draft} {u : Nat} (h : u < 0xd800) :
    d.addUnit u = d.add (Char.ofNat u) := by
  have hfirst : ¬(0xd800 ≤ u ∧ u < 0xdc00) := by omega
  have hsecond : ¬(0xdc00 ≤ u ∧ u < 0xe000) := by omega
  simp [Draft.addUnit, hfirst, hsecond]

/-- A character is read back, in each of the ways in which it can be written. -/
lemma stringTail?_escaped (d : Draft) (c : Char) (rest : List Char) :
    stringTail? d ((escaped c).toList ++ rest) = stringTail? (d.add c) rest := by
  unfold escaped
  split
  · next h => simp [h, stringTail?, escape?]
  split
  · next h => simp [h, stringTail?, escape?]
  split
  · next h => simp [h, stringTail?, escape?]
  split
  · next h => simp [h, stringTail?, escape?]
  split
  · next h => simp [h, stringTail?, escape?]
  split
  · next h => simp [h, stringTail?, escape?]
  split
  · next h => simp [h, stringTail?, escape?]
  split
  · next h =>
    have hunit := unit?_hexChar (show c.toNat < 256 by omega)
    simp [stringTail?, hunit, addUnit_of_lt (show c.toNat < 0xd800 by omega)]
  · next h =>
    have hchar : c.toString.toList = [c] := by simp
    rw [hchar, List.singleton_append, stringTail?.eq_def]
    split
    · simp_all
    · simp_all
    · simp_all
    · simp_all
    · next more _ _ _ hmore =>
      cases hmore
      rw [if_neg h]

lemma foldl_escaped (cs : List Char) (out : String) :
    cs.foldl (fun out c => out ++ escaped c) out =
      out ++ cs.foldl (fun out c => out ++ escaped c) "" := by
  induction cs generalizing out with
  | nil => simp
  | cons c cs ih =>
    rw [List.foldl_cons, List.foldl_cons, ih, ih ("" ++ escaped c)]
    simp [String.append_assoc]

lemma stringTail?_foldl_escaped (d : Draft) (cs rest : List Char) :
    stringTail? d ((cs.foldl (fun out c => out ++ escaped c) "").toList ++ rest) =
      stringTail? (cs.foldl Draft.add d) rest := by
  induction cs generalizing d with
  | nil => rfl
  | cons c cs ih =>
    rw [List.foldl_cons, foldl_escaped, String.toList_append, List.append_assoc,
      String.empty_append, stringTail?_escaped, ih]
    rfl

lemma close?_foldl_add (cs : List Char) {d : Draft} (hhalf : d.half = none)
    (hbroken : d.broken = false) :
    (cs.foldl Draft.add d).close? = some (String.ofList (d.chars.reverse ++ cs)) := by
  induction cs generalizing d with
  | nil => simp [Draft.close?, hhalf, hbroken]
  | cons c cs ih =>
    rw [List.foldl_cons, ih (d := d.add c) rfl (by simp [Draft.add, hbroken, hhalf])]
    simp [Draft.add]

/-- **A string is read back.** -/
lemma stringTail?_writeString (s : String) (rest : List Char) :
    ∃ tail, (writeString "" s).toList = '"' :: tail ∧
      stringTail? {} (tail ++ rest) = some (some s, rest) := by
  refine ⟨(s.toList.foldl (fun out c => out ++ escaped c) "").toList ++ ['"'], ?_, ?_⟩
  · rw [writeString, foldl_escaped]
    simp
  · rw [List.append_assoc, stringTail?_foldl_escaped]
    show some (_, rest) = _
    rw [close?_foldl_add _ rfl rfl]
    simp

/-! ### The written text

Everything is written behind what is there already. -/

lemma writeString_eq (out s : String) : writeString out s = out ++ writeString "" s := by
  unfold writeString
  rw [foldl_escaped, foldl_escaped _ ("" ++ _)]
  simp [String.append_assoc]

lemma writeLeaf_eq (out : String) (j : Json) : writeLeaf out j = out ++ writeLeaf "" j := by
  unfold writeLeaf
  split
  · simp
  · simp
  · simp
  · exact writeString_eq out _
  · simp

mutual

lemma writeBlock_eq (out indent : String) (j : Json) :
    writeBlock out indent j = out ++ writeBlock "" indent j := by
  cases j with
  | arr items =>
    cases items with
    | nil => simp [writeBlock]
    | cons j rest =>
      rw [writeBlock, writeBlock, writeBlockItems_eq, writeBlockItems_eq ("" ++ _)]
      · simp [String.append_assoc]
      · simp
      · simp
  | obj members =>
    cases members with
    | nil => simp [writeBlock]
    | cons m rest =>
      rw [writeBlock, writeBlock, writeBlockMembers_eq, writeBlockMembers_eq ("" ++ _)]
      · simp [String.append_assoc]
      · simp
      · simp
  | _ =>
    rw [writeBlock, writeBlock]
    · exact writeLeaf_eq out _
    all_goals simp

lemma writeBlockItems_eq (out indent separator : String) (items : List Json) :
    writeBlockItems out indent separator items =
      out ++ writeBlockItems "" indent separator items := by
  cases items with
  | nil => simp [writeBlockItems]
  | cons j rest =>
    rw [writeBlockItems, writeBlockItems, writeBlockItems_eq, writeBlock_eq,
      writeBlockItems_eq (writeBlock ("" ++ _ ++ _) _ _), writeBlock_eq ("" ++ _ ++ _)]
    simp [String.append_assoc]

lemma writeBlockMembers_eq (out indent separator : String) (members : List (String × Json)) :
    writeBlockMembers out indent separator members =
      out ++ writeBlockMembers "" indent separator members := by
  cases members with
  | nil => simp [writeBlockMembers]
  | cons m rest =>
    obtain ⟨name, j⟩ := m
    rw [writeBlockMembers, writeBlockMembers, writeBlockMembers_eq, writeBlock_eq, writeString_eq,
      writeBlockMembers_eq (writeBlock _ _ _), writeBlock_eq (_ ++ ": "),
      writeString_eq ("" ++ _ ++ _)]
    simp [String.append_assoc]

end

/-- The text from the end of the last item or member of a value on. -/
def closing (indent : String) (bracket : Char) (rest : List Char) : List Char :=
  '\n' :: (indent.toList ++ bracket :: rest)

lemma skipBlanks_closing {indent : String} (hi : Blanks indent.toList) {bracket : Char}
    (hb : bracket = ']' ∨ bracket = '\x7d') (rest : List Char) :
    skipBlanks (closing indent bracket rest) = bracket :: rest := by
  have hfeed : Blanks ('\n' :: indent.toList) := List.forall_mem_cons.2 ⟨.inr rfl, hi⟩
  rw [closing, ← List.cons_append, skipBlanks_append hfeed]
  rcases hb with rfl | rfl <;> rfl

lemma toList_writeBlock_arr (indent : String) (j : Json) (items : List Json) (rest : List Char) :
    (writeBlock "" indent (arr (j :: items))).toList ++ rest =
      '[' :: '\n' :: ((writeBlockItems "" (indent ++ "  ") "" (j :: items)).toList ++
        closing indent ']' rest) := by
  rw [writeBlock, writeBlockItems_eq]
  · simp [closing]
  · simp

lemma toList_writeBlock_obj (indent : String) (m : String × Json) (members : List (String × Json))
    (rest : List Char) :
    (writeBlock "" indent (obj (m :: members))).toList ++ rest =
      '\x7b' :: '\n' :: ((writeBlockMembers "" (indent ++ "  ") "" (m :: members)).toList ++
        closing indent '\x7d' rest) := by
  rw [writeBlock, writeBlockMembers_eq]
  · simp [closing]
  · simp

lemma toList_writeBlockItems_cons (indent separator : String) (j : Json) (items : List Json) :
    (writeBlockItems "" indent separator (j :: items)).toList =
      separator.toList ++ (indent.toList ++ ((writeBlock "" indent j).toList ++
        (writeBlockItems "" indent ",\n" items).toList)) := by
  rw [writeBlockItems, writeBlockItems_eq, writeBlock_eq]
  simp

lemma toList_writeBlockMembers_cons (indent separator name : String) (j : Json)
    (members : List (String × Json)) :
    (writeBlockMembers "" indent separator ((name, j) :: members)).toList =
      separator.toList ++ (indent.toList ++ ((writeString "" name).toList ++
        ':' :: ' ' :: ((writeBlock "" indent j).toList ++
          (writeBlockMembers "" indent ",\n" members).toList))) := by
  rw [writeBlockMembers, writeBlockMembers_eq, writeBlock_eq, writeString_eq]
  simp

lemma toList_writeBlockItems_comma (indent : String) (j : Json) (items : List Json) :
    (writeBlockItems "" indent ",\n" (j :: items)).toList =
      ',' :: '\n' :: (writeBlockItems "" indent "" (j :: items)).toList := by
  simp [toList_writeBlockItems_cons]

lemma toList_writeBlockMembers_comma (indent : String) (m : String × Json)
    (members : List (String × Json)) :
    (writeBlockMembers "" indent ",\n" (m :: members)).toList =
      ',' :: '\n' :: (writeBlockMembers "" indent "" (m :: members)).toList := by
  obtain ⟨name, j⟩ := m
  simp [toList_writeBlockMembers_cons]

lemma ends_items (indent outer : String) (items : List Json) :
    Ends ((writeBlockItems "" indent ",\n" items).toList ++ closing outer ']' rest) := by
  cases items with
  | nil => exact ends_cons_iff.2 (.inr rfl)
  | cons j items =>
    rw [toList_writeBlockItems_comma]
    exact ends_cons_iff.2 (.inl rfl)

lemma ends_members (indent outer : String) (members : List (String × Json)) :
    Ends ((writeBlockMembers "" indent ",\n" members).toList ++ closing outer '\x7d' rest) := by
  cases members with
  | nil => exact ends_cons_iff.2 (.inr rfl)
  | cons m members =>
    rw [toList_writeBlockMembers_comma]
    exact ends_cons_iff.2 (.inl rfl)

/-! ### Arrays and objects -/

section Steps

variable {fuel : Nat} {s after more : List Char} {j : Json} {name : String}

lemma items?_comma (hvalue : value? fuel s = some (j, after))
    (hafter : skipBlanks after = ',' :: more) (read : List Json) :
    items? (fuel + 1) s read = items? fuel more (j :: read) := by
  rw [items?, hvalue]
  simp only [hafter]

lemma items?_bracket (hvalue : value? fuel s = some (j, after))
    (hafter : skipBlanks after = ']' :: rest) (read : List Json) :
    items? (fuel + 1) s read = some (.arr (read.reverse ++ [j]), rest) := by
  rw [items?, hvalue]
  simp [hafter]

lemma members?_comma (hname : stringTail? {} s = some (some name, ':' :: after))
    (hvalue : value? fuel after = some (j, more)) {next : List Char}
    (hmore : skipBlanks more = ',' :: next) (read : List (String × Json)) :
    members? (fuel + 1) ('"' :: s) read true = members? fuel next ((name, j) :: read) true := by
  rw [members?, show skipBlanks ('"' :: s) = '"' :: s from rfl]
  simp only [hname, show skipBlanks (':' :: after) = ':' :: after from rfl, hvalue, hmore]
  rfl

lemma members?_brace (hname : stringTail? {} s = some (some name, ':' :: after))
    (hvalue : value? fuel after = some (j, more)) (hmore : skipBlanks more = '\x7d' :: rest)
    (read : List (String × Json)) :
    members? (fuel + 1) ('"' :: s) read true =
      some (.obj (read.reverse ++ [(name, j)]), rest) := by
  rw [members?, show skipBlanks ('"' :: s) = '"' :: s from rfl]
  simp [hname, show skipBlanks (':' :: after) = ':' :: after from rfl, hvalue, hmore]

/-- No item starts with a closing bracket. -/
lemma items?_of_bracket (fuel : Nat) (s : List Char) (read : List Json) :
    items? fuel (']' :: s) read = none := by
  cases fuel with
  | zero => simp [items?]
  | succ fuel =>
    have hvalue : value? fuel (']' :: s) = none := by
      cases fuel with
      | zero => simp [value?]
      | succ fuel => simp [value?, skipBlanks, number?, wholePart?, digits?]
    rw [items?, hvalue]

variable {result : Json × List Char}

lemma value?_of_items? (h : items? fuel s [] = some result) :
    value? (fuel + 1) ('[' :: s) = some result := by
  rw [← items?_skipBlanks] at h
  rw [value?, show skipBlanks ('[' :: s) = '[' :: s from rfl]
  simp only
  split
  · next more hmore =>
    rw [hmore, items?_of_bracket] at h
    cases h
  · exact h

lemma value?_of_members? (h : members? fuel s [] true = some result) :
    value? (fuel + 1) ('\x7b' :: s) = some result := by
  rw [← members?_skipBlanks] at h
  rw [value?, show skipBlanks ('\x7b' :: s) = '\x7b' :: s from rfl]
  simp only
  split
  · next more hmore =>
    rw [hmore] at h
    cases fuel <;> simp [members?, skipBlanks] at h
  · exact h

end Steps

/-! ### Values -/

mutual

/-- **A value that its text tells**: its numbers are whole numbers of 64 bits, and every part of it
stands for something. -/
def Plain : Json → Prop
  | int n => -9223372036854775808 ≤ n ∧ n ≤ 18446744073709551615
  | real => False
  | unreadable => False
  | arr items => PlainItems items
  | obj members => PlainMembers members
  | _ => True

/-- Every item is plain. -/
def PlainItems : List Json → Prop
  | [] => True
  | j :: rest => j.Plain ∧ PlainItems rest

/-- The value of every member is plain. -/
def PlainMembers : List (String × Json) → Prop
  | [] => True
  | (_, j) :: rest => j.Plain ∧ PlainMembers rest

end

lemma plainItems_iff {items : List Json} : PlainItems items ↔ ∀ j ∈ items, j.Plain := by
  induction items with
  | nil => simp [PlainItems]
  | cons j items ih => simp [PlainItems, ih]

lemma blanks_append_two {indent : String} (hi : Blanks indent.toList) :
    Blanks (indent ++ "  ").toList := by
  rw [String.toList_append]
  exact List.forall_mem_append.2 ⟨hi, by simp⟩

-- The reader calls itself on the same text when it goes from an array to its first item, so each
-- character pays for two calls.
mutual

/-- **A value is read back**, from wherever it stands. -/
theorem value?_writeBlock (j : Json) (hj : j.Plain) {indent : String} (hi : Blanks indent.toList)
    (fuel : Nat) {rest : List Char} (hrest : Ends rest)
    (hfuel : 2 * ((writeBlock "" indent j).toList ++ rest).length < fuel) :
    value? fuel ((writeBlock "" indent j).toList ++ rest) = some (j, rest) := by
  obtain ⟨fuel, rfl⟩ : ∃ k, fuel = k + 1 := ⟨fuel - 1, by omega⟩
  cases j with
  | null => simp [writeBlock, writeLeaf, value?, skipBlanks]
  | bool b => cases b <;> simp [writeBlock, writeLeaf, value?, skipBlanks]
  | int n =>
    have htext : writeBlock "" indent (int n) = toString n := by simp [writeBlock, writeLeaf]
    rw [htext]
    exact value?_toString fuel hj hrest
  | real => exact hj.elim
  | unreadable => exact hj.elim
  | str s =>
    have htext : writeBlock "" indent (str s) = writeString "" s := by simp [writeBlock, writeLeaf]
    obtain ⟨tail, htail, hread⟩ := stringTail?_writeString s rest
    rw [htext, htail, List.cons_append, value?]
    simp only [show skipBlanks ('"' :: (tail ++ rest)) = '"' :: (tail ++ rest) from rfl, hread]
  | arr items =>
    cases items with
    | nil => simp [writeBlock, value?, skipBlanks]
    | cons j items =>
      rw [toList_writeBlock_arr] at hfuel ⊢
      simp only [List.length_cons] at hfuel
      have hread := items?_writeBlockItems (j :: items) (List.cons_ne_nil j items) hj
        (blanks_append_two hi) hi fuel rest (by omega) []
      exact value?_of_items? ((items?_feed fuel _ []).trans hread)
  | obj members =>
    cases members with
    | nil => simp [writeBlock, value?, skipBlanks]
    | cons m members =>
      rw [toList_writeBlock_obj] at hfuel ⊢
      simp only [List.length_cons] at hfuel
      have hread := members?_writeBlockMembers (m :: members) (List.cons_ne_nil m members) hj
        (blanks_append_two hi) hi fuel rest (by omega) []
      exact value?_of_members? ((members?_feed fuel _ [] true).trans hread)

lemma items?_writeBlockItems (items : List Json) (hne : items ≠ []) (hj : PlainItems items)
    {indent outer : String} (hi : Blanks indent.toList) (ho : Blanks outer.toList) (fuel : Nat)
    (rest : List Char)
    (hfuel : 2 * ((writeBlockItems "" indent "" items).toList ++
      closing outer ']' rest).length + 1 < fuel) (read : List Json) :
    items? fuel ((writeBlockItems "" indent "" items).toList ++ closing outer ']' rest) read =
      some (.arr (read.reverse ++ items), rest) := by
  obtain ⟨fuel, rfl⟩ : ∃ k, fuel = k + 1 := ⟨fuel - 1, by omega⟩
  cases items with
  | nil => exact absurd rfl hne
  | cons j items =>
    rw [toList_writeBlockItems_cons] at hfuel ⊢
    simp only [String.toList_empty, List.nil_append, List.append_assoc, List.length_append]
      at hfuel ⊢
    have hends : Ends ((writeBlockItems "" indent ",\n" items).toList ++ closing outer ']' rest) :=
      ends_items indent outer items
    have hvalue := value?_writeBlock j hj.1 hi fuel hends (by
      simp only [List.length_append]
      omega)
    rw [← value?_append_blanks hi] at hvalue
    cases items with
    | nil => exact items?_bracket hvalue (skipBlanks_closing ho (.inl rfl) rest) read
    | cons k more =>
      rw [toList_writeBlockItems_comma] at hvalue hfuel ⊢
      have hread := items?_writeBlockItems (k :: more) (List.cons_ne_nil k more) hj.2 hi ho
        fuel rest (by
          simp only [List.length_append, List.length_cons] at hfuel ⊢
          omega) (j :: read)
      rw [items?_comma hvalue rfl, List.append_eq, List.cons_append, items?_feed]
      simpa using hread

lemma members?_writeBlockMembers (members : List (String × Json)) (hne : members ≠ [])
    (hj : PlainMembers members) {indent outer : String} (hi : Blanks indent.toList)
    (ho : Blanks outer.toList) (fuel : Nat) (rest : List Char)
    (hfuel : 2 * ((writeBlockMembers "" indent "" members).toList ++
      closing outer '\x7d' rest).length + 1 < fuel) (read : List (String × Json)) :
    members? fuel ((writeBlockMembers "" indent "" members).toList ++ closing outer '\x7d' rest)
      read true = some (.obj (read.reverse ++ members), rest) := by
  obtain ⟨fuel, rfl⟩ : ∃ k, fuel = k + 1 := ⟨fuel - 1, by omega⟩
  cases members with
  | nil => exact absurd rfl hne
  | cons m members =>
    obtain ⟨name, j⟩ := m
    rw [toList_writeBlockMembers_cons] at hfuel ⊢
    simp only [String.toList_empty, List.nil_append, List.append_assoc, List.cons_append,
      List.length_append, List.length_cons] at hfuel ⊢
    have hends :
        Ends ((writeBlockMembers "" indent ",\n" members).toList ++ closing outer '\x7d' rest) :=
      ends_members indent outer members
    have hvalue := value?_writeBlock j hj.1 hi fuel hends (by
      simp only [List.length_append]
      omega)
    rw [← value?_append_blanks (s := [' ']) (by simp [Blanks])] at hvalue
    obtain ⟨tail, htail, hname⟩ := stringTail?_writeString name
      (':' :: ' ' :: ((writeBlock "" indent j).toList ++
        ((writeBlockMembers "" indent ",\n" members).toList ++ closing outer '\x7d' rest)))
    rw [← members?_skipBlanks, skipBlanks_append hi, members?_skipBlanks, htail, List.cons_append]
    cases members with
    | nil => exact members?_brace hname hvalue (skipBlanks_closing ho (.inr rfl) rest) read
    | cons k more =>
      rw [toList_writeBlockMembers_comma] at hvalue hname hfuel ⊢
      have hread := members?_writeBlockMembers (k :: more) (List.cons_ne_nil k more) hj.2 hi ho
        fuel rest (by
          simp only [List.length_append, List.length_cons] at hfuel ⊢
          omega) ((name, j) :: read)
      rw [members?_comma hname hvalue rfl, List.append_eq, List.cons_append, members?_feed]
      simpa using hread

end

/-- **Reading undoes writing.** The indented text of a plain value is read as that value. -/
theorem read?_pretty {j : Json} (h : j.Plain) : read? j.pretty.toList = some j := by
  have hends : Ends [] := by simp [Ends]
  have hindent : Blanks "".toList := by simp [Blanks]
  have hread := value?_writeBlock j h hindent (2 * (writeBlock "" "" j).toList.length + 2) hends
    (by simp)
  rw [List.append_nil] at hread
  rw [read?, pretty, hread]
  rfl

end RobotScript.Json
