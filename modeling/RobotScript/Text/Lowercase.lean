import RobotScript.Text.CaseTable

/-!
Lower-casing by the full Unicode rules.

Every character is mapped on its own, with one exception: a capital sigma becomes the final form
`ς` at the end of a word and `σ` elsewhere. The end of a word is where a cased letter comes before
and none comes after, marks that do not interrupt a word being passed over.
-/

namespace RobotScript.Text

/-- Whether a character is a letter with case. -/
def isCased (c : Char) : Bool := inRanges casedRanges c

/-- Whether a character does not interrupt a word. -/
def isCaseIgnorable (c : Char) : Bool := inRanges caseIgnorableRanges c

/-- The lower-case form of a character on its own. Only the dotted capital I has a form of two
characters. -/
def lowerChar (c : Char) : List Char :=
  if c = 'İ' then ['i', '\u0307']
  else
    match caseRuns.find? (·.covers c.toNat) with
    | some run => [Char.ofNat (c.toNat + run.shift).toNat]
    | none => [c]

/-- Whether the first character that is not passed over is a cased letter. -/
def meetsCased (s : List Char) : Bool :=
  match s.dropWhile isCaseIgnorable with
  | [] => false
  | c :: _ => isCased c

/-- Whether a word ends between the text `before`, which is read backwards, and the text `after`. -/
def endsWord (before after : List Char) : Bool := meetsCased before && !meetsCased after

/-- The lower-case form of a text that follows `before`, which is read backwards. -/
def lowercaseAfter (before : List Char) : List Char → List Char
  | [] => []
  | c :: rest =>
    let lowered :=
      if c = 'Σ' then (if endsWord before rest then ['ς'] else ['σ']) else lowerChar c
    lowered ++ lowercaseAfter (c :: before) rest

theorem lowercaseAfter_cons (before : List Char) {c : Char} (h : c ≠ 'Σ') (s : List Char) :
    lowercaseAfter before (c :: s) = lowerChar c ++ lowercaseAfter (c :: before) s := by
  rw [lowercaseAfter, if_neg h]

/-- The lower-case form of a text. -/
def lowercase (s : List Char) : List Char := lowercaseAfter [] s

@[simp] theorem lowercase_nil : lowercase [] = [] := rfl

end RobotScript.Text

namespace RobotScript

/-- The lower-case form of a string. -/
def lowered (s : String) : String := String.ofList (Text.lowercase s.toList)

end RobotScript
