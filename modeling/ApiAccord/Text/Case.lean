import ApiAccord.Text.CaseTable

/-!
# Upper and lower case

`upper` and `lower` map whole texts, since the lower case of a capital sigma depends on its place
in a word: it is final after a letter and before none.
-/

namespace ApiAccord.Text

/-- Looks a code point up in the runs with index from `lo` up to but not including `hi`. -/
def CaseRun.search (runs : Array CaseRun) (n lo hi : Nat) : Nat :=
  if _ : lo < hi then
    let mid := (lo + hi) / 2
    match runs[mid]? with
    | none => n
    | some run =>
      if n < run.first then search runs n lo mid
      else if run.last < n then search runs n (mid + 1) hi
      else if (n - run.first) % run.stride == 0 then (n + run.shift).toNat else n
  else n
termination_by hi - lo

/-- The lower case of one character, sigma taken as not final. -/
def lowerChar (c : Char) : List Char :=
  if c.toNat < 0x80 then [c.toLower]
  else if c.toNat == 0x130 then ['i', Char.ofNat 0x307]
  else [Char.ofNat (CaseRun.search lowerRuns c.toNat 0 lowerRuns.size)]

/-- The upper case of one character. -/
def upperChar (c : Char) : List Char :=
  if c.toNat < 0x80 then [c.toUpper]
  else match upperExpansions.find? fun e => e.1 == c.toNat with
    | some e => e.2.map Char.ofNat
    | none => [Char.ofNat (CaseRun.search upperRuns c.toNat 0 upperRuns.size)]

/-- A character that has case. -/
def isCased (c : Char) : Bool :=
  c.isAlpha || (0x80 ≤ c.toNat && casedTable.contains c)

/-- A character that does not interrupt a word. -/
def isCaseIgnorable (c : Char) : Bool :=
  c == '\'' || c == '.' || c == ':' || c == '^' || c.toNat == 0x60 ||
    (0x80 ≤ c.toNat && caseIgnorableTable.contains c)

/-- Whether the nearest character that counts has case. -/
def touchesCased (cs : List Char) : Bool :=
  match cs.dropWhile isCaseIgnorable with
  | [] => false
  | c :: _ => isCased c

/-- Lower case of a list of characters; `before` holds what precedes it, last character first. -/
def lowerAfter (before : List Char) : List Char → List Char
  | [] => []
  | c :: rest =>
    let image :=
      if c.toNat == 0x3a3 then
        if touchesCased before && !touchesCased rest then [Char.ofNat 0x3c2] else [Char.ofNat 0x3c3]
      else lowerChar c
    image ++ lowerAfter (c :: before) rest

/-- The text in lower case. -/
def lower (s : String) : String := String.ofList (lowerAfter [] s.toList)

/-- The text in upper case. -/
def upper (s : String) : String := String.ofList (s.toList.flatMap upperChar)

end ApiAccord.Text
