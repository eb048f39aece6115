import DirectiveDocs.Json.Basic

namespace DirectiveDocs.Json

def hexDigit (n : Nat) : Char :=
  if n < 10 then Char.ofNat ('0'.toNat + n) else Char.ofNat ('a'.toNat + n - 10)

/-- Quotes, backslashes and control characters are escaped; all else stands for itself. -/
def escapeChar (c : Char) : List Char :=
  if c = '"' || c = '\\' then ['\\', c]
  else if c = '\n' then ['\\', 'n']
  else if c = '\r' then ['\\', 'r']
  else if c = '\t' then ['\\', 't']
  else if c = '\x08' then ['\\', 'b']
  else if c = '\x0c' then ['\\', 'f']
  else if c.toNat < 0x20 then
    ['\\', 'u', '0', '0', hexDigit (c.toNat / 16), hexDigit (c.toNat % 16)]
  else [c]

def printString (s : String) : String :=
  String.ofList ('"' :: s.toList.flatMap escapeChar ++ ['"'])

def printScalar : Json → String
  | bool b => if b then "true" else "false"
  | number d => d.display
  | string s => printString s
  | _ => "null"

mutual

/-- One line, without spaces. -/
def compact : Json → String
  | array items => "[" ++ compactItems items ++ "]"
  | object members => "\x7b" ++ compactMembers members ++ "\x7d"
  | j => printScalar j

def compactItems : List Json → String
  | [] => ""
  | [j] => compact j
  | j :: rest => compact j ++ "," ++ compactItems rest

def compactMembers : List (String × Json) → String
  | [] => ""
  | [(k, j)] => printString k ++ ":" ++ compact j
  | (k, j) :: rest => printString k ++ ":" ++ compact j ++ "," ++ compactMembers rest

end

def indent (depth : Nat) : String :=
  "\n" ++ String.ofList (List.replicate (2 * depth) ' ')

mutual

/-- One item or member a line, two spaces a level; an empty collection stays on its line. -/
def prettyAt (depth : Nat) : Json → String
  | array [] => "[]"
  | array items => "[" ++ prettyItems (depth + 1) items ++ indent depth ++ "]"
  | object [] => "\x7b\x7d"
  | object members => "\x7b" ++ prettyMembers (depth + 1) members ++ indent depth ++ "\x7d"
  | j => printScalar j

def prettyItems (depth : Nat) : List Json → String
  | [] => ""
  | [j] => indent depth ++ prettyAt depth j
  | j :: rest => indent depth ++ prettyAt depth j ++ "," ++ prettyItems depth rest

def prettyMembers (depth : Nat) : List (String × Json) → String
  | [] => ""
  | [(k, j)] => indent depth ++ printString k ++ ": " ++ prettyAt depth j
  | (k, j) :: rest =>
    indent depth ++ printString k ++ ": " ++ prettyAt depth j ++ "," ++ prettyMembers depth rest

end

def pretty (j : Json) : String :=
  prettyAt 0 j

/-- What is printed one after another with commas between is printed by `intercalate`. -/
theorem eq_intercalate {α : Type} {print : List α → String} {part : α → String}
    (hnil : print [] = "") (hone : ∀ x, print [x] = part x)
    (hmore : ∀ x y rest, print (x :: y :: rest) = part x ++ "," ++ print (y :: rest))
    (xs : List α) : print xs = ",".intercalate (xs.map part) := by
  induction xs with
  | nil => exact hnil
  | cons x rest ih =>
    cases rest with
    | nil => simp [hone]
    | cons y rest =>
      rw [hmore, ih]
      simp [String.append_assoc]

theorem compactItems_eq (items : List Json) :
    compactItems items = ",".intercalate (items.map compact) :=
  eq_intercalate rfl (fun _ => rfl) (fun _ _ _ => rfl) items

theorem compactMembers_eq (members : List (String × Json)) :
    compactMembers members =
      ",".intercalate (members.map (fun m => printString m.1 ++ ":" ++ compact m.2)) :=
  eq_intercalate rfl (fun _ => rfl) (fun _ _ _ => rfl) members

theorem prettyItems_eq (depth : Nat) (items : List Json) :
    prettyItems depth items =
      ",".intercalate (items.map (fun j => indent depth ++ prettyAt depth j)) :=
  eq_intercalate rfl (fun _ => rfl) (fun _ _ _ => rfl) items

theorem prettyMembers_eq (depth : Nat) (members : List (String × Json)) :
    prettyMembers depth members = ",".intercalate (members.map (fun m =>
      indent depth ++ printString m.1 ++ ": " ++ prettyAt depth m.2)) :=
  eq_intercalate rfl (fun _ => rfl) (fun _ _ _ => rfl) members

/-- The items of an array stand in order between brackets, with commas between them. -/
theorem compact_array (items : List Json) :
    (array items).compact = "[" ++ ",".intercalate (items.map compact) ++ "]" := by
  rw [compact, compactItems_eq]

theorem compact_object (members : List (String × Json)) :
    (object members).compact = "\x7b" ++
      ",".intercalate (members.map (fun m => printString m.1 ++ ":" ++ compact m.2)) ++ "\x7d" := by
  rw [compact, compactMembers_eq]

/-- The items of an array that has some begin new lines, and so does the bracket after them. -/
theorem prettyAt_array {items : List Json} (h : items ≠ []) (depth : Nat) :
    (array items).prettyAt depth =
      "[" ++ ",".intercalate (items.map (fun j => indent (depth + 1) ++ j.prettyAt (depth + 1))) ++
        indent depth ++ "]" := by
  rw [prettyAt, prettyItems_eq]
  exact h

theorem prettyAt_object {members : List (String × Json)} (h : members ≠ []) (depth : Nat) :
    (object members).prettyAt depth = "\x7b" ++
      ",".intercalate (members.map (fun m =>
        indent (depth + 1) ++ printString m.1 ++ ": " ++ m.2.prettyAt (depth + 1))) ++
      indent depth ++ "\x7d" := by
  rw [prettyAt, prettyMembers_eq]
  exact h

end DirectiveDocs.Json
