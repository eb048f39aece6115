namespace DirectiveDocs.Text

/-- A place in a text, with the groups that have been closed on the way to it. -/
structure Place where
  before : List Char
  after : List Char
  groups : List (List Char)

namespace Place

/-- The place behind a word that stands here, with what comes after the word. -/
def pass (x : Place) (word rest : List Char) : Place :=
  { x with before := x.before ++ word, after := rest }

def close (opened x : Place) : Place :=
  { x with groups := x.groups ++ [x.before.drop opened.before.length] }

end Place

/-- The ways to cut a run of a class of characters off a text, the shortest run first. -/
def runs (p : Char → Bool) : List Char → List (List Char × List Char)
  | [] => [([], [])]
  | c :: cs =>
    ([], c :: cs) :: if p c then (runs p cs).map (fun cut => (c :: cut.1, cut.2)) else []

/-- A pattern for texts. What repeats is a single character of a class: `fewest` prefers the shortest
run and `most` the longest, the empty one included. -/
inductive Pattern where
  | start
  | finish
  | one (p : Char → Bool)
  | fewest (p : Char → Bool)
  | most (p : Char → Bool)
  | group (e : Pattern)
  | seq (first second : Pattern)

namespace Pattern

/-- The places that a pattern leads to, the preferred one first. -/
def ways : Pattern → Place → List Place
  | start, x => if x.before.isEmpty then [x] else []
  | finish, x => if x.after.isEmpty then [x] else []
  | one p, x =>
    match x.after with
    | c :: rest => if p c then [x.pass [c] rest] else []
    | [] => []
  | fewest p, x => (runs p x.after).map (fun cut => x.pass cut.1 cut.2)
  | most p, x => ((runs p x.after).map (fun cut => x.pass cut.1 cut.2)).reverse
  | group e, x => (e.ways x).map x.close
  | seq first second, x => (first.ways x).flatMap second.ways

/-- The preferred way from the leftmost place of a text that has one. -/
def search (e : Pattern) (text : List Char) : Option Place :=
  (runs (fun _ => true) text).findSome? (fun cut => (e.ways ⟨cut.1, cut.2, []⟩).head?)

def captures (e : Pattern) (text : String) : Option (List String) :=
  (e.search text.toList).map (fun x => x.groups.map String.ofList)

end Pattern
end DirectiveDocs.Text
