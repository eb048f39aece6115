import DirectiveDocs.Markup.Event

namespace DirectiveDocs.Markup

/-- Inline text. A `delimiter` that matches no other is text; `count` tells how many marks of its
run are left from it on. -/
inductive Inline (d : Dialect) where
  | text (text : String)
  | code (code : String)
  | html (html : String)
  | softBreak
  | hardBreak (backslash : Bool)
  | delimiter (mark : Char) (count : Nat) (opens closes : Bool)
  | emphasis (children : List (Inline d))
  | strong (children : List (Inline d))
  | strikethrough (children : List (Inline d)) (allowed : d.has .github = true)
  | link (url title : String) (children : List (Inline d))
  | image (url title : String) (children : List (Inline d))

variable {d : Dialect}

/-- Marks that wait for a closing run: how many of the run are left, how long the run was,
whether it could also close, and what came after it, latest first. -/
structure Opener (d : Dialect) where
  mark : Char
  count : Nat
  runLength : Nat
  both : Bool
  latest : List (Inline d)

def markText (mark : Char) (count : Nat) : List (Inline d) :=
  List.replicate count (.text (String.singleton mark))

/-- Whether a closing run fits an opener. Runs that can do both do not match when their lengths
add up to a multiple of three, unless each is one. Strikethrough needs equal lengths. -/
def Opener.fits (o : Opener d) (mark : Char) (runLength : Nat) (both : Bool) : Bool :=
  o.mark == mark &&
    (mark != '~' || runLength == o.runLength) &&
    ((!both && !o.both) || (runLength + o.runLength) % 3 != 0 || runLength % 3 == 0)

/-- Finds the innermost opener that fits among the allowed ones. The openers inside it turn to
text. -/
def findOpener (fits : Opener d → Bool) : Nat → List (Inline d) → List (Opener d) →
    Option (Opener d × List (Inline d) × List (Opener d))
  | 0, _, _ => none
  | _, _, [] => none
  | allowed + 1, inside, o :: below =>
    if fits o then some (o, inside ++ o.latest, below)
    else findOpener fits allowed (inside ++ o.latest ++ markText o.mark o.count) below

/-- Puts matched marks around inline text: pairs give strong text inside, a single mark gives
emphasis around it. -/
def wrap (mark : Char) : Nat → List (Inline d) → List (Inline d)
  | 0, children => children
  | 1, children =>
    if mark == '~' then
      if h : d.has .github = true then [.strikethrough children h] else children
    else [.emphasis children]
  | n + 2, children =>
    if mark == '~' then
      if h : d.has .github = true then wrap mark n [.strikethrough children h]
      else wrap mark n children
    else wrap mark n [.strong children]

/-- Siblings as they are matched: open runs, innermost first; what came before them, latest first;
and the openers, counted from the outermost, that a search for strikethrough no longer reaches
because it failed once. -/
structure Matching (d : Dialect) where
  openers : List (Opener d)
  latest : List (Inline d)
  barred : Nat

namespace Matching

def empty : Matching d := ⟨[], [], 0⟩

def add (m : Matching d) (new : List (Inline d)) : Matching d :=
  match m.openers with
  | o :: rest => { m with openers := { o with latest := new ++ o.latest } :: rest }
  | [] => { m with latest := new ++ m.latest }

/-- Matches the marks of a closing run with openers and gives the number of marks left. -/
def close (mark : Char) (runLength : Nat) (both : Bool) :
    Nat → Nat → Matching d → Nat × Matching d
  | 0, count, m => (count, m)
  | fuel + 1, count, m =>
    if count = 0 then (0, m)
    else
      let size := m.openers.length
      let allowed := if mark == '~' then size - m.barred else size
      match findOpener (fun o => o.fits mark runLength both) allowed [] m.openers with
      | none => (count, if mark == '~' then { m with barred := size } else m)
      | some (o, inside, below) =>
        let matched := min count o.count
        let m : Matching d := ⟨below, m.latest, min m.barred below.length⟩
        let wrapped := (wrap mark matched inside.reverse).reverse
        let m :=
          if matched < o.count then
            { m with openers := { o with count := o.count - matched, latest := wrapped } :: below }
          else m.add wrapped
        close mark runLength both fuel (count - matched) m

/-- A run of marks closes what it can, and what is left of it may open. -/
def run (mark : Char) (count : Nat) (opens closes : Bool) (m : Matching d) : Matching d :=
  let both := opens && closes
  let (left, m) := if closes then close mark count both (count + 1) count m else (count, m)
  if left = 0 then m
  else if opens then { m with openers := ⟨mark, left, count, both, []⟩ :: m.openers }
  else m.add (markText mark left)

/-- What is still open turns to text. -/
def finish (m : Matching d) : List (Inline d) :=
  (m.openers.foldr (fun o latest => o.latest ++ markText o.mark o.count ++ latest) m.latest).reverse

def read (m : Matching d) : List (Inline d) → Matching d
  | [] => m
  | .delimiter mark count opens closes :: rest =>
    (m.run mark count opens closes).read (rest.drop (count - 1))
  | i :: rest => (m.add [i]).read rest
termination_by is => is.length
decreasing_by all_goals (simp only [List.length_cons, List.length_drop]; omega)

end Matching

def isDelimiter : Inline d → Bool
  | .delimiter .. => true
  | _ => false

/-- A backslash at the end of a link's text breaks no line when delimiters came before it. -/
def settleBreak (is : List (Inline d)) : List (Inline d) :=
  match is.reverse with
  | .hardBreak true :: before =>
    if before.any isDelimiter then (.text "\\" :: before).reverse else is
  | _ => is

def matchSiblings (is : List (Inline d)) : List (Inline d) :=
  (Matching.empty.read (settleBreak is)).finish

mutual

/-- Resolves the emphasis in the text of links and images, each on its own. -/
def Inline.resolve : Inline d → Inline d
  | .link url title children => .link url title (matchSiblings (resolveInside children))
  | .image url title children => .image url title (matchSiblings (resolveInside children))
  | i => i

def resolveInside : List (Inline d) → List (Inline d)
  | [] => []
  | i :: rest => i.resolve :: resolveInside rest

end

mutual

def Inline.events : Inline d → List (Event d)
  | .text s => [.text s]
  | .code s => [.code s]
  | .html s => [.inlineHtml s]
  | .softBreak => [.softBreak]
  | .hardBreak _ => [.hardBreak]
  | .delimiter mark .. => [.text (String.singleton mark)]
  | .emphasis children => .start .emphasis :: (eventsOf children ++ [.stop])
  | .strong children => .start .strong :: (eventsOf children ++ [.stop])
  | .strikethrough children h => .start (.strikethrough h) :: (eventsOf children ++ [.stop])
  | .link url title children => .start (.link url title) :: (eventsOf children ++ [.stop])
  | .image url title children => .start (.image url title) :: (eventsOf children ++ [.stop])

def eventsOf : List (Inline d) → List (Event d)
  | [] => []
  | i :: rest => i.events ++ eventsOf rest

end

end DirectiveDocs.Markup
