namespace DirectiveDocs

inductive ValueType where
  | string | number | boolean | parsed | unrecognized
  deriving DecidableEq, Repr

/-- Both spellings of a tag give one type; any other tag is unrecognized. -/
def ValueType.ofTag (tag : String) : ValueType :=
  if tag = "string" ∨ tag = "String" then .string
  else if tag = "number" ∨ tag = "Number" then .number
  else if tag = "boolean" ∨ tag = "Boolean" then .boolean
  else if tag = "parsed" ∨ tag = "myst" then .parsed
  else .unrecognized

/-- The type's name in documentation, empty for an unrecognized type. -/
def ValueType.label : ValueType → String
  | string => "string"
  | number => "number"
  | boolean => "boolean"
  | parsed => "parsed"
  | unrecognized => ""

/-- The shape of an option, an argument or a body. -/
structure OptionSpec where
  valueType : ValueType := .unrecognized
  required : Bool := false
  doc : Option String := none
  aliases : List String := []
  deriving DecidableEq, Repr

instance : Inhabited OptionSpec := ⟨⟨.unrecognized, false, none, []⟩⟩

/-- Named options, no name twice, in declaration order. -/
structure OptionMap where
  entries : List (String × OptionSpec)
  distinct : (entries.map (·.1)).Nodup := by exact .nil
  deriving DecidableEq

namespace OptionMap

def empty : OptionMap where
  entries := []

instance : Inhabited OptionMap := ⟨empty⟩

/-- Replaces the option of that name in place, or adds the pair at the end. -/
def insertEntry (name : String) (option : OptionSpec) :
    List (String × OptionSpec) → List (String × OptionSpec)
  | [] => [(name, option)]
  | (n, o) :: rest =>
    if n = name then (name, option) :: rest else (n, o) :: insertEntry name option rest

theorem names_insertEntry (name : String) (option : OptionSpec)
    (es : List (String × OptionSpec)) :
    (insertEntry name option es).map (·.1) =
      if name ∈ es.map (·.1) then es.map (·.1) else es.map (·.1) ++ [name] := by
  induction es with
  | nil => simp [insertEntry]
  | cons e rest ih =>
    obtain ⟨n, o⟩ := e
    by_cases h : n = name
    · simp [insertEntry, h]
    · have h' : ¬ name = n := fun e => h e.symm
      simp only [insertEntry, if_neg h, List.map_cons, ih, List.mem_cons, h', false_or]
      split <;> simp

theorem nodup_insertEntry {name : String} {option : OptionSpec}
    {es : List (String × OptionSpec)} (h : (es.map (·.1)).Nodup) :
    ((insertEntry name option es).map (·.1)).Nodup := by
  rw [names_insertEntry]
  split
  · exact h
  · rename_i hn
    exact List.nodup_append.2 ⟨h, by simp, by
      intro a ha b hb
      simp only [List.mem_singleton] at hb
      exact fun e => hn (hb ▸ e ▸ ha)⟩

def insert (m : OptionMap) (name : String) (option : OptionSpec) : OptionMap where
  entries := insertEntry name option m.entries
  distinct := nodup_insertEntry m.distinct

def get? (m : OptionMap) (name : String) : Option OptionSpec :=
  (m.entries.find? (fun e => e.1 == name)).map (·.2)

def size (m : OptionMap) : Nat :=
  m.entries.length

def isEmpty (m : OptionMap) : Bool :=
  m.entries.isEmpty

def ofList (pairs : List (String × OptionSpec)) : OptionMap :=
  pairs.foldl (fun m p => m.insert p.1 p.2) empty

end OptionMap
end DirectiveDocs
