namespace DirectiveDocs

/-- String attributes in increasing order of their keys. -/
structure Attributes where
  entries : List (String × String)
  sorted : entries.Pairwise (fun a b => a.1 < b.1) := by exact .nil

namespace Attributes

def empty : Attributes where
  entries := []

instance : Inhabited Attributes := ⟨empty⟩

theorem ext {a b : Attributes} (h : a.entries = b.entries) : a = b := by
  cases a; cases b; cases h; rfl

instance : DecidableEq Attributes := fun a b =>
  if h : a.entries = b.entries then .isTrue (ext h) else .isFalse (fun e => h (e ▸ rfl))

def insertEntry (key value : String) : List (String × String) → List (String × String)
  | [] => [(key, value)]
  | (k, v) :: rest =>
    if key < k then (key, value) :: (k, v) :: rest
    else if key = k then (key, value) :: rest
    else (k, v) :: insertEntry key value rest

theorem mem_insertEntry {key value : String} {es : List (String × String)} {e : String × String}
    (h : e ∈ insertEntry key value es) : e = (key, value) ∨ e ∈ es := by
  induction es with
  | nil => simpa [insertEntry] using h
  | cons head rest ih =>
    simp only [insertEntry] at h
    split at h
    · simpa using h
    · split at h
      · exact (List.mem_cons.1 h).imp id (List.mem_cons_of_mem _)
      · rcases List.mem_cons.1 h with rfl | h
        · exact .inr List.mem_cons_self
        · exact (ih h).imp id (List.mem_cons_of_mem _)

/-- An insertion keeps the order of the keys. -/
theorem sorted_insertEntry {key value : String} {es : List (String × String)}
    (h : es.Pairwise (fun a b => a.1 < b.1)) :
    (insertEntry key value es).Pairwise (fun a b => a.1 < b.1) := by
  induction es with
  | nil => simp [insertEntry]
  | cons head rest ih =>
    obtain ⟨hhead, hrest⟩ := List.pairwise_cons.1 h
    simp only [insertEntry]
    split
    · rename_i hlt
      refine List.pairwise_cons.2 ⟨fun e he => ?_, h⟩
      rcases List.mem_cons.1 he with rfl | he
      · exact hlt
      · exact String.lt_trans hlt (hhead e he)
    · split
      · rename_i heq
        exact List.pairwise_cons.2 ⟨fun e he => heq ▸ hhead e he, hrest⟩
      · rename_i hlt hne
        refine List.pairwise_cons.2 ⟨fun e he => ?_, ih hrest⟩
        rcases mem_insertEntry he with rfl | he
        · have hle : head.1 ≤ key := String.not_lt.1 hlt
          exact Std.lt_of_le_of_ne hle (fun e => hne e.symm)
        · exact hhead e he

/-- Sets an attribute. A key that is there already gets the new value. -/
def insert (a : Attributes) (key value : String) : Attributes where
  entries := insertEntry key value a.entries
  sorted := sorted_insertEntry a.sorted

def get? (a : Attributes) (key : String) : Option String :=
  (a.entries.find? (fun e => e.1 == key)).map (·.2)

def isEmpty (a : Attributes) : Bool :=
  a.entries.isEmpty

def ofList (es : List (String × String)) : Attributes :=
  es.foldl (fun a e => a.insert e.1 e.2) empty

end Attributes
end DirectiveDocs
