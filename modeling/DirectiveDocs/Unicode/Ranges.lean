namespace DirectiveDocs.Unicode

/-- Code points given as closed ranges in increasing order. -/
abbrev Ranges := List (Nat × Nat)

def Ranges.has (rs : Ranges) (c : Char) : Bool :=
  rs.any (fun r => r.1 ≤ c.toNat && c.toNat ≤ r.2)

end DirectiveDocs.Unicode
