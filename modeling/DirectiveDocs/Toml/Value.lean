import DirectiveDocs.Decimal.Basic
import DirectiveDocs.Text.Quoted

namespace DirectiveDocs.Toml

/-- How a table is written: on the way of a longer header, on the way of a dotted key, under a
header of its own, or in braces. -/
inductive Origin where
  | onTheWay | dotted | header | inline
  deriving DecidableEq, Repr

inductive Value where
  | string (text : String)
  | number (value : Decimal)
  | bool (value : Bool)
  | moment
  | array (items : List Value)
  | table (origin : Origin) (entries : List (String × Value))
  | tables (elements : List (List (String × Value)))

abbrev Entries := List (String × Value)

namespace Value

/-- How an unexpected value is named; an integer of more than 64 bits with its width. A date or
time is a map as well. -/
def describe : Value → String
  | string s => "string " ++ Text.quoted s
  | number (.integer n) =>
    (Decimal.integer n).describe ++
      (if Decimal.fitsWord n then ""
        else if n < (Nat.pow 2 127 : Nat) then " as i128" else " as u128")
  | number d => d.describe
  | bool b => "boolean `" ++ (if b then "true" else "false") ++ "`"
  | moment | table .. => "map"
  | array _ | tables _ => "sequence"

end Value

namespace Entries

def get? (es : Entries) (key : String) : Option Value :=
  (es.find? (fun e => e.1 == key)).map (·.2)

def replace (key : String) (v : Value) : Entries → Entries
  | [] => []
  | (k, w) :: es => if k = key then (k, v) :: es else (k, w) :: replace key v es

/-- Adds an entry whose key must be new. -/
def add (key : String) (v : Value) (es : Entries) : Option Entries :=
  match es.get? key with
  | some _ => none
  | none => some (es ++ [(key, v)])

/-- Changes the entries of the table that keys lead to; tables that are missing are made. A
table in braces cannot be extended, and dotted keys extend no table that has a header. -/
def within (dotted : Bool) (change : Entries → Option Entries) :
    List String → Entries → Option Entries
  | [], es => change es
  | key :: keys, es =>
    match es.get? key with
    | none => do
      let inner ← within dotted change keys []
      some (es ++ [(key, .table (if dotted then .dotted else .onTheWay) inner)])
    | some (.table origin inner) =>
      if origin = .inline ∨ (dotted ∧ origin = .header) then none
      else do
        let inner ← within dotted change keys inner
        some (es.replace key (.table origin inner))
    | some (.tables elements) =>
      match elements.getLast? with
      | some last =>
        if dotted then none
        else do
          let inner ← within dotted change keys last
          some (es.replace key (.tables (elements.dropLast ++ [inner])))
      | none => none
    | some _ => none

def set (keys : List String) (v : Value) (es : Entries) : Option Entries :=
  match keys.getLast? with
  | some key => within true (add key v) keys.dropLast es
  | none => none

/-- Starts the table of a header, which may be on the way of another header but not defined
yet. -/
def define (key : String) (es : Entries) : Option Entries :=
  match es.get? key with
  | none => some (es ++ [(key, .table .header [])])
  | some (.table .onTheWay inner) => some (es.replace key (.table .header inner))
  | some _ => none

def append (key : String) (es : Entries) : Option Entries :=
  match es.get? key with
  | none => some (es ++ [(key, .tables [[]])])
  | some (.tables elements) => some (es.replace key (.tables (elements ++ [[]])))
  | some _ => none

end Entries
end DirectiveDocs.Toml
