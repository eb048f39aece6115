import DirectiveDocs.Decimal.Reading
import DirectiveDocs.Text.Quoted
import DirectiveDocs.Yaml.Tree

namespace DirectiveDocs.Yaml

inductive Value where
  | null
  | bool (value : Bool)
  | number (value : Decimal)
  | text (value : String)
  deriving DecidableEq, Repr

namespace Value

def isNull (s : String) : Bool :=
  s == "null" || s == "Null" || s == "NULL" || s == "~"

def bool? (s : String) : Option Bool :=
  if s = "true" ∨ s = "True" ∨ s = "TRUE" then some true
  else if s = "false" ∨ s = "False" ∨ s = "FALSE" then some false
  else none

def isPadded (cs : List Char) : Bool :=
  match (Decimal.splitSign cs).2 with
  | '0' :: c :: rest => (c :: rest).all (Decimal.isDigit 10)
  | _ => false

/-- Digits of a base with the mark of the base before them, or decimal digits. -/
def magnitude? : List Char → Option Nat
  | '0' :: 'x' :: ds => Decimal.natural? 16 ds
  | '0' :: 'o' :: ds => Decimal.natural? 8 ds
  | '0' :: 'b' :: ds => Decimal.natural? 2 ds
  | ds => Decimal.natural? 10 ds

def integer? (s : String) : Option Int :=
  let cs := s.toList
  if isPadded cs then none
  else
    let (negative, ds) := Decimal.splitSign cs
    ((magnitude? ds).map (fun n => if negative then -(n : Int) else n)).filter
      (fun n => (Decimal.integer n).inRange)

def real? (s : String) : Option Decimal :=
  if s = ".inf" ∨ s = ".Inf" ∨ s = ".INF" ∨ s = "+.inf" ∨ s = "+.Inf" ∨ s = "+.INF" then
    some (.infinity false)
  else if s = "-.inf" ∨ s = "-.Inf" ∨ s = "-.INF" then some (.infinity true)
  else if s = ".nan" ∨ s = ".NaN" ∨ s = ".NAN" then some .nan
  else (Decimal.real? s.toList).filter Decimal.inRange

/-- What a plain scalar without a tag stands for. -/
def ofPlain (s : String) : Value :=
  if s.isEmpty || isNull s then null
  else
    match bool? s, integer? s with
    | some b, _ => bool b
    | none, some n => number (.integer n)
    | none, none =>
      if isPadded s.toList then text s
      else
        match real? s with
        | some d => number d
        | none => text s

def describeInteger (n : Int) : String :=
  (Decimal.integer n).describe ++
    (if Decimal.fitsWord n then "" else if n < 0 then " as i128" else " as u128")

def describe : Value → String
  | null => "unit value"
  | bool b => "boolean `" ++ (if b then "true" else "false") ++ "`"
  | number (.integer n) => describeInteger n
  | number d => d.describe
  | text s => "string " ++ Text.quoted s

end Value

inductive Mismatch where
  | wrongType (found expected : String)
  | wrongValue (text expected : String)
  | missingField (name : String)
  | duplicateField (name : String)
  deriving DecidableEq, Repr

def Mismatch.message : Mismatch → String
  | wrongType found expected => "invalid type: " ++ found ++ ", expected " ++ expected
  | wrongValue text expected =>
    "invalid value: string " ++ Text.quoted text ++ ", expected " ++ expected
  | missingField name => "missing field `" ++ name ++ "`"
  | duplicateField name => "duplicate field `" ++ name ++ "`"

namespace Tag

def bool : String := "tag:yaml.org,2002:bool"
def integer : String := "tag:yaml.org,2002:int"
def real : String := "tag:yaml.org,2002:float"
def null : String := "tag:yaml.org,2002:null"

def isLocal (tag : String) : Bool :=
  tag.toList.head? == some '!'

end Tag

/-- What a scalar with a tag stands for, or what its tag asks of its text. A local tag changes
nothing. -/
def taggedValue (tag : String) (style : Style) (s : String) : Except String Value :=
  if tag = Tag.bool then ((Value.bool? s).map .bool).elim (.error "a boolean") .ok
  else if tag = Tag.integer then
    ((Value.integer? s).map (fun n => .number (.integer n))).elim (.error "an integer") .ok
  else if tag = Tag.real then ((Value.real? s).map .number).elim (.error "a float") .ok
  else if tag = Tag.null then if Value.isNull s then .ok .null else .error "null"
  else if Tag.isLocal tag && style == .plain then .ok (Value.ofPlain s)
  else .ok (.text s)

def scalarValue (tag : Option String) (style : Style) (s : String) : Except String Value :=
  match tag with
  | some t => taggedValue t style s
  | none => .ok (if style = .plain then Value.ofPlain s else .text s)

def Node.mismatch (expected : String) : Node → Mismatch
  | .scalar _ _ tag style s =>
    match scalarValue tag style s with
    | .ok v => .wrongType v.describe expected
    | .error asked => .wrongValue s asked
  | .sequence .. => .wrongType "sequence" expected
  | .mapping .. | .reference .. => .wrongType "map" expected

end DirectiveDocs.Yaml
