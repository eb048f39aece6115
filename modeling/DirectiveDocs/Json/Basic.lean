import DirectiveDocs.Decimal.Basic
import DirectiveDocs.Text.Quoted

namespace DirectiveDocs

/-- A JSON value. The members of an object are kept in the order of their keys. -/
inductive Json where
  | null
  | bool (value : Bool)
  | number (value : Decimal)
  | string (value : String)
  | array (items : List Json)
  | object (members : List (String × Json))

namespace Json

instance : Inhabited Json := ⟨null⟩

/-- How an unexpected value is named in a message. -/
def describe : Json → String
  | null => "null"
  | bool b => "boolean `" ++ (if b then "true" else "false") ++ "`"
  | number d => d.describe
  | string s => "string " ++ Text.quoted s
  | array _ => "sequence"
  | object _ => "map"

end Json
end DirectiveDocs
