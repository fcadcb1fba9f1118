/-
Writing values and names inside SQL text.

A value stands between single quotes, each of its own quotes doubled. Where it holds a backslash,
its backslashes are doubled too and an E before the first quote says so. A name stands for itself
when it is a lower-case word and no keyword that the server would read in another way; otherwise it
stands between double quotes, each of its own doubled.
-/

set_option autoImplicit false

namespace ClusterFixture.Sql

/-! ## Values -/

/-- Each occurrence of `mark` written twice. -/
def doubling (mark : Char) : List Char → List Char
  | [] => []
  | c :: rest => if c = mark then c :: c :: doubling mark rest else c :: doubling mark rest

/-- The characters of a value as a literal. -/
def literalChars (cs : List Char) : List Char :=
  if cs.contains '\\' then
    'E' :: '\'' :: doubling '\\' (doubling '\'' cs) ++ ['\'']
  else '\'' :: doubling '\'' cs ++ ['\'']

/-- A value as a literal. -/
def literal (s : String) : String := String.ofList (literalChars s.toList)

/-! ## Names -/

/-- The keywords that never name anything without quotes. -/
def reservedWords : List String := [
  "all", "analyse", "analyze", "and", "any", "array", "as", "asc", "asymmetric", "both", "case",
  "cast", "check", "collate", "column", "constraint", "create", "current_catalog", "current_date",
  "current_role", "current_time", "current_timestamp", "current_user", "default", "deferrable",
  "desc", "distinct", "do", "else", "end", "except", "false", "fetch", "for", "foreign", "from",
  "grant", "group", "having", "in", "initially", "intersect", "into", "lateral", "leading",
  "limit", "localtime", "localtimestamp", "not", "null", "offset", "on", "only", "or", "order",
  "placing", "primary", "references", "returning", "select", "session_user", "some", "symmetric",
  "system_user", "table", "then", "to", "trailing", "true", "union", "unique", "user", "using",
  "variadic", "when", "where", "window", "with"]

/-- The keywords that name only types and functions without quotes. -/
def functionWords : List String := [
  "authorization", "binary", "collation", "concurrently", "cross", "current_schema", "freeze",
  "full", "ilike", "inner", "is", "isnull", "join", "left", "like", "natural", "notnull", "outer",
  "overlaps", "right", "similar", "tablesample", "verbose"]

/-- The keywords that never name types and functions without quotes. -/
def columnWords : List String := [
  "between", "bigint", "bit", "boolean", "char", "character", "coalesce", "dec", "decimal",
  "exists", "extract", "float", "greatest", "grouping", "inout", "int", "integer", "interval",
  "json", "json_array", "json_arrayagg", "json_exists", "json_object", "json_objectagg",
  "json_query", "json_scalar", "json_serialize", "json_table", "json_value", "least",
  "merge_action", "national", "nchar", "none", "normalize", "nullif", "numeric", "out", "overlay",
  "position", "precision", "real", "row", "setof", "smallint", "substring", "time", "timestamp",
  "treat", "trim", "values", "varchar", "xmlattributes", "xmlconcat", "xmlelement", "xmlexists",
  "xmlforest", "xmlnamespaces", "xmlparse", "xmlpi", "xmlroot", "xmlserialize", "xmltable"]

/-- Whether a text is a keyword that cannot name a table without quotes. -/
def isKeyword (s : String) : Bool :=
  reservedWords.contains s || functionWords.contains s || columnWords.contains s

/-- Whether a character can start a name without quotes. -/
def startsName (c : Char) : Bool := c.isLower || c = '_'

/-- Whether a character can go on in a name without quotes. -/
def continuesName (c : Char) : Bool := startsName c || c.isDigit

/-- Whether the characters are a lower-case word; no character at all counts as one. -/
def isPlainWord : List Char → Bool
  | [] => true
  | c :: rest => startsName c && rest.all continuesName

/-- A name, between double quotes where it needs them. -/
def identifier (s : String) : String :=
  if isPlainWord s.toList && !isKeyword s then s
  else String.ofList ('"' :: doubling '"' s.toList ++ ['"'])

/-! ## Statements with values in them -/

/-- A part of a statement. -/
inductive Piece where
  /-- Text of the statement itself. -/
  | text (s : String)
  /-- A value as a literal. -/
  | value (s : String)
  /-- A number. -/
  | number (n : Nat)
  deriving DecidableEq, Repr

/-- The text of a part. -/
def Piece.render : Piece → String
  | .text s => s
  | .value s => literal s
  | .number n => n.repr

/-- The text of a statement. -/
def render (pieces : List Piece) : String := pieces.foldr (fun p rest => p.render ++ rest) ""

end ClusterFixture.Sql
