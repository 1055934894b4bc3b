import ApiContract.Dict
import ApiContract.Text.Percent

/-! # Cookies

A cookie header holds `name=value` pieces separated by semicolons.  Quotes around a value are
dropped, and escapes in it are decoded if they decode to a text. -/

namespace ApiContract.Cookie

/-- The value as it is meant. -/
def value (raw : List Char) : String :=
  let bare := Text.trimBy (· = '"') (Text.trim raw)
  String.ofList ((Percent.decode? bare).getD bare)

/-- The cookie of one piece; none without a name. -/
def read? (piece : List Char) : Option (String × String) :=
  let piece := Text.trim piece
  let (name, raw) := (Text.cutAt? (· = '=') piece).getD (piece, [])
  let name := Text.trim name
  if name.isEmpty then none else some (String.ofList name, value raw)

/-- The cookies of a header, in order. -/
def pairs (header : String) : List (String × String) :=
  (Text.splitBy (· = ';') header.toList).filterMap read?

/-- The cookies of a header, by name; of a repeated one the last counts. -/
def readAll (header : String) : Dict String := Dict.ofList (pairs header)

end ApiContract.Cookie
