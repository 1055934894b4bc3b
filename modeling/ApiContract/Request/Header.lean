import ApiContract.Text.Blank

/-! # Headers and cookies

Headers are stored by transport key: the name in upper case with `_` for `-`, after `HTTP_` save for
the two headers that describe the body.  A cookie header lists cookies separated by semicolons. -/

namespace ApiContract

namespace Header

/-- The name in upper case, with underscores for hyphens. -/
def normalized (name : String) : String :=
  String.ofList ((Text.trim name.toList).map fun c => if c = '-' then '_' else c.toUpper)

/-- The key that a header is stored under. -/
def transportKey (name : String) : String :=
  let key := normalized name
  if key = "CONTENT_TYPE" ∨ key = "CONTENT_LENGTH" then key else "HTTP_" ++ key

/-- The key of the header that carries credentials. -/
def authorizationKey : String := "HTTP_AUTHORIZATION"

/-- Whether this is the name of the cookie header. -/
def isCookie (name : String) : Bool := Text.sameAscii name "cookie"

/-- What separates the values of a header that is repeated. -/
def separator (name : String) : String := if isCookie name then "; " else ", "

/-- The characters of a header name as it is sent. -/
def isNameChar (c : Char) : Bool := c.isAlphanum || c ∈ "!#$%&'*+-.^_|~".toList || c.toNat == 0x60

/-- A header name as it is sent: not empty, and no longer than 65535 characters. -/
def isName (name : String) : Bool :=
  !name.isEmpty && name.length ≤ 65535 && name.toList.all isNameChar

/-- The bytes of a header value as it is sent: no control but the tab. -/
def isValue (bytes : List UInt8) : Bool := bytes.all fun b => (32 ≤ b && b != 127) || b == 9

end Header
end ApiContract
