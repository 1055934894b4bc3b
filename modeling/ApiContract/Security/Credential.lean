import ApiContract.Text.Base64
import ApiContract.Text.Blank
import ApiContract.Text.Utf8

/-! # Credentials of the authorization header

An authorization header holds the token of a scheme, blanks and a credential.  The credential of the
basic scheme is the Base64 encoding of a user name, a colon and a password. -/

namespace ApiContract.Credential

/-- The credential in an authorization header of the given scheme; case does not count in the
scheme's token. -/
def ofAuthorization? (scheme authorization : String) : Option String := do
  let (token, rest) ← Text.cutAt? Text.isBlank (Text.trim authorization.toList)
  let credential := Text.trim rest
  if Text.sameAscii (String.ofList token) scheme && !credential.isEmpty then
    return String.ofList credential
  else none

/-- The user name and the password of a basic credential. -/
def basic? (credential : String) : Option (String × String) := do
  let bytes ← Base64.decode? (Text.trim credential.toList)
  let text ← Utf8.decode? bytes
  let (user, password) ← Text.cutAt? (· = ':') text
  return (String.ofList user, String.ofList password)

end ApiContract.Credential
