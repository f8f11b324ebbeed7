import CodeComplexity.Address.Url
import CodeComplexity.Text.Base64

/-!
# Credentials in addresses

An address may tell who asks: a name and, behind a colon, a password.  Both go along with a request
in one text, in Base64.
-/

namespace CodeComplexity.Address

open Text

def utf8 (text : List Char) : List UInt8 :=
  text.flatMap String.utf8EncodeChar

/-- What goes along with a request to an address that tells who asks. -/
def Url.authorization? (url : Url) : Option String :=
  let (name, rest) := url.userInfo.span (· ≠ ':')
  let password := rest.drop 1
  if name.isEmpty && password.isEmpty then none
  else some ("Basic " ++
    String.ofList (base64 (utf8 (unescape name ++ [':'] ++ unescape password))))

end CodeComplexity.Address
