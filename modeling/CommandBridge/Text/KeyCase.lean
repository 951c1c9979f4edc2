/-!
# Key cases

Clients write keys as `userId`, the transport as `user_id`. Both conversions look
at ASCII letters only and leave every other character as it is.
-/

set_option autoImplicit false

namespace CommandBridge.KeyCase

def transportChars : List Char → List Char
  | [] => []
  | c :: rest =>
    if c.isUpper then '_' :: c.toLower :: transportChars rest else c :: transportChars rest

def clientChars : List Char → List Char
  | [] => []
  | [c] => [c]
  | c :: d :: rest =>
    if c = '_' ∧ d.isLower then d.toUpper :: clientChars rest else c :: clientChars (d :: rest)

/-- Transport case of a client key: `userId` becomes `user_id`. -/
def toTransport (key : String) : String := String.ofList (transportChars key.toList)

/-- Client case of a transport key: `user_id` becomes `userId`. -/
def toClient (key : String) : String := String.ofList (clientChars key.toList)

def pascalChars : Bool → List Char → List Char
  | _, [] => []
  | start, c :: rest =>
    if c = '_' then pascalChars true rest
    else (if start then c.toUpper else c) :: pascalChars false rest

def toPascal (name : String) : String := String.ofList (pascalChars true name.toList)

end CommandBridge.KeyCase
