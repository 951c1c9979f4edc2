import CommandBridge.Json.Basic
import CommandBridge.Text.KeyCase

/-!
# Key case of whole values

Every object key at every depth is converted, string values never. Members are
taken in key order, so of two keys that convert to one the later member stays.
-/

set_option autoImplicit false

namespace CommandBridge.Json

mutual
def mapKeys (convert : String → String) : Json → Json
  | array items => array (mapKeysItems convert items)
  | object members => object (Keyed.sort (mapKeysMembers convert members))
  | v => v

def mapKeysItems (convert : String → String) : List Json → List Json
  | [] => []
  | v :: rest => mapKeys convert v :: mapKeysItems convert rest

def mapKeysMembers (convert : String → String) : List (String × Json) → List (String × Json)
  | [] => []
  | (k, v) :: rest => (convert k, mapKeys convert v) :: mapKeysMembers convert rest
end

def toTransportCase : Json → Json := mapKeys KeyCase.toTransport

def toClientCase : Json → Json := mapKeys KeyCase.toClient

end CommandBridge.Json
