import CommandBridge.Descriptor.Basic
import CommandBridge.Handler.Action
import CommandBridge.Showcase.Counting

/-!
# A user directory

Users are found by number and never removed; a new one takes the number after the
largest in use.
-/

set_option autoImplicit false

namespace CommandBridge.Showcase

structure User where
  id : Int64
  name : String
  email : String
  active : Bool
deriving DecidableEq, Repr

namespace User

def type : Descriptor :=
  .record "User" (some "A registered user.")
    [.required "id" .integer, .required "name" .string, .required "email" .string,
      { FieldOf.required "active" .boolean with
        description := some "Inactive users cannot sign in" }]

def toJson (u : User) : Json :=
  .ofMembers [("id", .int u.id.toInt), ("name", .string u.name), ("email", .string u.email),
    ("active", .bool u.active)]

end User

abbrev Users := List User

namespace Users

def seeded : Users :=
  [⟨1, "Ada Lovelace", "ada@example.com", true⟩,
    ⟨2, "Charles Babbage", "charles@example.com", false⟩]

def get (users : Users) (id : Int64) : Outcome User :=
  match users.find? fun u => decide (u.id = id) with
  | some u => .done u
  | none => .failed ⟨some (.custom "NOT_FOUND"), "User " ++ toString id ++ " not found", none⟩

def list (users : Users) (limit : Nat) (activeOnly : Bool) : List User :=
  (users.filter fun u => !activeOnly || u.active).take limit

def lastId (users : Users) : Int64 :=
  match users.map User.id with
  | [] => 0
  | id :: rest => rest.foldl max id

def create (users : Users) (name email : String) : Users × Outcome User :=
  if email.toList.contains '@' then
    match nextInt64? users.lastId with
    | none => (users, .panicked overflow)
    | some id =>
      let u : User := ⟨id, name, email, true⟩
      (users ++ [u], .done u)
  else (users, .failed (.invalidArgument ("'" ++ email ++ "' is not an email address")))

end Users
end CommandBridge.Showcase
