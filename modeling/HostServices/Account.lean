import HostServices.Failure

/-!
# Accounts of users
-/

namespace HostServices

structure Accounts where
  /-- The home directory of each login, as bytes of a path. -/
  homes : List (String × ByteArray)
  /-- The error of every look-up, if look-ups fail. -/
  refusal : Option Int

/-- The home directory of a user.  No login holds the character zero, so such a name is not even
looked up. -/
def Accounts.home (a : Accounts) (login : String) : Except Failure ByteArray :=
  let unknown := Failure.argument ("user " ++ login ++ " does not exist")
  if login.toList.any fun c => c.toNat == 0 then .error unknown
  else
    match a.refusal with
    | some number => .error (.ofErrno "getpwnam_r" (.ofNumber number))
    | none =>
      match a.homes.lookup login with
      | some path => .ok path
      | none => .error unknown

end HostServices
