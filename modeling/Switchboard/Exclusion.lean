import Switchboard.Text.Quoted

/-!
# Exclusions

The reasons for which a candidate method is left out of a catalog, one for each rule of the calling
convention. Every reason names the method; most also say what was found in place of what is needed.
-/

namespace Switchboard

/-- Why a candidate does not follow the calling convention. -/
inductive Exclusion where
  | notExported (method : String)
  | paramCount (method : String) (count : Nat)
  | contextType (method found : String)
  | clientType (method found : String)
  | argNotExported (method found : String)
  | replyNotPointer (method found : String)
  | replyNotExported (method found : String)
  | resultCount (method : String) (count : Nat)
  | resultType (method found : String)
  | notImplemented (method : String)
  deriving DecidableEq, Repr

namespace Exclusion

open Text (quote)

/-- The text of a reason. -/
def message : Exclusion → String
  | notExported m => "method " ++ quote m ++ " is not exported"
  | paramCount m n =>
    "method " ++ quote m ++ " has " ++ toString n ++ " input parameters; needs exactly five"
  | contextType m t =>
    "context type of method " ++ quote m ++ " is " ++ quote t ++ ", must be Context"
  | clientType m t =>
    "client type of method " ++ quote m ++ " is " ++ quote t ++ ", must be ClientConnector"
  | argNotExported m t => "argument type of method " ++ quote m ++ " is not exported: " ++ quote t
  | replyNotPointer m t => "reply type of method " ++ quote m ++ " is not a pointer: " ++ quote t
  | replyNotExported m t => "reply type of method " ++ quote m ++ " is not exported: " ++ quote t
  | resultCount m n =>
    "method " ++ quote m ++ " has " ++ toString n ++ " output parameters; needs exactly one"
  | resultType m t =>
    "return type of method " ++ quote m ++ " is " ++ quote t ++ ", must be MethodResult"
  | notImplemented m => "method " ++ quote m ++ " is declared without implementation"

/-- Methods that are not exported are left out without a diagnostic. -/
def isReported : Exclusion → Bool
  | notExported _ => false
  | _ => true

end Exclusion

end Switchboard
