import SizeHeader.Message.Catalog

/-!
Internal errors: faults of the program itself, told by a message of the catalog. Where that message
cannot be had, the fault in it is told instead.
-/

namespace SizeHeader

inductive InternalError where
  | told (code text : String)
  | untold (fault : MessageFault)
deriving DecidableEq, Repr

def InternalError.message : InternalError → String
  | told code text => code ++ ": " ++ text
  | untold fault => fault.message

def Catalog.internalError (c : Catalog) (code : String) (args : Arguments) : InternalError :=
  match Operation.internal.check args *> c.format code args with
  | .ok text => .told code text
  | .error fault => .untold fault

end SizeHeader
