/-!
# Wire errors

What can be wrong with bytes read from a backend, or with a message or version handed in.
-/

namespace SqlSession

/-- Why a message or a version cannot be read or written. -/
inductive WireError where
  /-- A frame header holds a negative length. -/
  | negativeLength (length : Int32)
  /-- A payload is longer than a frame can hold. -/
  | frameTooLarge (size max : Nat)
  /-- A field needs more bytes than are left. -/
  | truncated (needed available : Nat)
  /-- A request starts with an unknown type. -/
  | unexpectedRequestType (tag : Int8)
  /-- A request comes from an unknown kind of client. -/
  | unexpectedClientType (tag : Int8)
  /-- A text field has an unknown type tag. -/
  | invalidStringTag (tag : Int8)
  /-- A text field has a negative length. -/
  | invalidStringLength (length : Int32)
  /-- The bytes of a text field are not UTF-8. -/
  | invalidUtf8
  /-- A version text is not three numbers. -/
  | invalidVersion (text : String)
  deriving DecidableEq, Repr

/-- The text shown for a wire error. -/
def WireError.message : WireError → String
  | .negativeLength length => "message length is negative: " ++ toString length.toInt
  | .frameTooLarge size max =>
    "frame too large: " ++ toString size ++ " bytes (max " ++ toString max ++ ")"
  | .truncated needed available =>
    "truncated message: need " ++ toString needed ++ " bytes, " ++ toString available ++
      " available"
  | .unexpectedRequestType tag => "unexpected request type: " ++ toString tag.toInt
  | .unexpectedClientType tag => "unexpected client type: " ++ toString tag.toInt
  | .invalidStringTag tag => "invalid string type tag: " ++ toString tag.toInt
  | .invalidStringLength length => "invalid string length: " ++ toString length.toInt
  | .invalidUtf8 => "invalid UTF-8 in payload"
  | .invalidVersion text => "invalid protocol version: '" ++ text ++ "'"

end SqlSession
