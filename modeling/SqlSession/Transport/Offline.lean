import SqlSession.Transport
/-!
# The offline transport

A transport without a network: it never opens.  It keeps the connect timeout it was given.
-/

namespace SqlSession

/-- A transport that never opens. -/
structure OfflineTransport where
  connectTimeout : Option UInt64 := none
  deriving DecidableEq, Repr

instance : Transport OfflineTransport where
  connect t _ _ := (.error .connectionRefused, t)
  send t _ := (.error .notConnected, t)
  receive t _ := (.error .notConnected, t)
  close t := t
  isOpen _ := false
  setConnectTimeout t timeout := { t with connectTimeout := timeout }

end SqlSession
