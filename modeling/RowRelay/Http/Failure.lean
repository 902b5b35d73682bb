/-!
# Requests that fail on the way

Why a request brought no usable answer.
-/

set_option autoImplicit false

namespace RowRelay.Http

inductive Failure where
  /-- The address or a header cannot be put into a request. -/
  | unbuildable
  /-- The address is none for the web. -/
  | unsupported (url : String)
  /-- The request could not be delivered, or nothing came back. -/
  | undelivered (url : String)
  /-- The body of the answer is cut short or not of the form expected. -/
  | undecodable
  deriving DecidableEq, Repr

def Failure.message : Failure → String
  | .unbuildable => "builder error"
  | .unsupported url => s!"builder error for url ({url})"
  | .undelivered url => s!"error sending request for url ({url})"
  | .undecodable => "error decoding response body"

end RowRelay.Http
