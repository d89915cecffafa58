import ChatConsole.Channel

/-! # Open requests

A channel is opened at a URL that carries the role in its query. Building the request keeps
everything else of the endpoint: only pairs named `role` make way for the one that is added at the
end.
-/

namespace ChatConsole

/-- The name of the query pair that carries the role. -/
def roleParameter : String := "role"

structure OpenRequest where
  channel : ChannelId
  role : Role
  url : Url
  deriving DecidableEq, Repr

namespace OpenRequest

/-- The URL of an endpoint, which has to be one of a web socket. -/
def readEndpoint (endpoint : String) : Except ChannelError Url :=
  match Url.parse endpoint with
  | .ok (.inl url) => .ok url
  | .ok (.inr scheme) => .error (.unsupportedScheme scheme)
  | .error fault => .error (.invalidEndpoint endpoint fault)

/-- The URL with the role as its only pair of that name. -/
def withRole (url : Url) (role : Role) : Url :=
  let kept := url.pairs.filter fun (name, _) => name != roleParameter
  { url with query := some (Url.Form.encode (kept ++ [(roleParameter, role.tag)])) }

def make (channel : ChannelId) (endpoint : String) (role : Role) :
    Except ChannelError OpenRequest :=
  (readEndpoint endpoint).map fun url => ⟨channel, role, withRole url role⟩

/-- The role the other side finds in the URL. -/
def observedRole (request : OpenRequest) : Option String := request.url.pairs.lookup roleParameter

end OpenRequest

end ChatConsole
