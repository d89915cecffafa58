import ChatConsole.OpenRequest
import ChatConsole.Proofs.Url.Form

/-! # What an open request asks for

Whether a request can be made depends on the endpoint alone. Its URL is the endpoint's but for the
query, and reading that query gives the pairs of the endpoint that are not named `role`, then one
that is. The role may hold any text: as a written query lists its pairs, no part of a role is taken
for a pair of its own, and none hides another pair.
-/

namespace ChatConsole

theorem exists_ok_of_bind {ε α β : Type} {x : Except ε α} {f : α → Except ε β} {b : β}
    (h : x >>= f = .ok b) : ∃ a, x = .ok a ∧ f a = .ok b := by
  cases x with
  | error e => cases h
  | ok a => exact ⟨a, rfl, h⟩

theorem exists_ok_of_map {ε α β : Type} {x : Except ε α} {f : α → β} {b : β}
    (h : x.map f = .ok b) : ∃ a, x = .ok a ∧ f a = b := by
  cases x with
  | error e => cases h
  | ok a => exact ⟨a, rfl, Except.ok.inj h⟩

namespace Url

/-! ## Endpoints -/

theorem secure_of_readSocket {secure : Bool} {cs : List Char} {url : Url}
    (h : readSocket secure cs = .ok url) : url.secure = secure := by
  simp only [readSocket] at h
  split at h
  · cases h
  · obtain ⟨host, -, h⟩ := exists_ok_of_bind h
    obtain ⟨port, -, h⟩ := exists_ok_of_bind h
    rw [← Except.ok.inj h]

/-- The scheme that a text begins with. -/
def schemeOf? (s : String) : Option String := (splitScheme? (clean s.toList)).map (·.1)

/-- A text is read with all its parts exactly if its scheme is `ws` or `wss`. -/
theorem schemeOf_of_parse {s : String} {found : Url ⊕ String} (h : parse s = .ok found) :
    match found with
    | .inl url => schemeOf? s = some url.scheme
    | .inr other => schemeOf? s = some other ∧ other ≠ "ws" ∧ other ≠ "wss" := by
  rw [parse] at h
  split at h
  · cases h
  · next name rest hSplit =>
    have hName : schemeOf? s = some name := by rw [schemeOf?, hSplit, Option.map_some]
    split at h
    · next hPlain =>
      obtain ⟨url, hRead, rfl⟩ := exists_ok_of_map h
      simp only [hName, hPlain, scheme, secure_of_readSocket hRead, if_neg Bool.false_ne_true]
    · split at h
      · next hPlain hSecure =>
        obtain ⟨url, hRead, rfl⟩ := exists_ok_of_map h
        simp only [hName, hSecure, scheme, secure_of_readSocket hRead, if_true]
      · next hPlain hSecure =>
        -- whatever is checked of another scheme, only its name is found
        have hOther : found = .inr name := by
          split at h
          · obtain ⟨_, _, hFound⟩ := exists_ok_of_map h
            exact hFound.symm
          · split at h
            · obtain ⟨_, _, hFound⟩ := exists_ok_of_map h
              exact hFound.symm
            · obtain ⟨_, _, hFound⟩ := exists_ok_of_map h
              exact hFound.symm
        subst hOther
        exact ⟨hName, hPlain, hSecure⟩

end Url

namespace OpenRequest

/-! ## The role in the query -/

variable (url : Url) (role : Role)

theorem pairs_withRole :
    (withRole url role).pairs =
      url.pairs.filter (·.1 != roleParameter) ++ [(roleParameter, role.tag)] := by
  rw [Url.pairs, withRole, Option.getD_some, Url.Form.decode_encode]

theorem lookup_role_withRole : (withRole url role).pairs.lookup roleParameter = some role.tag := by
  have hKept : (url.pairs.filter (·.1 != roleParameter)).lookup roleParameter = none := by
    refine List.lookup_eq_none_iff.mpr fun pair hMem => ?_
    rw [bne_comm]
    exact (List.mem_filter.mp hMem).2
  rw [pairs_withRole, List.lookup_append, hKept, List.lookup_cons_self]
  rfl

/-! ## Requests -/

/-- The request asks for the role on the channel, and for the rest of what the endpoint says. -/
structure AsksFor (request : OpenRequest) (channel : ChannelId) (endpoint : Url) (role : Role) :
    Prop where
  channel_eq : request.channel = channel
  role_eq : request.role = role
  /-- The pairs of other names stay in their order, and the role comes after them. -/
  pairs_eq : request.url.pairs =
    endpoint.pairs.filter (·.1 != roleParameter) ++ [(roleParameter, role.tag)]
  observedRole_eq : request.observedRole = some role.tag
  scheme_eq : request.url.scheme = endpoint.scheme
  userInfo_eq : request.url.userInfo = endpoint.userInfo
  username_eq : request.url.username = endpoint.username
  password_eq : request.url.password = endpoint.password
  host_eq : request.url.host = endpoint.host
  port_eq : request.url.port = endpoint.port
  path_eq : request.url.path = endpoint.path
  fragment_eq : request.url.fragment = endpoint.fragment

theorem asksFor_withRole (channel : ChannelId) :
    AsksFor ⟨channel, role, withRole url role⟩ channel url role where
  channel_eq := rfl
  role_eq := rfl
  pairs_eq := pairs_withRole url role
  observedRole_eq := lookup_role_withRole url role
  scheme_eq := rfl
  userInfo_eq := rfl
  username_eq := rfl
  password_eq := rfl
  host_eq := rfl
  port_eq := rfl
  path_eq := rfl
  fragment_eq := rfl

theorem observedRole_of_make {channel : ChannelId} {endpoint : String} {role : Role}
    {request : OpenRequest} (h : make channel endpoint role = .ok request) :
    request.observedRole = some role.tag := by
  obtain ⟨url, -, rfl⟩ := exists_ok_of_map h
  exact lookup_role_withRole url role

/-- **What a request asks for.** At every endpoint of scheme `ws` or `wss`, a request can be made on
any channel and for any role; it asks for that role once and keeps the rest. At any other endpoint
none can be made, and the fault tells why. -/
theorem request_of_endpoint (channel : ChannelId) (endpoint : String) (role : Role) :
    match Url.parse endpoint with
    | .ok (.inl url) => Url.schemeOf? endpoint = some url.scheme ∧
        ∃ request, make channel endpoint role = .ok request ∧ request.AsksFor channel url role
    | .ok (.inr scheme) => (Url.schemeOf? endpoint = some scheme ∧ scheme ≠ "ws" ∧ scheme ≠ "wss") ∧
        make channel endpoint role = .error (.unsupportedScheme scheme)
    | .error fault => make channel endpoint role = .error (.invalidEndpoint endpoint fault) := by
  split
  · next url hParse =>
    refine ⟨Url.schemeOf_of_parse hParse, _, ?_, asksFor_withRole url role channel⟩
    rw [make, readEndpoint, hParse, Except.map]
  · next scheme hParse =>
    refine ⟨Url.schemeOf_of_parse hParse, ?_⟩
    rw [make, readEndpoint, hParse, Except.map]
  · next fault hParse =>
    rw [make, readEndpoint, hParse, Except.map]

/-- A role that looks like a query of its own stays one value. -/
example :
    ((make ⟨7⟩ "ws://[::1]/gate?role=a&x=1&%72ole=b&x=+2#end" (.other "c&role=d#%20+")).map
        (fun request => (request.url.pairs, request.observedRole))).toOption =
      some ([("x", "1"), ("x", " 2"), ("role", "c&role=d#%20+")], some "c&role=d#%20+") := by
  decide +kernel

end OpenRequest

end ChatConsole
