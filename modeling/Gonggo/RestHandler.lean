import Gonggo.ClientReply

/-! # REST requests

resthandler.c: the checks of `rest_handler` up to its call of `proxy_channel_rest`, and the payload
that it builds for that call. A text is cut where the source writes a terminator over a character.
-/

namespace Gonggo

/-- The text before the first separator, and the text after it if there is a separator. -/
def strchrCut (separator : Char) (text : String) : String × Option String :=
  (String.ofList (text.toList.takeWhile (· != separator)),
    (text.toList.dropWhile (· != separator)).tail?.map String.ofList)

/-- What the web server knows of a request; the body comes in one piece for each call of `mg_read`. -/
structure RestRequest where
  localUri : String
  requestMethod : String
  httpHeaders : List (String × String)
  queryString : Option String
  bodyPieces : List String

/-- The path of a request: the root, the proxy and the endpoint. -/
structure RestPath where
  gonggo : String
  proxy : Option ProxyName
  endpoint : Option String

def restPath (url : String) : RestPath :=
  let root := strchrCut '/' (String.ofList (url.toList.drop 1))
  let proxy := root.2.map (strchrCut '/')
  ⟨root.1, proxy.map Prod.fst, proxy.bind Prod.snd⟩

inductive RestVerdict
  | error (code : Int) (message : String)
  | call (proxyName : ProxyName) (endpoint : String) (payload : Option CJson)

def RestVerdict.isError : RestVerdict → Bool
  | .error _ _ => true
  | .call _ _ _ => false

/-- Reading ends at the first empty piece. -/
def restBodyRead (payload : Option String) : List String → Option String
  | [] => payload
  | piece :: rest =>
      if piece = "" then payload else restBodyRead (some (payload.getD "" ++ piece)) rest

def restContentType (headers : List (String × String)) : Option String :=
  (headers.find? fun header => caseInsensitiveEq header.1 "Content-Type").map Prod.snd

def restParamParse (json : CJson) (piece : String) : CJson :=
  if piece = "" then json
  else
    let param := strchrCut '=' piece
    json.addItemToObject param.1 (.string (param.2.getD "true"))

/-- The object that the query string denotes. -/
def restQueryParse (query : String) : CJson :=
  ((query.toList.splitOn '&').map String.ofList).foldl restParamParse (.object [])

/-- The text of the payload, or the error that stands in its place. -/
def restPayload (print : Printer) (request : RestRequest) : Except (Int × String) (Option String) :=
  if request.requestMethod = "POST" ∨ request.requestMethod = "PUT" ∨ request.requestMethod = "PATCH" then
    match restBodyRead none request.bodyPieces with
    | none => .ok none
    | some payload =>
        match restContentType request.httpHeaders with
        | none => .error (400, "header does not contain Content-Type\n")
        | some contentType =>
            if "application/json".toList.isPrefixOf contentType.toList then .ok (some payload)
            else .error (400, "Content-Type " ++ contentType ++ " is not application/json\n")
  else if request.requestMethod = "GET" then
    .ok (request.queryString.map fun query => print (restQueryParse query))
  else .error (501, "method " ++ request.requestMethod ++ " is not supported\n")

/-- A payload that cannot be parsed counts as none. -/
def restHandlerVerdict (json : JsonLibrary) (gonggoName : String) (registered : ProxyName → Bool)
    (request : RestRequest) : RestVerdict :=
  let path := restPath request.localUri
  if path.gonggo ≠ gonggoName then
    .error 400 ("path " ++ request.localUri ++ " root is not " ++ gonggoName ++ "\n")
  else
    match path.proxy with
    | none => .error 400 ("path " ++ request.localUri ++ " does not contain proxy\n")
    | some proxyName =>
        match path.endpoint with
        | none => .error 400 ("path " ++ request.localUri ++ " does not contain endpoint\n")
        | some endpoint =>
            if registered proxyName then
              match restPayload json.print request with
              | .ok payload => .call proxyName endpoint (payload.bind json.parse)
              | .error (code, message) => .error code message
            else .error 503 ("proxy " ++ proxyName ++ " is not available\n")

/-- A request that reaches its proxy names it, registered, in its path, and the endpoint after it. -/
theorem restPath_of_call {json : JsonLibrary} {gonggoName : String} {registered : ProxyName → Bool}
    {request : RestRequest} {proxyName : ProxyName} {endpoint : String} {payload : Option CJson}
    (h : restHandlerVerdict json gonggoName registered request = .call proxyName endpoint payload) :
    restPath request.localUri = ⟨gonggoName, some proxyName, some endpoint⟩ ∧
      registered proxyName = true := by
  unfold restHandlerVerdict at h
  cases hPath : restPath request.localUri with
  | mk gonggo proxy endpoint' =>
    simp only [hPath] at h
    split at h
    · cases h
    · rename_i hGonggo
      cases proxy with
      | none => cases h
      | some proxyName' =>
        cases endpoint' with
        | none => cases h
        | some endpoint' =>
          cases hRegistered : registered proxyName' with
          | false => simp [hRegistered] at h
          | true =>
            simp only [hRegistered, if_true] at h
            cases hPayload : restPayload json.print request with
            | ok payload' =>
              simp only [hPayload, RestVerdict.call.injEq] at h
              obtain ⟨rfl, rfl, -⟩ := h
              exact ⟨by rw [not_not.mp hGonggo], hRegistered⟩
            | error verdict =>
              simp only [hPayload] at h
              cases h

end Gonggo
