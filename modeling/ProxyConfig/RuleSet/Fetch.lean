import ProxyConfig.Network
import ProxyConfig.RuleSet.Download

/-!
# Fetching rule-sets over a network

A session is made from the parameters of a download, which must be usable.  It fetches a rule-set
with one request, and it accepts an answer only if that is a success, complete, not too large and
not empty.
-/

namespace ProxyConfig

open Files

/-- A client whose parameters have been found usable. -/
structure Session where
  agent : Option String
  proxy : Option String
  retry : Option Retry
  /-- The largest accepted content, in bytes. -/
  maxSize : Nat
deriving Repr, DecidableEq, Inhabited

namespace Session

/-- The text is an address with a host. -/
def hasHost (text : String) : Bool :=
  match Url.parse text with
  | .ok url => url.host.isSome
  | .error _ => false

/-- The text denotes a proxy.  Without a scheme or a host it is completed to an address. -/
def isProxy (text : String) : Bool :=
  match Url.parse text with
  | .ok url => url.host.isSome || hasHost ("http://" ++ text)
  | .error .relative => hasHost ("http://" ++ text)
  | .error _ => false

/-- The character may stand in the head of a request. -/
def isHeadChar (c : Char) : Bool :=
  (32 ≤ c.toNat && c.toNat ≠ 127) || c = '\t'

/-- Make a session.  An empty proxy is none, and an unusable proxy counts before an unusable
agent. -/
def start (client : HttpClient) (proxy : Option String) (retry : Option Retry) (maxSize : Nat) :
    Except Failure Session :=
  let proxy := proxy.filter (· ≠ "")
  if proxy.any fun p => !isProxy p then
    .error (.proxy "Proxy configuration error: builder error")
  else if client.agent.any fun a => !a.toList.all isHeadChar then
    .error (.client "Failed to create HTTP client: builder error")
  else .ok ⟨client.agent, proxy, retry, maxSize⟩

/-- The session of a download. -/
def ofDownload (download : Download) : Except Failure Session :=
  start download.client download.proxy download.retry download.maxSize

variable (s : Session)

/-- The failure of a request that was sent in vain, perhaps several times. -/
def unanswered (detail : String) : Failure :=
  match s.retry with
  | none => .request detail
  | some _ => .repeatedRequest detail

/-- The answer for an address.  An address that no request can be made of fails at once. -/
def get (network : Network) (url : String) : Except Failure Response :=
  match Url.parse url with
  | .error _ => .error (.request "builder error")
  | .ok u =>
    if u.host.isNone then .error (.request "builder error")
    else if u.scheme ∉ ["http", "https"] then .error (s.unanswered "URL scheme is not allowed")
    else
      match network ⟨url, s.agent, s.proxy⟩ with
      | none => .error (s.unanswered ("error sending request for url (" ++ url ++ ")"))
      | some response => .ok response

/-- The failure of content that is too large. -/
def oversized (url : String) (size : Nat) : Failure :=
  .download
    ("Rule-set " ++ url ++ " size (" ++ toString size ++ " bytes) exceeds configured limit (" ++
      toString s.maxSize ++ " bytes)")

/-- The content of an answer.  Its announced length is looked at before its content. -/
def accept (url : String) (r : Response) : Except Failure Content :=
  if !r.isSuccess then
    .error (.download ("Failed to fetch rule-set " ++ url ++ ", status: " ++ r.statusText))
  else
    match r.announced.filter (s.maxSize < ·), r.content with
    | some size, _ => .error (s.oversized url size)
    | none, none => .error (.request ("error decoding response body for url (" ++ url ++ ")"))
    | none, some content =>
      if s.maxSize < content.length then .error (s.oversized url content.length)
      else if content.isEmpty then
        .error (.download ("Rule-set " ++ url ++ " returned an empty body"))
      else .ok content

/-- Fetch rule-sets with the session. -/
def fetcher (network : Network) : Fetcher := fun url =>
  match s.get network url with
  | .error e => .failed e
  | .ok response =>
    match s.accept url response with
    | .error e => .failed e
    | .ok content => .body content

end Session
end ProxyConfig
