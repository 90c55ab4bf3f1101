import ProxyConfig.Files.Tree

/-!
# The network

What a client asks a server for, and what comes back.  A network is whatever gives an answer to each
request; redirections are followed inside it.
-/

namespace ProxyConfig

open Files

/-- A request for the resource of an address. -/
structure Request where
  url : String
  /-- The name by which the client introduces itself. -/
  agent : Option String
  /-- The address of the proxy that forwards the request. -/
  proxy : Option String
deriving Repr, DecidableEq, Inhabited

/-- The answer to a request. -/
structure Response where
  status : Nat
  /-- The length of the content that is announced before it. -/
  announced : Option Nat
  /-- The content; missing when the connection ends before the content does. -/
  content : Option Content
deriving Repr, DecidableEq, Inhabited

/-- The answer to each request; missing when the server cannot be reached. -/
abbrev Network := Request → Option Response

/-- The network of a machine that is connected to nothing. -/
def Network.none : Network := fun _ => Option.none

namespace Response

/-- The registered reasons of answers that are no success. -/
def reasons : List (Nat × String) :=
  [(100, "Continue"), (101, "Switching Protocols"), (102, "Processing"), (300, "Multiple Choices"),
    (301, "Moved Permanently"), (302, "Found"), (303, "See Other"), (304, "Not Modified"),
    (305, "Use Proxy"), (307, "Temporary Redirect"), (308, "Permanent Redirect"),
    (400, "Bad Request"), (401, "Unauthorized"), (402, "Payment Required"), (403, "Forbidden"),
    (404, "Not Found"), (405, "Method Not Allowed"), (406, "Not Acceptable"),
    (407, "Proxy Authentication Required"), (408, "Request Timeout"), (409, "Conflict"),
    (410, "Gone"), (411, "Length Required"), (412, "Precondition Failed"),
    (413, "Payload Too Large"), (414, "URI Too Long"), (415, "Unsupported Media Type"),
    (416, "Range Not Satisfiable"), (417, "Expectation Failed"), (418, "I'm a teapot"),
    (421, "Misdirected Request"), (422, "Unprocessable Entity"), (423, "Locked"),
    (424, "Failed Dependency"), (425, "Too Early"), (426, "Upgrade Required"),
    (428, "Precondition Required"), (429, "Too Many Requests"),
    (431, "Request Header Fields Too Large"), (451, "Unavailable For Legal Reasons"),
    (500, "Internal Server Error"), (501, "Not Implemented"), (502, "Bad Gateway"),
    (503, "Service Unavailable"), (504, "Gateway Timeout"), (505, "HTTP Version Not Supported"),
    (506, "Variant Also Negotiates"), (507, "Insufficient Storage"), (508, "Loop Detected"),
    (510, "Not Extended"), (511, "Network Authentication Required")]

/-- The status with its reason. -/
def statusText (r : Response) : String :=
  toString r.status ++ " " ++ (reasons.lookup r.status).getD "<unknown status code>"

/-- The request succeeded. -/
def isSuccess (r : Response) : Bool :=
  200 ≤ r.status && r.status < 300

end Response
end ProxyConfig
