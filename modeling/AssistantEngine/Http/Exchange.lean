import AssistantEngine.Http.Address
import AssistantEngine.Json.Basic

/-!
Exchanges over HTTP: a request with a JSON body, and the response to it as a status and a
text. A network is known by how it answers requests.
-/

namespace AssistantEngine

structure HttpRequest where
  url : String
  headers : List (String × String) := []
  body : Json
deriving DecidableEq

structure HttpResponse where
  status : Nat
  body : String
deriving DecidableEq, Repr

/-- Why an exchange did not come to its end. -/
inductive HttpFailure where
  /-- The request could not be sent, or no response came. -/
  | notSent (reason : String)
  /-- The response broke off. -/
  | notRead (reason : String)
deriving DecidableEq, Repr

abbrev Network := HttpRequest → Except HttpFailure HttpResponse

namespace HttpResponse

def isSuccess (response : HttpResponse) : Bool :=
  200 ≤ response.status && response.status < 300

end HttpResponse

namespace HttpRequest

/-- Why a request to an address cannot be sent. -/
def sendingText (url : String) : String :=
  match Address.ofText? url with
  | none => "builder error"
  | some address =>
    let shown := address.text
    if address.isReachable then s!"error sending request for url ({shown})"
    else s!"builder error for url ({shown})"

/-- The value of a header has no controls but tabs. -/
def isHeaderValue (value : String) : Bool :=
  value.toList.all fun character =>
    character = '\t' || (32 ≤ character.toNat && character.toNat ≠ 127)

/-- Why a request cannot be sent where nobody listens. Its headers are looked at if its address
has a host. -/
def refusal (request : HttpRequest) : String :=
  if (Address.ofText? request.url).any Address.hasHost &&
      request.headers.any fun (_, value) => !isHeaderValue value then "builder error"
  else sendingText request.url

end HttpRequest

/-- The network that reaches nobody. -/
def Network.unreachable : Network := fun request =>
  .error (.notSent request.refusal)

/-! ## Status texts -/

namespace HttpResponse

/-- The reasons that belong to the registered status codes. -/
def reasons : List (Nat × String) :=
  [(100, "Continue"), (101, "Switching Protocols"), (102, "Processing"),
    (200, "OK"), (201, "Created"), (202, "Accepted"), (203, "Non Authoritative Information"),
    (204, "No Content"), (205, "Reset Content"), (206, "Partial Content"),
    (207, "Multi-Status"), (208, "Already Reported"), (226, "IM Used"),
    (300, "Multiple Choices"), (301, "Moved Permanently"), (302, "Found"), (303, "See Other"),
    (304, "Not Modified"), (305, "Use Proxy"), (307, "Temporary Redirect"),
    (308, "Permanent Redirect"),
    (400, "Bad Request"), (401, "Unauthorized"), (402, "Payment Required"), (403, "Forbidden"),
    (404, "Not Found"), (405, "Method Not Allowed"), (406, "Not Acceptable"),
    (407, "Proxy Authentication Required"), (408, "Request Timeout"), (409, "Conflict"),
    (410, "Gone"), (411, "Length Required"), (412, "Precondition Failed"),
    (413, "Payload Too Large"), (414, "URI Too Long"), (415, "Unsupported Media Type"),
    (416, "Range Not Satisfiable"), (417, "Expectation Failed"), (418, "I'm a teapot"),
    (421, "Misdirected Request"), (422, "Unprocessable Entity"), (423, "Locked"),
    (424, "Failed Dependency"), (425, "Too Early"), (426, "Upgrade Required"),
    (428, "Precondition Required"), (429, "Too Many Requests"),
    (431, "Request Header Fields Too Large"), (451, "Unavailable For Legal Reasons"),
    (500, "Internal Server Error"), (501, "Not Implemented"), (502, "Bad Gateway"),
    (503, "Service Unavailable"), (504, "Gateway Timeout"), (505, "HTTP Version Not Supported"),
    (506, "Variant Also Negotiates"), (507, "Insufficient Storage"), (508, "Loop Detected"),
    (510, "Not Extended"), (511, "Network Authentication Required")]

/-- The status code with its reason. -/
def statusText (response : HttpResponse) : String :=
  let reason := (reasons.lookup response.status).getD "<unknown status code>"
  s!"{response.status} {reason}"

end HttpResponse

end AssistantEngine
