import Walkthrough.Fault
/-!
Requests to a server and its replies.
-/

namespace Walkthrough

structure Fetch where
  path : String
  parameters : List (String × Json)

inductive Body where
  | value (content : Json)
  | text (content : String)

structure Reply where
  url : String
  status : Nat
  body : Body

abbrev Answered := Except Fault Reply

namespace Fetch

def ordered (fetch : Fetch) : List (String × Json) :=
  fetch.parameters.mergeSort fun left right => decide (left.1 ≤ right.1)

/-- The key under which the reply is kept: the path and the parameters in order of their names. -/
def key (fetch : Fetch) : String :=
  if fetch.parameters.isEmpty then fetch.path
  else
    let shown := fetch.ordered.map fun parameter =>
      "(" ++ Text.quoted parameter.1 ++ ", " ++ parameter.2.quotedForm ++ ")"
    fetch.path ++ "?[" ++ ", ".intercalate shown ++ "]"

def valueText : Json → String
  | .null => ""
  | .bool truth => if truth then "true" else "false"
  | value => value.display

/-- The parameters as texts, in the order in which they are sent; a list is sent item by item. -/
def texts (fetch : Fetch) : List (String × String) :=
  fetch.parameters.flatMap fun parameter =>
    match parameter.2 with
    | .list items => items.map fun item => (parameter.1, valueText item)
    | value => [(parameter.1, valueText value)]

def address (base : Address) (fetch : Fetch) : Except Address.Defect Address := do
  let plain ← base.below (← Address.read fetch.path)
  if fetch.parameters.isEmpty then return plain else plain.withParameters fetch.texts

end Fetch

namespace Reply

def reasons : List (Nat × String) :=
  [(100, "Continue"), (101, "Switching Protocols"), (102, "Processing"), (103, "Early Hints"),
   (200, "OK"), (201, "Created"), (202, "Accepted"), (203, "Non-Authoritative Information"),
   (204, "No Content"), (205, "Reset Content"), (206, "Partial Content"), (207, "Multi-Status"),
   (208, "Already Reported"), (226, "IM Used"), (300, "Multiple Choices"),
   (301, "Moved Permanently"), (302, "Found"), (303, "See Other"), (304, "Not Modified"),
   (305, "Use Proxy"), (307, "Temporary Redirect"), (308, "Permanent Redirect"),
   (400, "Bad Request"), (401, "Unauthorized"), (402, "Payment Required"), (403, "Forbidden"),
   (404, "Not Found"), (405, "Method Not Allowed"), (406, "Not Acceptable"),
   (407, "Proxy Authentication Required"), (408, "Request Timeout"), (409, "Conflict"),
   (410, "Gone"), (411, "Length Required"), (412, "Precondition Failed"),
   (413, "Request Entity Too Large"), (414, "Request-URI Too Long"),
   (415, "Unsupported Media Type"), (416, "Requested Range Not Satisfiable"),
   (417, "Expectation Failed"), (418, "I'm a teapot"), (421, "Misdirected Request"),
   (422, "Unprocessable Entity"), (423, "Locked"), (424, "Failed Dependency"),
   (425, "Too Early"), (426, "Upgrade Required"), (428, "Precondition Required"),
   (429, "Too Many Requests"), (431, "Request Header Fields Too Large"),
   (451, "Unavailable For Legal Reasons"), (500, "Internal Server Error"),
   (501, "Not Implemented"), (502, "Bad Gateway"), (503, "Service Unavailable"),
   (504, "Gateway Timeout"), (505, "HTTP Version Not Supported"),
   (506, "Variant Also Negotiates"), (507, "Insufficient Storage"), (508, "Loop Detected"),
   (510, "Not Extended"), (511, "Network Authentication Required")]

def reason (status : Nat) : String :=
  ((reasons.find? fun entry => entry.1 == status).map Prod.snd).getD ""

def isSuccess (reply : Reply) : Bool :=
  200 ≤ reply.status && reply.status < 300

def family (status : Nat) : String :=
  match status / 100 with
  | 1 => "Informational response"
  | 3 => "Redirect response"
  | 4 => "Client error"
  | 5 => "Server error"
  | _ => "Invalid status code"

def explanationHost : String := "developer.mozilla.org"

def statusMessage (status : Nat) (url : String) : String :=
  s!"{family status} '{status} {reason status}' for url '{url}'\n"
    ++ s!"For more information check: https://{explanationHost}/en-US/docs/Web/HTTP/Status/{status}"

/-- The value in the body of a successful reply. An empty value has no body at all. -/
def read (reply : Reply) : Except Fault Json :=
  let written := fun (content : String) =>
    match Json.readWire content with
    | .ok value => Except.ok value
    | .error error => .error (Fault.ofWireError error)
  if !reply.isSuccess then
    .error (.exchange (.status (statusMessage reply.status reply.url)))
  else match reply.body with
  | .value .null => written ""
  | .value content => .ok content
  | .text content => written content

end Reply

end Walkthrough
