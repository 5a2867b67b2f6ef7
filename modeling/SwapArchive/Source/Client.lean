import SwapArchive.Config.Basic
import SwapArchive.Retry
import SwapArchive.Source.Address
import SwapArchive.Source.Basic
import SwapArchive.Source.Page
import SwapArchive.Source.Query

/-!
# Remote sources

A client sends queries to a remote endpoint and turns the replies into pages. A connection that
breaks, a status that is no success and a body that is cut short are transport failures, and are
tried again.
-/

namespace SwapArchive

/-- What an endpoint does with a query. Replies that send the client to another address are left
out: it would ask there on its own. -/
inductive Reply where
  /-- A status and a complete body. -/
  | complete (status : Nat) (body : List UInt8)
  /-- A status and a body that ends too early. -/
  | cut (status : Nat)
  /-- The connection is closed without an answer. -/
  | dropped
  deriving DecidableEq, Repr

/-- An endpoint: the replies it is going to give, and the queries it has received, the last one
first. -/
structure Endpoint where
  replies : List Reply
  received : List String
  deriving DecidableEq, Repr

/-- An endpoint takes a query and replies. With no reply left it fails. -/
def Endpoint.reply (e : Endpoint) (query : String) : Reply × Endpoint :=
  (e.replies.headD (.complete 500 []), ⟨e.replies.tail, query :: e.received⟩)

/-- The phrases that go with the codes of a status. -/
def statusPhrases : List (Nat × String) := [
  (100, "Continue"), (101, "Switching Protocols"), (102, "Processing"), (103, "Early Hints"),
  (200, "OK"), (201, "Created"), (202, "Accepted"), (203, "Non Authoritative Information"),
  (204, "No Content"), (205, "Reset Content"), (206, "Partial Content"), (207, "Multi-Status"),
  (208, "Already Reported"), (226, "IM Used"),
  (300, "Multiple Choices"), (301, "Moved Permanently"), (302, "Found"), (303, "See Other"),
  (304, "Not Modified"), (305, "Use Proxy"), (307, "Temporary Redirect"),
  (308, "Permanent Redirect"),
  (400, "Bad Request"), (401, "Unauthorized"), (402, "Payment Required"), (403, "Forbidden"),
  (404, "Not Found"), (405, "Method Not Allowed"), (406, "Not Acceptable"),
  (407, "Proxy Authentication Required"), (408, "Request Timeout"), (409, "Conflict"),
  (410, "Gone"), (411, "Length Required"), (412, "Precondition Failed"),
  (413, "Payload Too Large"), (414, "URI Too Long"), (415, "Unsupported Media Type"),
  (416, "Range Not Satisfiable"), (417, "Expectation Failed"), (418, "I'm a teapot"),
  (421, "Misdirected Request"), (422, "Unprocessable Entity"), (423, "Locked"),
  (424, "Failed Dependency"), (425, "Too Early"), (426, "Upgrade Required"),
  (428, "Precondition Required"), (429, "Too Many Requests"),
  (431, "Request Header Fields Too Large"), (451, "Unavailable For Legal Reasons"),
  (500, "Internal Server Error"), (501, "Not Implemented"), (502, "Bad Gateway"),
  (503, "Service Unavailable"), (504, "Gateway Timeout"), (505, "HTTP Version Not Supported"),
  (506, "Variant Also Negotiates"), (507, "Insufficient Storage"), (508, "Loop Detected"),
  (510, "Not Extended"), (511, "Network Authentication Required")]

/-- A status with its phrase. -/
def describeStatus (status : Nat) : String :=
  toString status ++ " " ++ (statusPhrases.lookup status).getD "<unknown status code>"

def isSuccess (status : Nat) : Bool := 200 ≤ status && status ≤ 299

/-- The status of an answer that has no body. -/
def noContent : Nat := 204

/-- The status of an answer that ends the exchange of queries and answers. -/
def switchingProtocols : Nat := 101

/-- Whether a status can be that of an answer. Codes have three digits, and those from 100 to 199
only announce that the answer is still to come, except for the one that ends the exchange. -/
def isFinal (status : Nat) : Bool :=
  status == switchingProtocols || (200 ≤ status && status ≤ 999)

structure Client where
  url : String
  pools : List String
  pageSize : Nat
  retry : RetryPolicy
  proxies : Proxies := {}
  deriving Repr

namespace Client

/-- The client of a configuration: pools in lower case, and at least one and at most a thousand
swaps on a page. -/
def ofConfig (c : SourceConfig) : Client where
  url := c.url
  pools := c.pools.map Text.toLower
  pageSize := max 1 (min c.pageSize pageLimit)
  retry := ⟨c.retryBaseMillis, c.maxRetries⟩

/-- The query of a client for the swaps up to a time. -/
def query (client : Client) (asOf : Int) : String :=
  queryText client.pools client.pageSize asOf

/-- The failure of a query that is answered by a status which is no success. -/
def refusal (status : Nat) : Failure :=
  .transport ("query failed with status code " ++ describeStatus status)

/-- The failure of a body that ends too early. -/
def cutBody : Failure := .transport "failed to read body: error decoding response body"

/-- The failure of a query that gets no answer, with the address that was asked. -/
def noAnswer (address : String) : Failure :=
  .transport s!"error sending request for url ({address})"

/-- The failure of a query that cannot be put together, with its address if it has one. -/
def noQuery (address : Option String) : Failure :=
  match address with
  | some address => .transport s!"builder error for url ({address})"
  | none => .transport "builder error"

/-- The page in a reply from an address, or what was wrong with it. -/
def pageOfReply (address : String) : Reply → Outcome (List Swap)
  | .dropped => .error (noAnswer address)
  | .cut status =>
    if !isFinal status then .error (noAnswer address)
    else if !isSuccess status then .error (refusal status)
    -- There is no body that could be cut off, and nothing is no page.
    else if status = noContent then readPage []
    else .error cutBody
  | .complete status body =>
    if !isFinal status then .error (noAnswer address)
    else if !isSuccess status then .error (refusal status)
    else readPage (if status = noContent then [] else body)

/-- **Request**: one query and the page in its reply, if the address of the client leads to the
endpoint. -/
def request (client : Client) (asOf : Int) (endpoint : Endpoint) :
    Outcome (List Swap) × Endpoint :=
  match Target.ofText client.proxies client.url with
  | .unreadable => (.error (noQuery none), endpoint)
  | .unsendable address => (.error (noQuery (some address)), endpoint)
  | .unreachable address => (.error (noAnswer address), endpoint)
  | .endpoint address =>
    let (reply, endpoint) := endpoint.reply (client.query asOf)
    (pageOfReply address reply, endpoint)

/-- **Client as a source**: every page is asked for until a reply is not a transport failure, or
the attempts are used up. -/
def source (client : Client) (draw : Nat → UInt64) : Source Endpoint where
  pageSize := client.pageSize
  fetch asOf endpoint :=
    let retried := client.retry.run draw (client.request asOf) endpoint
    { reply := retried.result
      -- The query is reported once, however often it is repeated.
      records := .debug "querying swaps" [("as_of_time", toString asOf)]
        :: retried.pauses.map client.retry.pauseRecord
      next := retried.state }

end Client
end SwapArchive
