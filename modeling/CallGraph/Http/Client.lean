import CallGraph.Http.Url
import CallGraph.Maven.Repository
/-!
Asking for addresses over HTTP. Answers that point elsewhere are followed, up to a number of them.
Of the final answers, those that say that there is nothing and those that report an error are
failures; the body of any other one is the contents of the address. There is a limit to the time
that each answer may take, and some limits cannot be kept at all.
-/
namespace CallGraph.Http

/-- An answer: its status, the address it points to, and its body. -/
structure Response where
  status : Nat
  location : Option String
  body : Octets

/-- The other end: for each address in its written form an answer, or why there is none. -/
abbrev Server := String → Except String Response

/-- Asking for addresses under a limit to the time: for each address what the other end answers,
unless the limit turns out to be one that cannot be kept. -/
abbrev Exchange := String → Option (Except String Response)

/-- Asking a server that is always there in time. -/
def Server.exchange (server : Server) : Exchange := fun address => some (server address)

/-- How asking goes under each limit, in seconds. -/
abbrev Web := Double → Exchange

/-- Why an address has no final answer. -/
inductive RequestError where
  | invalid (defect : UrlDefect)
  /-- The other end cannot be reached or does not keep to the rules. -/
  | protocol (reason : String)
  | limitTooLong

/-- The statuses of answers that point elsewhere. -/
def redirectStatuses : List Nat := [301, 302, 303, 307, 308]

/-- The greatest number of answers that are followed. -/
def maxRedirects : Nat := 20

/-- Where an answer points to. A relative address is taken from the one that was asked for, one
without a host gets the host of that, and the fragment stays unless there is a new one. -/
def redirectTarget (asked : Url) (location : String) : Except RequestError Url :=
  match Url.parse location.toList with
  | .error defect =>
    .error (.protocol ("Invalid URL in location header: " ++ defect.message ++ "."))
  | .ok url =>
    let target : Except UrlDefect Url := do
      let url ← if !url.scheme.isEmpty && url.host.isEmpty then url.withHost asked.host else pure url
      let url ← if url.isAbsolute then pure url else asked.join url
      return if (url.fragment.getD []).isEmpty then
        if (asked.fragment.getD []).isEmpty then url else url.withFragment asked.fragment
        else url
    target.mapError .invalid

/-- Asks for an address and follows the answers; the addresses asked for come with the last one. -/
def follow (exchange : Exchange) : Nat → Url → List String × Except RequestError Response
  | fuel, url =>
    match exchange url.text with
    | none => ([url.text], .error .limitTooLong)
    | some (.error reason) => ([url.text], .error (.protocol reason))
    | some (.ok response) =>
      match response.location with
      | none => ([url.text], .ok response)
      | some location =>
        if !redirectStatuses.contains response.status then ([url.text], .ok response)
        else match redirectTarget url location with
          | .error e => ([url.text], .error e)
          | .ok target =>
            match fuel with
            | 0 => ([url.text], .error (.protocol "Exceeded maximum allowed redirects."))
            | fuel + 1 =>
              let (asked, result) := follow exchange fuel target
              (url.text :: asked, result)

/-- Statuses that say that there is nothing at an address. -/
def absentStatuses : List Nat := [404, 410]

/-- What a final answer means for an address. -/
def readResponse (url : String) (response : Response) : Except Stop Octets :=
  if absentStatuses.contains response.status then .error (.failure (.nothingAt url))
  else if 400 ≤ response.status ∧ response.status < 600 then
    .error (.failure (.unreachable url ("HTTP " ++ response.status.repr)))
  else .ok response.body

/-- The address that is asked for under a text. -/
def addressOf (text : String) : Except UrlDefect Url := do
  let url ← Url.parse text.toList
  if url.isAbsolute then return url else url.rooted

/-- The contents that follow from how a request for a text ends. -/
def contentsOf (text : String) : Except RequestError Response → Except Stop Octets
  | .error (.invalid defect) => .error (.failure (.invalidUrl text defect.message))
  | .error (.protocol reason) => .error (.failure (.unreachable text reason))
  | .error .limitTooLong => .error (.fault .limitTooLong)
  | .ok response => readResponse text response

/-- The contents of addresses, as asking for them goes. -/
def fetcherOf (exchange : Exchange) : Maven.Fetcher := fun text =>
  match addressOf text with
  | .error defect => ⟨[], contentsOf text (.error (.invalid defect))⟩
  | .ok url =>
    let (asked, result) := follow exchange maxRedirects url
    ⟨asked, contentsOf text result⟩

/-- The contents of addresses that a server holds. -/
def fetcher (server : Server) : Maven.Fetcher := fetcherOf server.exchange

end CallGraph.Http
