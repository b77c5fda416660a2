import CallGraph.Maven.Pom
import CallGraph.Trace
/-!
Files from repositories. The repositories of a coordinate are tried in order, and the first one
that serves the file wins. A repository that does not have the file, or that cannot be reached, is
passed over; any other failure ends the search.
-/
namespace CallGraph.Maven

/-- What asking for an address comes to: the addresses asked for on the way, and the contents. -/
structure Fetched where
  requests : List String
  contents : Except Stop Octets

/-- A way to get the contents of addresses. -/
abbrev Fetcher := String → Fetched

/-- The work of asking for an address. -/
def fetch (fetcher : Fetcher) (url : String) : Trace Octets :=
  let fetched := fetcher url
  ⟨fetched.requests.map .requested, fetched.contents⟩

/-- How a search takes a failure at one address. -/
inductive Verdict where
  /-- There is nothing; the search goes on. -/
  | absent
  /-- The address failed; the search goes on. -/
  | failed
  | final
deriving DecidableEq

def verdict : Stop → Verdict
  | .failure failure =>
    match failure.kind with
    | .inl .notFound => .absent
    | .inl .fetch => .failed
    | _ => .final
  | .fault _ => .final

/-- Asks for addresses in order until one serves. `failed` are the addresses that failed before. -/
def fetchFirst (fetcher : Fetcher) (what : String) (failed : List String) :
    List String → Trace Octets
  | [] =>
    .ofExcept (.error (.failure
      (if failed.isEmpty then .inNoRepository what else .notRetrieved what failed)))
  | url :: urls =>
    let attempt := fetch fetcher url
    match attempt.result with
    | .ok contents => ⟨attempt.events, .ok contents⟩
    | .error stop =>
      match verdict stop with
      | .final => ⟨attempt.events, .error stop⟩
      | .absent =>
        let rest := fetchFirst fetcher what failed urls
        ⟨attempt.events ++ rest.events, rest.result⟩
      | .failed =>
        let rest := fetchFirst fetcher what (failed ++ [url]) urls
        ⟨attempt.events ++ rest.events, rest.result⟩

def fetchPom (fetcher : Fetcher) (coordinate : Coordinate) : Trace Octets :=
  fetchFirst fetcher ("POM for " ++ coordinate.text) [] (coordinate.repos.map coordinate.pomUrl)

def fetchJar (fetcher : Fetcher) (coordinate : Coordinate) : Trace Octets :=
  fetchFirst fetcher ("JAR for " ++ coordinate.text) [] (coordinate.repos.map coordinate.jarUrl)

section

variable [Platform]

/-- How a defect of a build file of some octets ends the work on its artifact. -/
def Pom.Defect.stop (octets : Octets) : Pom.Defect → Stop
  | .unreadable .malformed => .failure (.pomUnreadable (Platform.complaint .xml octets))
  | .unreadable .unknownCharset => .fault .unknownCharset
  | .unreadable .wideCharset => .fault .wideCharset
  | .unreadable (.unusableCharset name) => .fault (.unusableCharset name)
  | .incompleteDependency => .failure .pomIncomplete

def resolveDependencies (fetcher : Fetcher) (coordinate : Coordinate) : Trace DependencySet := do
  let pom ← fetchPom fetcher coordinate
  Trace.ofExcept ((Pom.readDependencies pom).mapError (Pom.Defect.stop pom))

/-- The dependencies of several artifacts, one after the other. -/
def mergeDependencies (fetcher : Fetcher) : List Coordinate → Trace DependencySet
  | [] => pure []
  | coordinate :: coordinates => do
    let first ← resolveDependencies fetcher coordinate
    let rest ← mergeDependencies fetcher coordinates
    return first ++ rest

end

end CallGraph.Maven
