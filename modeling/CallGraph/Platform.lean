import CallGraph.Text.Utf8
/-!
What the program leaves to the platform that runs it. Calls inside one another need room, and data
that ask for more of it than there is end the run; and whoever reads a format says in its own words
what is wrong with the data that it refuses. The program lays down neither, so everything that
depends on them is said of any platform.
-/
namespace CallGraph

/-- The formats whose readers have their own words for what is wrong. -/
inductive Format where
  | json
  | toml
  | xml
  /-- The schema of raw call graphs. -/
  | rawGraph
  /-- The schema of documents. -/
  | revision
  /-- The schema of settings. -/
  | settings
deriving DecidableEq, Repr

/-- A platform that runs the program. -/
class Platform where
  /-- The greatest number of containers around a part of a value that is shown in a message. -/
  shownNesting : Nat
  /-- The greatest number of missing directories on the way to one that is made with them. -/
  missingDirectories : Nat
  /-- There is room to read the value at the beginning of a TOML text inside so many calls. -/
  roomForToml : Nat → List Char → Bool
  /-- What the reader of a format says of octets that it refuses. -/
  complaint : Format → Octets → String

namespace Platform

/-- A platform with room for about a thousand calls, and of few words. It is found only where this
namespace is open, so that nothing is said of it by mistake. -/
scoped instance usual : Platform where
  shownNesting := 980
  missingDirectories := 980
  roomForToml calls _ := calls < 980
  complaint
    | .json, _ => "Invalid JSON"
    | .toml, _ => "Invalid statement"
    | .xml, _ => "not well-formed"
    | .rawGraph, _ | .revision, _ | .settings, _ => "validation error"

end Platform

end CallGraph
