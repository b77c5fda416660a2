import CallGraph.FileTree.Basic
import CallGraph.Maven.Repository
import CallGraph.RawGraph.Assembly
import CallGraph.RawGraph.Reader
/-!
Generating the document of one artifact: its dependencies, its classes, the analyzer's raw call
graph of them, and the call graph that follows from it. The classes of an artifact from a
repository are kept in a file only while they are analyzed.
-/
namespace CallGraph.Pipeline

/-- A way to find the raw call graph of the classes at some paths. -/
abbrev Analyzer := FileTree → List FilePath → Except Stop RawGraph

def analyze (analyzer : Analyzer) (files : FileTree) (classpath : List FilePath) :
    Trace RawGraph :=
  ⟨[.analyzed (classpath.map fun path => (path, files.contains path))], analyzer files classpath⟩

section

variable [Platform]

/-- The raw call graph in the contents of a file. -/
def readRawGraph (octets : Octets) : Except Stop RawGraph :=
  (RawGraph.ofOctets octets).mapError fun defects =>
    .failure (.rawGraph defects (Platform.complaint .rawGraph octets))

/-- The raw call graph in a file, whatever the classes are. -/
def precomputed (path : FilePath) : Analyzer := fun files _ => do
  let contents ← (files.read path).mapError FileError.stop
  readRawGraph contents

end

/-- The document of classes in a file. -/
def generateForJar (analyzer : Analyzer) (files : FileTree) (jar : FilePath)
    (product version : String) (timestamp : Int) (depset : DependencySet) : Trace Revision := do
  let raw ← analyze analyzer files [jar]
  let graph ← Trace.ofExcept (raw.assemble.mapError fun defect => .failure (.jvm defect))
  Trace.ofExcept ((Revision.build product version timestamp depset graph).mapError fun _ =>
    .fault .numberTooLong)

/-- Where the classes of an artifact from a repository are kept while they are analyzed. -/
def temporaryJar : FilePath := ⟨"/", ["tmp", "fasten.jar"]⟩

/-- The files while the classes of an artifact are kept among them. -/
def withTemporaryJar (files : FileTree) (contents : Octets) : FileTree :=
  files.put temporaryJar.segments (.file contents)

def generate [Platform] (fetcher : Maven.Fetcher) (analyzer : Analyzer) (files : FileTree)
    (coordinate : Maven.Coordinate) (timestamp : Int) : Trace Revision := do
  let depset ← Maven.resolveDependencies fetcher coordinate
  let jar ← Maven.fetchJar fetcher coordinate
  generateForJar analyzer (withTemporaryJar files jar) temporaryJar coordinate.product
    coordinate.version timestamp depset

end CallGraph.Pipeline
