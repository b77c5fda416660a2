import CallGraph.CommandLine.Run
import CallGraph.Proofs.Pipeline.Record
import CallGraph.Proofs.Revision.FileName
import CallGraph.Proofs.Revision.Publication
import CallGraph.Proofs.Revision.RoundTrip

/-! What ends a batch where documents are written to a directory. What the
system refuses is a failure of the document's artifact. Three kinds of faults are
left: the name of the directory cannot be the name of a file, too many directories
are missing on the way to it, or an integer of the document does not fit into 64
bits. -/
namespace CallGraph
open Listing

namespace Revision

variable {doc : Revision} {dir : FilePath} {files : FileTree} {fault : Fault}

/-- A document can be written in no layout if one of its integers does not
fit. -/
theorem render_eq_error (layout : Json.Layout) :
    (∃ e, doc.render layout = .error e) ↔ ∃ i ∈ doc.integers, ¬ Holds64 i := by
  by_cases fits : ∀ i ∈ doc.integers, Holds64 i
  · have written := render_fits (fun i mem => (fitsDocument_iff i).2 (fits i mem)) layout
    simpa [written] using fits
  · push Not at fits
    obtain ⟨i, mem, large⟩ := fits
    have found : (doc.integers.find? fun i => !Json.fitsDocument i).isSome = true := by
      rw [List.find?_isSome]
      refine ⟨i, mem, ?_⟩
      rw [Bool.not_eq_true', ← Bool.not_eq_true, fitsDocument_iff]
      exact large
    obtain ⟨j, first⟩ := Option.isSome_iff_exists.1 found
    exact ⟨fun _ => ⟨i, mem, large⟩, fun _ => ⟨⟨j⟩, by rw [render, first]⟩⟩

theorem fileContents_eq_error :
    (∃ e, doc.fileContents = .error e) ↔ ∃ i ∈ doc.integers, ¬ Holds64 i := by
  rw [← render_eq_error .indented, fileContents]
  simp [Listing.bind_eq_error, pure, Except.pure]

section

variable [Platform]

/-- What brings a fault about where a document is written to a directory. -/
inductive WriteFault (doc : Revision) (dir : FilePath) (files : FileTree) : Fault → Prop
  /-- No file can have the name of the directory. -/
  | nul (nul : dir.HasNul) : WriteFault doc dir files .nulInName
  /-- More directories are missing than can be made with the one for the document. -/
  | tooFar (far : files.TooFar dir) : WriteFault doc dir files .tooDeep
  /-- An integer of the document does not fit, and the directory is there. -/
  | integer {made : FileTree} {i : Int} (ready : FileTree.establish dir files = .ok () made)
      (mem : i ∈ doc.integers) (large : ¬ Holds64 i) : WriteFault doc dir files .integerTooLarge

end

end Revision

namespace Maven

theorem char_of_isPart {text : String} {c : Char} (ok : isPart text = true)
    (mem : c ∈ text.toList) : Text.isBlank c = false ∧ Text.isPrintable c = true := by
  have each := List.all_eq_true.1 (Bool.and_eq_true_iff.1 ok).2 c mem
  simpa using each

end Maven

namespace Pipeline

section

variable [Platform]

/-- Documents are written to a directory. -/
def writeTo (dir : FilePath) : Delivery Workspace := fun doc =>
  (doc.publish (some dir) false).adaptExcept CommandLine.publishStop

variable {dir : FilePath} {doc : Revision} {space after : Workspace} {fault : Fault} {stop : Stop}

theorem writeTo_eq_error : writeTo dir doc space = .error stop after ↔
    ∃ e, doc.writeFile dir space = .error e after ∧ CommandLine.publishStop e = stop := by
  rw [writeTo, Attempt.adaptExcept_eq_error, Revision.publish_some]
  simp only [Attempt.bind_eq_error]
  refine exists_congr fun e => and_congr_left fun _ => or_iff_left ?_
  rintro ⟨_, _, -, done⟩
  cases done

end

end Pipeline

end CallGraph
